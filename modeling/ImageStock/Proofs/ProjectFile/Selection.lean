import ImageStock.Proofs.Directory
import ImageStock.Proofs.ProjectFile.KnownFields
import ImageStock.Proofs.Within

/-! Which project file counts. Main statement: the result depends on the one file that is selected
and on no other, and what is wrong with that file is the failure of the whole. -/

namespace ImageStock

def FileNode.content? : FileNode → Option (List UInt8)
  | .file content _ => some content
  | .directory => none

namespace Host

def shows (h : Host) (path : String) : Except SystemError (Option (List UInt8)) :=
  (h.files.find h.directory path).map FileNode.content?

variable {h h' : Host} {path : String}

def Holds (h : Host) (path : String) : Prop := ∃ seen, h.shows path = .ok seen

def HoldsFile (h : Host) (path : String) : Prop := ∃ content, h.shows path = .ok (some content)

theorem isFile_iff : h.files.isFile h.directory path = true ↔ h.HoldsFile path := by
  rw [FileTree.isFile, HoldsFile, shows]
  cases h.files.find h.directory path with
  | error e => simp [Except.map]
  | ok node => cases node <;> simp [Except.map, FileNode.content?]

theorem pathExists_iff : h.pathExists path = true ↔ h.Holds path := by
  rw [pathExists, FileTree.pathExists, Holds, shows]
  cases h.files.find h.directory path with
  | error e => simp [Except.map, Except.isOk, Except.toBool]
  | ok node => simp [Except.map, Except.isOk, Except.toBool]

theorem shows_eq_none_iff :
    h.shows path = .ok none ↔ h.files.find h.directory path = .ok .directory := by
  rw [shows]
  cases h.files.find h.directory path with
  | error e => simp [Except.map]
  | ok node => cases node <;> simp [Except.map, FileNode.content?]

theorem read_eq (h : Host) (path : String) :
    h.read path = match h.shows path with
      | .ok (some content) => .ok content
      | .ok none => .error ((Failure.of (.system .isADirectory)).within (.reading path))
      | .error e => .error ((Failure.of (.system e)).within (.reading path)) := by
  rw [read, FileTree.read, shows]
  cases h.files.find h.directory path with
  | error e => rfl
  | ok node => cases node <;> rfl

/-- A directory has an entry of a name, whatever stands there. -/
def HasEntry (h : Host) (dir name : String) : Prop :=
  ∃ k node, h.files.LeadsToDirectory h.directory dir k ∧ h.files.lookup (k ++ [name]) = some node

theorem holds_iff : h.Holds path ↔
    ∃ l node, h.files.locate h.directory path = .ok l ∧ h.files.lookup l = some node := by
  have found : h.Holds path ↔ ∃ node, h.files.find h.directory path = .ok node := by
    rw [Holds, shows]
    cases h.files.find h.directory path with
    | error e => simp [Except.map]
    | ok node => simp [Except.map]
  simp only [found, FileTree.find_eq_ok_iff]
  exact exists_comm

theorem holds_join_iff {dir name : String} (file : FileTree.FileName name)
    (apart : h.files.Apart name)
    (short : (h.join dir name).utf8ByteSize ≤ FileTree.pathLimit) :
    h.Holds (h.join dir name) ↔ h.HasEntry dir name := by
  rw [join] at short
  simp only [holds_iff, HasEntry, join, FileTree.locate_join_eq_ok_iff file apart, short, and_true]
  constructor
  · rintro ⟨l, node, ⟨k, leads, rfl⟩, found⟩
    exact ⟨k, node, leads, found⟩
  · rintro ⟨k, node, leads, found⟩
    exact ⟨_, node, ⟨k, leads, rfl⟩, found⟩

theorem isFile_congr (same : h.shows path = h'.shows path) :
    h.files.isFile h.directory path = h'.files.isFile h'.directory path := by
  rw [Bool.eq_iff_iff, isFile_iff, isFile_iff, HoldsFile, HoldsFile, same]

theorem pathExists_congr (same : h.shows path = h'.shows path) :
    h.pathExists path = h'.pathExists path := by
  rw [Bool.eq_iff_iff, pathExists_iff, pathExists_iff, Holds, Holds, same]

theorem read_congr (same : h.shows path = h'.shows path) : h.read path = h'.read path := by
  rw [read_eq, read_eq, same]

end Host

variable {I : Interface} {σ : Type} {m : Machine I σ} {s : σ}

theorem ProjectFile.load_value (path : String) (bytes : Except Failure (List UInt8)) :
    ((load path bytes).run.run m s).value = bytes >>= textOf path >>= loaded path := by
  cases text : bytes >>= textOf path with
  | ok document =>
      obtain ⟨given, rfl, text⟩ := bind_eq_ok.mp text
      exact (Run.silent_eq (load_silent text m s)).2.1
  | error failure =>
      have failed := Attempt.silent_ofExcept m (Except.error failure : Except Failure (List Char)) s
      rw [load, text]
      exact (Run.silent_eq (Attempt.silent_bind_ok m (Attempt.silent_notice m _ s)
        (Attempt.silent_bind_error m failed))).2.1

namespace Host

def projectAt (h : Host) (path : String) : Except Failure ProjectFile :=
  h.read path >>= textOf path >>= ProjectFile.loaded path

def HasText (h : Host) (path : String) (text : List Char) : Prop :=
  ∃ bytes, h.files.read h.directory path = .ok bytes ∧ Text.Utf8.decode? bytes = some text

/-- A path name leads to a file with a project file in it, of whatever version. -/
def HasProject (h : Host) (path : String) (p : ProjectFile) : Prop :=
  ∃ text tree unknown, h.HasText path text ∧ Toml.readDocument text = .ok tree ∧
    ProjectFile.decode (ProjectFile.rootTable tree) = .ok ⟨p, unknown⟩

/-- The ways in which a file is no project file, and the failure for each. -/
inductive Rejects (h : Host) (path : String) : Failure → Prop where
  | unread {e : SystemError} (stopped : h.files.read h.directory path = .error e) :
      h.Rejects path ((Failure.of (.system e)).within (.reading path))
  | notText {bytes : List UInt8} (found : h.files.read h.directory path = .ok bytes)
      (broken : Text.Utf8.decode? bytes = none) :
      h.Rejects path ((Failure.of (.system .invalidText)).within (.reading path))
  | malformed {text : List Char} {stop : Toml.Stop} (found : h.HasText path text)
      (stopped : Toml.readDocument text = .error stop) :
      h.Rejects path
        ((Failure.of (.malformed (.ofSpan text ⟨stop.left, stop.left - 1⟩) stop.problem)).within
          (.parsing path))
  | unfit {text : List Char} {tree : Toml.Node} {misfit : ProjectFile.Misfit}
      (found : h.HasText path text) (read : Toml.readDocument text = .ok tree)
      (misfits : ProjectFile.decode (ProjectFile.rootTable tree) = .error misfit) :
      h.Rejects path
        ((Failure.of (.unfit
          (.ofSpan text ((tree.spanAt? misfit.path).getD ⟨text.length, text.length⟩))
          misfit.mismatch)).within (.parsing path))
  | otherVersion {p : ProjectFile} {version : UInt32} (found : h.HasProject path p)
      (given : p.version = some version) (other : version ≠ 1) :
      h.Rejects path (.of (.unsupportedVersion path version))

variable {h h' : Host} {path dir : String} {p : ProjectFile} {failure : Failure}

theorem projectAt_of_text {text : List Char} (found : h.HasText path text) :
    h.projectAt path = ProjectFile.loaded path text := by
  obtain ⟨bytes, read, decoded⟩ := found
  rw [projectAt, Host.read, read]
  show textOf path bytes >>= ProjectFile.loaded path = _
  rw [textOf, decoded]
  rfl

theorem projectAt_of_project (found : h.HasProject path p) :
    h.projectAt path = p.reloaded path := by
  obtain ⟨text, tree, unknown, found, read, fits⟩ := found
  rw [projectAt_of_text found, ProjectFile.loaded, ProjectFile.parse, ProjectFile.readTree, read,
    ok_bind, fits]
  rfl

theorem projectAt_of_rejects (rejected : h.Rejects path failure) :
    h.projectAt path = .error failure := by
  cases rejected with
  | unread stopped =>
      rw [projectAt, Host.read, stopped]
      rfl
  | notText found broken =>
      rw [projectAt, Host.read, found]
      show textOf path _ >>= ProjectFile.loaded path = _
      rw [textOf, broken]
      rfl
  | malformed found stopped =>
      rw [projectAt_of_text found, ProjectFile.loaded, ProjectFile.parse, ProjectFile.readTree,
        stopped]
      rfl
  | unfit found read misfits =>
      rw [projectAt_of_text found, ProjectFile.loaded, ProjectFile.parse, ProjectFile.readTree,
        read, ok_bind, misfits]
      rfl
  | otherVersion found given other =>
      rw [projectAt_of_project found, ProjectFile.reloaded_other path given other]

theorem rejects_or_hasProject (h : Host) (path : String) :
    (∃ failure, h.Rejects path failure) ∨
      ∃ p, h.HasProject path p ∧ (p.version = none ∨ p.version = some 1) := by
  cases found : h.files.read h.directory path with
  | error e => exact .inl ⟨_, .unread found⟩
  | ok bytes =>
      cases decoded : Text.Utf8.decode? bytes with
      | none => exact .inl ⟨_, .notText found decoded⟩
      | some text =>
          have found : h.HasText path text := ⟨bytes, found, decoded⟩
          cases read : Toml.readDocument text with
          | error stop => exact .inl ⟨_, .malformed found read⟩
          | ok tree =>
              cases fits : ProjectFile.decode (ProjectFile.rootTable tree) with
              | error misfit => exact .inl ⟨_, .unfit found read fits⟩
              | ok result =>
                  have found : h.HasProject path result.value :=
                    ⟨text, tree, result.unknown, found, read, fits⟩
                  cases given : result.value.version with
                  | none => exact .inr ⟨_, found, .inl given⟩
                  | some version =>
                      by_cases first : version = 1
                      · subst first
                        exact .inr ⟨_, found, .inr given⟩
                      · exact .inl ⟨_, .otherVersion found given first⟩

theorem projectAt_eq_error_iff : h.projectAt path = .error failure ↔ h.Rejects path failure := by
  refine ⟨?_, projectAt_of_rejects⟩
  intro failed
  rcases h.rejects_or_hasProject path with ⟨other, rejected⟩ | ⟨p, found, known⟩
  · rw [projectAt_of_rejects rejected] at failed
    cases failed
    exact rejected
  · rw [projectAt_of_project found, ProjectFile.reloaded_known path known] at failed
    cases failed

theorem projectAt_eq_ok_iff :
    h.projectAt path = .ok p ↔ h.HasProject path p ∧ (p.version = none ∨ p.version = some 1) := by
  constructor
  · intro ended
    rcases h.rejects_or_hasProject path with ⟨failure, rejected⟩ | ⟨other, found, known⟩
    · rw [projectAt_of_rejects rejected] at ended
      cases ended
    · rw [projectAt_of_project found, ProjectFile.reloaded_known path known] at ended
      cases ended
      exact ⟨found, known⟩
  · rintro ⟨found, known⟩
    rw [projectAt_of_project found, ProjectFile.reloaded_known path known]

theorem projectAt_congr (same : h.shows path = h'.shows path) :
    h.projectAt path = h'.projectAt path := by
  rw [projectAt, projectAt, read_congr same]

/-- The project file that counts: one that is asked for has to be a file, and of the two names in a
directory the visible one comes first, whatever it leads to. -/
inductive Selects (h : Host) (dir : String) : Option String → String → Prop where
  | asked {path : String} (file : h.HoldsFile path) : h.Selects dir (some path) path
  | visible (there : h.Holds (h.join dir projectFileName)) :
      h.Selects dir none (h.join dir projectFileName)
  | hidden (absent : ¬ h.Holds (h.join dir projectFileName))
      (there : h.Holds (h.join dir hiddenProjectFileName)) :
      h.Selects dir none (h.join dir hiddenProjectFileName)

theorem loadProject_none (h : Host) (dir : String) :
    h.loadProject (I := I) none dir =
      if h.pathExists (h.join dir projectFileName) then do
        if h.pathExists (h.join dir hiddenProjectFileName) then Attempt.notice .twoProjectFiles
        let path := h.join dir projectFileName
        return some (← ProjectFile.load path (h.read path))
      else if h.pathExists (h.join dir hiddenProjectFileName) then do
        let path := h.join dir hiddenProjectFileName
        return some (← ProjectFile.load path (h.read path))
      else return none := by
  simp only [loadProject, findProjectFile]
  split
  · split <;> rfl
  · split <;> rfl

theorem load_some_value (h : Host) (path : String) :
    ((ProjectFile.load path (h.read path) >>= fun p => pure (some p) :
      Attempt I Failure (Option ProjectFile)).run.run m s).value = (h.projectAt path).map some := by
  obtain ⟨-, -, value⟩ := Attempt.run_bind_pure m (ProjectFile.load path (h.read path)) some s
  rw [value, ProjectFile.load_value]
  rfl

theorem loadProject_asked (file : h.HoldsFile path) :
    ((h.loadProject (some path) dir).run.run m s).value = (h.projectAt path).map some := by
  simp only [loadProject]
  rw [if_pos (isFile_iff.mpr file)]
  exact h.load_some_value path

theorem loadProject_noSuchFile (missing : ¬ h.HoldsFile path) :
    ((h.loadProject (some path) dir).run.run m s).value = .error (.of (.noSuchFile path)) := by
  simp only [loadProject]
  rw [if_neg (mt isFile_iff.mp missing)]
  rfl

theorem loadProject_of_selects {explicit : Option String} (selects : h.Selects dir explicit path) :
    ((h.loadProject explicit dir).run.run m s).value = (h.projectAt path).map some := by
  cases selects with
  | asked file => exact loadProject_asked file
  | visible there =>
      rw [loadProject_none, if_pos (pathExists_iff.mpr there)]
      split <;> exact h.load_some_value _
  | hidden absent there =>
      rw [loadProject_none, if_neg (mt pathExists_iff.mp absent),
        if_pos (pathExists_iff.mpr there)]
      exact h.load_some_value _

theorem loadProject_eq_none_iff :
    ((h.loadProject none dir).run.run m s).value = .ok none ↔
      ¬ h.Holds (h.join dir projectFileName) ∧ ¬ h.Holds (h.join dir hiddenProjectFileName) := by
  have found (path : String) (selects : h.Selects dir none path) :
      ((h.loadProject none dir).run.run m s).value ≠ .ok none := by
    rw [loadProject_of_selects selects]
    cases h.projectAt path with
    | error failure => simp [Except.map]
    | ok p => simp [Except.map]
  constructor
  · intro nothing
    have absent : ¬ h.Holds (h.join dir projectFileName) := fun there =>
      found _ (.visible there) nothing
    exact ⟨absent, fun there => found _ (.hidden absent there) nothing⟩
  · rintro ⟨visible, hidden⟩
    rw [loadProject_none, if_neg (mt pathExists_iff.mp visible),
      if_neg (mt pathExists_iff.mp hidden)]
    rfl

def projectFileNames : List String := [projectFileName, hiddenProjectFileName]

theorem fileName_of_mem {name : String} (member : name ∈ projectFileNames) :
    FileTree.FileName name := by
  simp only [projectFileNames, List.mem_cons, List.not_mem_nil, or_false] at member
  rcases member with rfl | rfl
  · exact ⟨by decide, by decide, by decide, by decide, by decide⟩
  · exact ⟨by decide, by decide, by decide, by decide, by decide⟩

/-- The project files of a directory have path names that are short enough, and that the name of
the top is not mistaken for. -/
structure Names (h : Host) (dir : String) : Prop where
  short : ∀ name ∈ projectFileNames, (h.join dir name).utf8ByteSize ≤ FileTree.pathLimit
  apart : ∀ name ∈ projectFileNames, h.files.Apart name

theorem Names.holds_iff (names : h.Names dir) :
    (h.Holds (h.join dir projectFileName) ↔ h.HasEntry dir projectFileName) ∧
      (h.Holds (h.join dir hiddenProjectFileName) ↔ h.HasEntry dir hiddenProjectFileName) := by
  have each {name : String} (member : name ∈ projectFileNames) :
      h.Holds (h.join dir name) ↔ h.HasEntry dir name :=
    holds_join_iff (fileName_of_mem member) (names.apart name member) (names.short name member)
  exact ⟨each (by simp [projectFileNames]), each (by simp [projectFileNames])⟩

theorem Names.congr (names : h.Names dir) (root : h.files.root = h'.files.root) : h'.Names dir where
  short := by
    intro name member
    rw [join, ← root]
    exact names.short name member
  apart := by
    intro name member
    have apart := names.apart name member
    exact ⟨root ▸ apart.slash, root ▸ apart.other⟩

theorem loadProject_none_congr (root : h.files.root = h'.files.root) :
    let visible := h.join dir projectFileName
    let hidden := h.join dir hiddenProjectFileName
    (h.Holds visible → h.shows visible = h'.shows visible →
      ((h.loadProject none dir).run.run m s).value =
        ((h'.loadProject none dir).run.run m s).value) ∧
    (¬ h.Holds visible → ¬ h'.Holds visible → h.shows hidden = h'.shows hidden →
      ((h.loadProject none dir).run.run m s).value =
        ((h'.loadProject none dir).run.run m s).value) := by
  intro visible hidden
  have name (file : String) : h'.join dir file = h.join dir file := by rw [join, join, root]
  constructor
  · intro there same
    have there' : h'.Holds (h'.join dir projectFileName) := by
      rw [name, Holds, ← same]
      exact there
    rw [loadProject_of_selects (.visible there), loadProject_of_selects (.visible there'), name,
      projectAt_congr same]
  · intro absent absent' same
    have absent' : ¬ h'.Holds (h'.join dir projectFileName) := by rwa [name]
    by_cases there : h.Holds hidden
    · have there' : h'.Holds (h'.join dir hiddenProjectFileName) := by
        rw [name, Holds, ← same]
        exact there
      rw [loadProject_of_selects (.hidden absent there),
        loadProject_of_selects (.hidden absent' there'), name, projectAt_congr same]
    · have nothing' : ¬ h'.Holds (h'.join dir hiddenProjectFileName) := by
        rw [name, Holds, ← same]
        exact there
      rw [loadProject_eq_none_iff.mpr ⟨absent, there⟩,
        loadProject_eq_none_iff.mpr ⟨absent', nothing'⟩]

/-- The one file that is selected decides, and what is wrong with it is never passed over. Which one
that is, is told by what the path names lead to, and where these can be looked up by the entries of
the directory. -/
theorem selected_project_file_decides (h : Host) (m : Machine I σ) (s : σ) :
    let result (h : Host) (explicit : Option String) (dir : String) :=
      ((h.loadProject explicit dir).run.run m s).value
    (∀ h' path dir dir', h.shows path = h'.shows path →
      result h (some path) dir = result h' (some path) dir') ∧
    (∀ path dir, ¬ h.HoldsFile path →
      result h (some path) dir = .error (.of (.noSuchFile path))) ∧
    (∀ h' dir, h.files.root = h'.files.root →
      let visible := h.join dir projectFileName
      let hidden := h.join dir hiddenProjectFileName
      (h.Holds visible → h.shows visible = h'.shows visible →
        result h none dir = result h' none dir) ∧
      (¬ h.Holds visible → ¬ h'.Holds visible → h.shows hidden = h'.shows hidden →
        result h none dir = result h' none dir) ∧
      (h.Names dir →
        (h.HasEntry dir projectFileName → h.shows visible = h'.shows visible →
          result h none dir = result h' none dir) ∧
        (¬ h.HasEntry dir projectFileName → ¬ h'.HasEntry dir projectFileName →
          h.shows hidden = h'.shows hidden → result h none dir = result h' none dir))) ∧
    (∀ dir, (result h none dir = .ok none ↔
        ¬ h.Holds (h.join dir projectFileName) ∧ ¬ h.Holds (h.join dir hiddenProjectFileName)) ∧
      (h.Names dir → (result h none dir = .ok none ↔
        ¬ h.HasEntry dir projectFileName ∧ ¬ h.HasEntry dir hiddenProjectFileName))) ∧
    (∀ explicit dir path, h.Selects dir explicit path →
      (∀ failure, result h explicit dir = .error failure ↔ h.Rejects path failure) ∧
      ∀ p, result h explicit dir = .ok (some p) ↔
        h.HasProject path p ∧ (p.version = none ∨ p.version = some 1)) ∧
    ∀ explicit flag failure, result h explicit h.here = .error failure →
      ((h.loadSettings explicit flag).run.run m s).value = .error failure := by
  intro result
  refine ⟨?_, fun path dir missing => loadProject_noSuchFile missing, ?_, ?_, ?_, ?_⟩
  · intro h' path dir dir' same
    have file : h'.HoldsFile path ↔ h.HoldsFile path := by rw [HoldsFile, HoldsFile, same]
    simp only [result]
    by_cases there : h.HoldsFile path
    · rw [loadProject_asked there, loadProject_asked (file.mpr there), projectAt_congr same]
    · rw [loadProject_noSuchFile there, loadProject_noSuchFile (mt file.mp there)]
  · intro h' dir root visible hidden
    refine ⟨(loadProject_none_congr root).1, (loadProject_none_congr root).2, ?_⟩
    intro names
    have here := names.holds_iff.1
    have there := (names.congr root).holds_iff.1
    have name : h'.join dir projectFileName = visible := by
      rw [join, ← root]
      rfl
    rw [name] at there
    rw [← here, ← there]
    exact loadProject_none_congr root
  · intro dir
    refine ⟨loadProject_eq_none_iff, ?_⟩
    intro names
    obtain ⟨visible, hidden⟩ := names.holds_iff
    rw [← visible, ← hidden]
    exact loadProject_eq_none_iff
  · intro explicit dir path selects
    simp only [result]
    rw [loadProject_of_selects selects]
    constructor
    · intro failure
      rw [map_eq_error, projectAt_eq_error_iff]
    · intro p
      rw [← projectAt_eq_ok_iff]
      cases h.projectAt path with
      | error failure => simp [Except.map]
      | ok other => simp [Except.map]
  · intro explicit flag failure failed
    rw [loadSettings, Attempt.run_bind_error m failed]

end Host

end ImageStock
