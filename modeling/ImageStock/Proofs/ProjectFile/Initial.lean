import ImageStock.Proofs.Directory
import ImageStock.Proofs.Program.Commands
import ImageStock.Proofs.ProjectFile.Selection

/-! Making a project file. Main statement: the initial project file of a directory is written as a
whole or not at all, no other place changes, and what is loaded from the directory afterwards is
that project file. -/

namespace ImageStock

namespace Host

variable {I : Interface} {σ : Type} {m : Machine I σ} {s : σ} {h : Host} {dir : String}
  {force : Bool} {l : Location}

theorem writable_iff (apart : h.files.Apart projectFileName) :
    h.Writable dir ↔ (dir = "" ∨ h.shows dir = .ok none) ∧
      (h.join dir projectFileName).utf8ByteSize ≤ FileTree.pathLimit ∧
      h.shows (h.join dir projectFileName) ≠ .ok none := by
  have file : FileTree.FileName projectFileName := fileName_of_mem (by simp [projectFileNames])
  have located : (∃ l, h.files.locate h.directory (h.join dir projectFileName) = .ok l) ↔
      (dir = "" ∨ h.shows dir = .ok none) ∧
        (h.join dir projectFileName).utf8ByteSize ≤ FileTree.pathLimit := by
    rw [shows_eq_none_iff, ← FileTree.exists_leadsToDirectory_iff]
    simp only [join, FileTree.locate_join_eq_ok_iff file apart, exists_and_right]
    rw [exists_comm]
    simp only [exists_and_left, exists_eq, and_true]
  rw [← and_assoc, ← located, ne_eq, shows_eq_none_iff, FileTree.find_eq_ok_iff, Writable]
  constructor
  · rintro ⟨l, located, free⟩
    refine ⟨⟨l, located⟩, ?_⟩
    rintro ⟨k, same, taken⟩
    rw [located] at same
    cases same
    exact free taken
  · rintro ⟨⟨l, located⟩, free⟩
    exact ⟨l, located, fun taken => free ⟨l, located, taken⟩⟩

theorem initialise_refused (there : h.Holds (h.join dir projectFileName)) :
    (((initialise (I := I) dir false).run.run h).run m s).value =
      (.error (.of (.fileExists (h.join dir projectFileName))), h) := by
  rw [initialise_on, if_pos (by simpa using pathExists_iff.mpr there)]
  rfl

theorem initialise_value (allowed : ¬ (h.Holds (h.join dir projectFileName) ∧ force = false)) :
    (((initialise (I := I) dir force).run.run h).run m s).value =
      (((writeProject (I := I) dir .initial).run.run h).run m s).value := by
  have passed : ¬ (h.pathExists (h.join dir projectFileName) && !force) = true := by
    rw [← pathExists_iff] at allowed
    simpa using allowed
  rw [initialise_on, if_neg passed, Dialogue.run_bind]
  rcases ended : (((writeProject (I := I) dir .initial).run.run h).run m s).value with
    ⟨failure | written, after⟩
  · simp only [ended, Dialogue.run]
  · simp only [ended, Dialogue.run]

/-- The initial project file is refused where there is one, unless it is forced, and where it cannot
be written; else it is written. What is refused leaves the host as it was. -/
theorem initialise_fails_iff :
    let ended := (((initialise (I := I) dir force).run.run h).run m s).value
    ((∃ failure, ended.1 = .error failure) ↔
      h.Holds (h.join dir projectFileName) ∧ force = false ∨ ¬ h.Writable dir) ∧
    ∀ failure, ended.1 = .error failure → ended.2 = h := by
  intro ended
  by_cases refused : h.Holds (h.join dir projectFileName) ∧ force = false
  · obtain ⟨there, rfl⟩ := refused
    have value : ended = _ := initialise_refused there
    rw [value]
    exact ⟨iff_of_true ⟨_, rfl⟩ (.inl ⟨there, rfl⟩), fun _ _ => rfl⟩
  · have value : ended = _ := initialise_value refused
    rw [value, or_iff_right refused]
    by_cases writable : h.Writable dir
    · obtain ⟨l, located, free⟩ := writable
      obtain ⟨runnable, written⟩ := writeProject_run located free .initial m s
      rw [written]
      exact ⟨iff_of_false nofun (not_not.mpr ⟨l, located, free⟩), nofun⟩
    · obtain ⟨failure, unwritten⟩ := writeProject_failed writable .initial m s
      rw [unwritten]
      exact ⟨iff_of_true ⟨failure, rfl⟩ writable, fun _ _ => rfl⟩

/-- The host `after` has the initial project file in a directory, and is `h` in all else. -/
structure Initialised (h : Host) (dir : String) (after : Host) : Prop where
  rest : after = { h with files := after.files }
  root : after.files.root = h.files.root
  others : ∃ l, h.files.locate h.directory (h.join dir projectFileName) = .ok l ∧
    ∀ k, k ≠ l → after.files.lookup k = h.files.lookup k
  shown : after.shows (h.join dir projectFileName) = .ok (some ProjectFile.initial.bytes)

theorem shows_set {path : String} (located : h.files.locate h.directory path = .ok l)
    (free : h.files.lookup l ≠ some .directory) (content : List UInt8) (runnable : Bool) :
    Host.shows { h with files := h.files.set l (.file content runnable) } path =
      .ok (some content) := by
  rw [shows, FileTree.find_eq_ok_iff.mpr
    ⟨l, FileTree.locate_set free located, FileTree.lookup_set_self free⟩]
  rfl

theorem initialise_ok {written : String} {after : Host}
    (ended : (((initialise (I := I) dir force).run.run h).run m s).value = (.ok written, after)) :
    written = h.join dir projectFileName ∧ h.Initialised dir after := by
  have passed : ¬ (h.Holds (h.join dir projectFileName) ∧ force = false ∨ ¬ h.Writable dir) := by
    rw [← (initialise_fails_iff (m := m) (s := s)).1, ended]
    exact nofun
  rw [not_or, not_not] at passed
  obtain ⟨allowed, l, located, free⟩ := passed
  obtain ⟨runnable, wrote⟩ := writeProject_run located free .initial m s
  rw [initialise_value allowed, wrote] at ended
  cases ended
  exact ⟨rfl, rfl, rfl, ⟨l, located, fun k other => FileTree.lookup_set_other other⟩,
    shows_set located free _ runnable⟩

namespace Initialised

variable {after : Host} (made : h.Initialised dir after)

include made

theorem join_eq (path : String) : after.join dir path = h.join dir path := by
  rw [join, join, made.root]

theorem refused :
    (((initialise (I := I) dir false).run.run after).run m s).value =
      (.error (.of (.fileExists (h.join dir projectFileName))), after) := by
  have there : after.Holds (after.join dir projectFileName) := by
    rw [made.join_eq]
    exact ⟨_, made.shown⟩
  rw [initialise_refused there, made.join_eq]

theorem reloaded :
    ((after.loadProject none dir).run.run m s).value = .ok (some .initial) := by
  have shown : after.shows (after.join dir projectFileName) =
      .ok (some ProjectFile.initial.bytes) := by
    rw [made.join_eq]
    exact made.shown
  have read : after.read (after.join dir projectFileName) = .ok ProjectFile.initial.bytes := by
    rw [read_eq, shown]
  have loaded : after.projectAt (after.join dir projectFileName) = .ok .initial := by
    rw [projectAt, read, ok_bind, ProjectFile.bytes, textOf_encode, ok_bind, ProjectFile.loaded,
      ProjectFile.parse_render]
    rfl
  rw [loadProject_of_selects (.visible ⟨_, shown⟩), loaded]
  rfl

end Initialised

/-- The name of a directory with `n` slashes behind it, which lead nowhere else. -/
def slashed (n : Nat) : String := "desk" ++ String.ofList (List.replicate n '/')

end Host

end ImageStock
