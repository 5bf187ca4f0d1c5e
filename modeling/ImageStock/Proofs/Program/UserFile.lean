import ImageStock.Proofs.Environment
import ImageStock.Proofs.FileTree
import ImageStock.Proofs.ProjectFile.RoundTrip
import ImageStock.Proofs.ProjectFile.Selection

/-! What the file of a user can do. Main statement: whatever state it is in, it makes no settings
fail and changes no catalog, and it gives the command only where nothing else does; if it cannot be
loaded, the settings are those without it, and there is one more warning. All this holds as long as
the way to the project file does not lead through the place of the file. -/

namespace ImageStock

variable {I : Interface} {σ : Type} {m : Machine I σ} {s : σ}

namespace Host

/-- Two hosts that differ at most in what stands at a place and below it. -/
structure AlikeOutside (l : Location) (h h' : Host) : Prop where
  directory : h.directory = h'.directory
  environment : h.environment = h'.environment
  accountHome : h.accountHome = h'.accountHome
  root : h.files.root = h'.files.root
  files : ∀ k, ¬ l <+: k → h.files.lookup k = h'.files.lookup k

def projectPaths (h : Host) (dir : String) : Option String → List String
  | some path => [path]
  | none => [h.join dir projectFileName, h.join dir hiddenProjectFileName]

/-- A path name leads neither to a place nor through it. -/
def KeepsOff (h : Host) (l : Location) (path : String) : Prop :=
  ∀ k ∈ h.files.visits h.directory path, ¬ l <+: k

variable {h h' : Host} {l : Location} {explicit : Option String} {dir path : String}

theorem AlikeOutside.shows (alike : h.AlikeOutside l h') (aside : h.KeepsOff l path) :
    h.shows path = h'.shows path := by
  have found := FileTree.find_congr alike.root fun k visited => alike.files k (aside k visited)
  rw [Host.shows, Host.shows, found, alike.directory]

theorem AlikeOutside.env (alike : h.AlikeOutside l h') : h.env = h'.env := by
  funext key
  rw [Host.env, Host.env, alike.environment]

theorem AlikeOutside.here (alike : h.AlikeOutside l h') : h.here = h'.here := by
  rw [Host.here, Host.here, alike.directory, alike.root]

theorem AlikeOutside.userFilePath (alike : h.AlikeOutside l h') :
    h.userFilePath = h'.userFilePath := by
  have join : h.join = h'.join := by
    funext dir path
    rw [Host.join, Host.join, alike.root]
  have setting : h.pathSetting = h'.pathSetting := by
    funext key
    rw [pathSetting, pathSetting, alike.environment]
  have home : configDirectory.ofHome h = configDirectory.ofHome h' := by
    rw [configDirectory.ofHome, configDirectory.ofHome, join, setting, alike.accountHome]
  rw [Host.userFilePath, Host.userFilePath, join, configDirectory, configDirectory, setting, home,
    alike.root]

theorem loadProject_congr (root : h.files.root = h'.files.root)
    (same : ∀ path ∈ h.projectPaths dir explicit, h.shows path = h'.shows path ∨
      explicit = some path ∧ ¬ h.HoldsFile path ∧ ¬ h'.HoldsFile path) :
    h.loadProject (I := I) explicit dir = h'.loadProject explicit dir := by
  cases explicit with
  | some path =>
      rcases same path (by simp [projectPaths]) with shown | ⟨-, missing, missing'⟩
      · simp only [loadProject, isFile_congr shown, read_congr shown]
      · simp only [loadProject]
        rw [if_neg (mt isFile_iff.mp missing), if_neg (mt isFile_iff.mp missing')]
  | none =>
      have shown (path : String) (named : path ∈ h.projectPaths dir none) :
          h.shows path = h'.shows path :=
        (same path named).resolve_right fun asked => Option.some_ne_none _ asked.1.symm
      have visible := shown (h.join dir projectFileName) (by simp [projectPaths])
      have hidden := shown (h.join dir hiddenProjectFileName) (by simp [projectPaths])
      have name (file : String) : h'.join dir file = h.join dir file := by rw [join, join, root]
      simp only [loadProject_none, name, pathExists_congr visible, pathExists_congr hidden,
        read_congr visible, read_congr hidden]

end Host

theorem Lookup.nonempty?_of_written {env : Lookup} {key value : String}
    (given : env key = some value) (written : Text.allBlank value = false) :
    env.nonempty? key = some value := by
  refine (env.nonempty?_eq_some_iff key value).mpr ⟨given, ?_⟩
  rintro rfl
  cases written

namespace Settings

def mergeReports : Except Failure Settings → List Notice
  | .ok settings => [.usingCommand settings.commandLine]
  | .error _ => []

theorem run_mergeAloud (flag env : Option String) (project : Option ProjectFile) (user : UserFile)
    (m : Machine I σ) (s : σ) :
    let merged := merge flag env project user
    (mergeAloud flag env project user).run.run m s = .told (mergeReports merged) merged s := by
  rw [mergeAloud]
  cases merge flag env project user with
  | ok settings => rfl
  | error failure => rfl

/-- The file of a user decides no failure and no catalog, and the command only where no other layer
gives one. -/
theorem merge_user (flag env : Option String) (project : Option ProjectFile)
    (user user' : UserFile) :
    (∀ failure, merge flag env project user = .error failure ↔
      merge flag env project user' = .error failure) ∧
    ∀ settings settings', merge flag env project user = .ok settings →
      merge flag env project user' = .ok settings' →
      settings.catalog = settings'.catalog ∧
        ∀ line, some line ∈ [flag, env, (project.getD {}).runtime.bind (·.commandLine)] →
          Text.allBlank line = false → settings.commandLine = settings'.commandLine := by
  rw [merge_eq, merge_eq]
  cases catalogOf project with
  | error failure => simp [Except.map]
  | ok catalog =>
      refine ⟨by simp [Except.map], ?_⟩
      intro settings settings' first second
      cases first
      cases second
      exact ⟨rfl, fun line given written => chooseCommandLine_front given written _ _⟩

end Settings

namespace Host

variable {h h' : Host} {l : Location} {config : Option String}

def userReports (h : Host) : List Notice :=
  match h.loadUser with
  | .ok _ => []
  | .error failure => [.userFileIgnored failure]

def userGiven (h : Host) : UserFile := h.loadUser.toOption.getD {}

theorem run_loadSettings {project : Option ProjectFile} (flag : Option String)
    (loads : ((h.loadProject config h.here).run.run m s).value = .ok project) :
    let loading := (h.loadProject config h.here).run.run m s
    let merged := Settings.merge flag (h.env.nonempty? "CONTAINER_CLI") project h.userGiven
    (h.loadSettings config flag).run.run m s =
      (Run.told (h.userReports ++ Settings.mergeReports merged) merged loading.state).following
        loading.events := by
  intro loading merged
  have aloud := Settings.run_mergeAloud flag (h.env.nonempty? "CONTAINER_CLI") project h.userGiven m
    loading.state
  rw [loadSettings, Attempt.run_bind_ok m loads]
  congr 1
  simp only [userGiven, userReports, merged] at aloud ⊢
  cases loaded : h.loadUser with
  | ok user =>
      rw [loaded] at aloud
      exact aloud
  | error failure =>
      rw [loaded] at aloud
      exact congrArg (Run.following · [.told (.notice (.userFileIgnored failure))]) aloud

theorem user_of_missing {path : String} (named : h.userFilePath = some path)
    (missing : ¬ h.Holds path) : h.userReports = [] ∧ h.userGiven = {} := by
  have absent : h.loadUser = .ok {} := by
    simp only [loadUser, named]
    rw [if_neg (mt pathExists_iff.mp missing)]
  rw [userReports, userGiven, absent]
  exact ⟨rfl, rfl⟩

theorem user_of_broken {path : String} {failure : Failure} (named : h.userFilePath = some path)
    (there : h.Holds path) (broken : UserFile.load path (h.read path) = .error failure) :
    h.userReports = [.userFileIgnored failure] ∧ h.userGiven = {} := by
  have failed : h.loadUser = .error failure := by
    simp only [loadUser, named]
    rw [if_pos (pathExists_iff.mpr there), broken]
  rw [userReports, userGiven, failed]
  exact ⟨rfl, rfl⟩

/-- Whatever state the file of the user is in, it decides no failure and no catalog, and the command
only where nothing else gives one; one that cannot be loaded is like a missing one, but for a
warning. The project file has to be looked for off the place where the hosts differ, unless it is
asked for where neither of them has a file. -/
theorem user_file_gives_only_command (alike : h.AlikeOutside l h') (config flag : Option String)
    (aside : ∀ path ∈ h.projectPaths h.here config, h.KeepsOff l path ∨
      config = some path ∧ ¬ h.HoldsFile path ∧ ¬ h'.HoldsFile path)
    (m : Machine I σ) (s : σ) :
    let loading := (h.loadProject config h.here).run.run m s
    let first := (h.loadSettings config flag).run.run m s
    let second := (h'.loadSettings config flag).run.run m s
    (∀ failure, first.value = .error failure ↔ second.value = .error failure) ∧
    (∀ settings settings', first.value = .ok settings → second.value = .ok settings' →
      settings.catalog = settings'.catalog ∧
        ∀ project line, loading.value = .ok project →
          Text.allBlank line = false →
          flag = some line ∨ h.env "CONTAINER_CLI" = some line ∨
            (project.getD {}).runtime.bind (·.commandLine) = some line →
          settings.commandLine = settings'.commandLine) ∧
    ∀ path failure, h.userFilePath = some path → h.Holds path → ¬ h'.Holds path →
      UserFile.load path (h.read path) = .error failure →
      first.value = second.value ∧ (Notice.userFileIgnored failure).level = .warn ∧
        (∀ other, loading.value = .error other → first.events = second.events) ∧
        ∀ project, loading.value = .ok project → ∃ front back,
          second.events = front ++ back ∧
            first.events = front ++ .told (.notice (.userFileIgnored failure)) :: back := by
  intro loading first second
  have projects : h'.loadProject (I := I) config h'.here = h.loadProject config h.here := by
    rw [← alike.here]
    refine (loadProject_congr alike.root fun path named => ?_).symm
    exact (aside path named).imp_left alike.shows
  cases loads : loading.value with
  | error other =>
      have same : first = second := by
        simp only [first, second]
        rw [loadSettings, loadSettings, projects, Attempt.run_bind_error m loads,
          Attempt.run_bind_error m loads]
      have failed : first.value = .error other := by
        simp only [first]
        rw [loadSettings, Attempt.run_bind_error m loads]
      rw [← same, failed]
      refine ⟨fun failure => Iff.rfl, ?_, ?_⟩
      · intro settings settings' impossible
        cases impossible
      · intro path failure named there missing broken
        refine ⟨rfl, rfl, fun other loads => rfl, ?_⟩
        intro project impossible
        cases impossible
  | ok project =>
      have run := run_loadSettings flag loads
      have run' := run_loadSettings (h := h') flag (by rw [projects]; exact loads)
      rw [projects, ← alike.env] at run'
      obtain ⟨failures, gives⟩ := Settings.merge_user flag (h.env.nonempty? "CONTAINER_CLI") project
        h.userGiven h'.userGiven
      simp only [first, second, run, run']
      refine ⟨failures, ?_, ?_⟩
      · intro settings settings' merged merged'
        obtain ⟨catalogs, commands⟩ := gives settings settings' merged merged'
        refine ⟨catalogs, ?_⟩
        intro _ line same written given
        cases same
        have member : some line ∈ [flag, h.env.nonempty? "CONTAINER_CLI",
            (project.getD {}).runtime.bind (·.commandLine)] := by
          rcases given with rfl | given | given
          · simp
          · simp [Lookup.nonempty?_of_written given written]
          · simp [given]
        exact commands line member written
      · intro path failure named there missing broken
        obtain ⟨reports, given⟩ := user_of_broken named there broken
        obtain ⟨reports', given'⟩ := user_of_missing (alike.userFilePath.symm.trans named) missing
        rw [reports, given, reports', given']
        refine ⟨rfl, rfl, ?_, ?_⟩
        · intro other impossible
          cases impossible
        · intro _ _
          exact ⟨loading.events, _, rfl, rfl⟩

def userPlace : Location := ["home", ".config", "image-provisioner", "config.toml"]

def oneUser (state : Option FileNode) : Host where
  files := {
    root := ""
    nodes := (state.map (userPlace, ·)).toList ++ [
      (["desk"], .directory), (["home"], .directory), (["home", ".config"], .directory),
      (["home", ".config", "image-provisioner"], .directory),
      (["home", ".config", "image-provisioner", "project.toml"], .file [] false)] }
  directory := ["desk"]
  environment := []
  accountHome := some "/home"

theorem oneUser_alike (state state' : Option FileNode) :
    (oneUser state).AlikeOutside userPlace (oneUser state') where
  directory := rfl
  environment := rfl
  accountHome := rfl
  root := rfl
  files := by
    intro k outside
    have other : (k == userPlace) = false := by
      rw [beq_eq_false_iff_ne]
      rintro rfl
      exact outside List.prefix_rfl
    cases state <;> cases state' <;>
      simp [oneUser, FileTree.lookup, FileTree.above, List.lookup_cons, other]

theorem user_file_gives_only_command_broken :
    let broken := oneUser (some (.file [0xFF] false))
    let bare := oneUser none
    let path := "/home/.config/image-provisioner/config.toml"
    let w : Workspace := { host := bare }
    let settings (h : Host) := (h.loadSettings none none).run.run Workspace.machine w
    broken.AlikeOutside userPlace bare ∧
      (∀ path ∈ broken.projectPaths broken.here none, broken.KeepsOff userPlace path) ∧
      (settings bare).value = .ok { commandLine := "docker", catalog := .builtIn } ∧
      (settings broken).value = (settings bare).value ∧
      ∃ front back, (settings bare).events = front ++ back ∧
        (settings broken).events = front ++ .told (.notice (.userFileIgnored
          ((Failure.of (.system .invalidText)).within (.reading path)))) :: back := by
  intro broken bare path w settings
  have alike : broken.AlikeOutside userPlace bare := oneUser_alike _ _
  have aside : ∀ path ∈ broken.projectPaths broken.here none, broken.KeepsOff userPlace path := by
    have off : ∀ path ∈ broken.projectPaths broken.here none,
        ∀ k ∈ broken.files.visits broken.directory path, ¬ userPlace <+: k := by
      decide +kernel
    exact off
  obtain ⟨-, -, harmless⟩ := user_file_gives_only_command alike none none
    (fun path named => .inl (aside path named)) Workspace.machine w
  have there : broken.Holds path := pathExists_iff.mp (by decide +kernel)
  have missing : ¬ bare.Holds path := mt pathExists_iff.mpr (by decide +kernel)
  have unread : UserFile.load path (broken.read path) =
      .error ((Failure.of (.system .invalidText)).within (.reading path)) := by
    have read : broken.read path = .ok [0xFF] := toOption_eq_some.mp (by decide +kernel)
    have broken : Text.Utf8.decode? [0xFF] = none := by decide +kernel
    rw [read, UserFile.load, ok_bind, textOf, broken]
    rfl
  obtain ⟨same, -, -, warned⟩ := harmless path _ (by decide +kernel) there missing unread
  have loads : ((broken.loadProject (I := shell) none broken.here).run.run Workspace.machine
      w).value = .ok none :=
    toOption_eq_some.mp (by decide +kernel)
  exact ⟨alike, aside, toOption_eq_some.mp (by decide +kernel), same, warned none loads⟩

/-- A path name that leads through a directory in the place of the file asks for what is not there
without the directory. -/
theorem user_file_on_the_way :
    let first := oneUser (some .directory)
    let second := oneUser none
    let path := "/home/.config/image-provisioner/config.toml"
    let config := path ++ "/../project.toml"
    let w : Workspace := { host := second }
    let settings (h : Host) :=
      ((h.loadSettings (some config) none).run.run Workspace.machine w).value
    first.AlikeOutside userPlace second ∧ first.userFilePath = some path ∧
      first.files.locate first.directory path = .ok userPlace ∧
      (∀ h ∈ [first, second], ∀ selected, h.Selects h.here (some config) selected →
        h.files.locate h.directory selected ≠ .ok userPlace) ∧
      settings first = .ok { commandLine := "docker", catalog := .builtIn } ∧
      settings second = .error (.of (.noSuchFile config)) := by
  intro first second path config w settings
  have missing : ¬ second.HoldsFile config := mt isFile_iff.mpr (by decide +kernel)
  have elsewhere : ∀ h ∈ [first, second],
      (h.files.locate h.directory config).toOption ≠ some userPlace := by
    decide +kernel
  refine ⟨oneUser_alike _ _, by decide +kernel, toOption_eq_some.mp (by decide +kernel), ?_,
    toOption_eq_some.mp (by decide +kernel), ?_⟩
  · intro h member selected selects located
    cases selects with
    | asked file => exact elsewhere h member (toOption_eq_some.mpr located)
  · have refused : ((second.loadProject (some config) second.here).run.run Workspace.machine
        w).value = _ := loadProject_noSuchFile missing
    simp only [settings]
    rw [loadSettings, Attempt.run_bind_error _ refused]

end Host

end ImageStock
