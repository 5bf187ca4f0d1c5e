import ImageStock.FileTree
import ImageStock.ProjectFile.Parse
import ImageStock.ProjectFile.Render
import ImageStock.Settings

/-!
The surroundings of a run: files, working directory and environment, and the configuration that is
found there. A process whose working directory is gone is left out: it fails before it reads a file.
-/

namespace ImageStock

structure Host where
  files : FileTree
  /-- The working directory, which is a directory of `files`. -/
  directory : Location
  environment : List (String × List UInt8)
  /-- The home directory of the account, where the environment names none. -/
  accountHome : Option String
  deriving Repr

/-- Work on a host, which may change it whether it fails or not. -/
abbrev Work (I : Interface) (α : Type) := ExceptT Failure (StateT Host (Dialogue I)) α

def Work.ofAttempt {I : Interface} {α : Type} (d : Attempt I Failure α) : Work I α :=
  ExceptT.mk (StateT.lift d.run)

def projectFileName : String := "provision.toml"
def hiddenProjectFileName : String := ".provision.toml"

namespace Host

variable {I : Interface}

def join (h : Host) (dir path : String) : String := Path.join h.files.root dir path

def here (h : Host) : String := h.directory.foldl (· ++ "/" ++ ·) h.files.root

def env (h : Host) : Lookup := fun key => do
  let bytes ← h.environment.lookup key
  return String.ofList (← Text.Utf8.decode? bytes)

/-- A path name in the environment, which need not be UTF-8; an empty one counts as unset. -/
def pathSetting (h : Host) (key : String) : Option String := do
  let path := String.ofList (Text.Utf8.decodeLossy (← h.environment.lookup key))
  if path = "" then none else some path

def pathExists (h : Host) (path : String) : Bool := h.files.pathExists h.directory path

def read (h : Host) (path : String) : Except Failure (List UInt8) :=
  (h.files.read h.directory path).mapError fun e =>
    (Failure.of (.system e)).within (.reading path)

/-- The project file of a directory; the visible one hides the other. -/
def findProjectFile (h : Host) (dir : String) : Dialogue I (Option String) := do
  let visible := h.join dir projectFileName
  let hidden := h.join dir hiddenProjectFileName
  if h.pathExists visible then
    if h.pathExists hidden then Dialogue.notice .twoProjectFiles
    return some visible
  else if h.pathExists hidden then return some hidden
  else return none

def loadProject (h : Host) (explicit : Option String) (dir : String) :
    Attempt I Failure (Option ProjectFile) := do
  match explicit with
  | some path =>
    if h.files.isFile h.directory path then
      return some (← ProjectFile.load path (h.read path))
    else Attempt.ofExcept (.error (.of (.noSuchFile path)))
  | none =>
    match ← ExceptT.lift (h.findProjectFile dir) with
    | some path => return some (← ProjectFile.load path (h.read path))
    | none => return none

def configDirectory (h : Host) : Option String :=
  match h.pathSetting "XDG_CONFIG_HOME" with
  | some dir => if Path.isAbsolute h.files.root dir then some dir else ofHome
  | none => ofHome
where
  ofHome : Option String :=
    (h.pathSetting "HOME" <|> h.accountHome).map (h.join · ".config")

def userFilePath (h : Host) : Option String :=
  h.configDirectory.map fun dir => h.join (h.join dir "image-provisioner") "config.toml"

/-- The settings of the user; a missing file is an empty one. -/
def loadUser (h : Host) : Except Failure UserFile :=
  match h.userFilePath with
  | some path => if h.pathExists path then UserFile.load path (h.read path) else .ok {}
  | none => .ok {}

/-- The settings for a run in the working directory. The file of the user cannot make it fail. -/
def loadSettings (h : Host) (config flag : Option String) : Attempt I Failure Settings := do
  let project ← h.loadProject config h.here
  let user ← match h.loadUser with
    | .ok user => pure user
    | .error failure =>
      Attempt.notice (.userFileIgnored failure)
      pure {}
  Settings.mergeAloud flag (h.env.nonempty? "CONTAINER_CLI") project user

def writeProject (dir : String) (project : ProjectFile) : Work I String := do
  let h ← get
  let path := h.join dir projectFileName
  let content := Text.Utf8.encode (String.ofList project.render)
  match h.files.write h.directory path content with
  | .error e => throw ((Failure.of (.system e)).within (.writing path))
  | .ok files =>
    set { h with files }
    Work.ofAttempt (Attempt.notice (.written path))
    return path

def initialise (dir : String) (force : Bool) : Work I String := do
  let h ← get
  let path := h.join dir projectFileName
  if h.pathExists path && !force then throw (.of (.fileExists path))
  let path ← writeProject dir .initial
  Work.ofAttempt (Attempt.print s!"Created {path}\n")
  return path

/-- The directories of a search path. In one that is longer than a path name may be, directories
that are longer than a path name do not count: the last is left out, and the working directory
stands for each of the others. -/
def searchDirectories (path : List UInt8) : List String :=
  fitting (Text.splitOn (· == 0x3A) path)
where
  limit : Nat := min path.length FileTree.pathLimit
  decode (dir : List UInt8) : String := String.ofList (Text.Utf8.decodeLossy dir)
  fitting : List (List UInt8) → List String
    | [] => []
    | [dir] => if dir.length ≤ limit then [decode dir] else []
    | dir :: dirs => (if dir.length ≤ limit then decode dir else "") :: fitting dirs

/-- The program of a command: its path name and the location that leads to, for a program without a
slash in the first of the directories in `PATH` that has it. A file that cannot be run is remembered
while the search goes on. -/
def findProgram (h : Host) (program : String) : Except SystemError (String × Location) :=
  if program.toList.contains '/' then runnable program
  else if program = "" then .error .notFound
  else
    let path := (h.environment.lookup "PATH").getD (Text.Utf8.encode "/bin:/usr/bin")
    search .notFound false (searchDirectories path)
where
  runnable (path : String) : Except SystemError (String × Location) := do
    let l ← h.files.locate h.directory path
    match h.files.lookup l with
    | some (.file _ true) => return (path, l)
    | some (.file _ false) | some .directory => throw .permissionDenied
    | none => throw .notFound
  search (last : SystemError) (denied : Bool) :
      List String → Except SystemError (String × Location)
    | [] => .error (if denied then .permissionDenied else last)
    | dir :: dirs =>
      match runnable (if dir = "" then program else dir ++ "/" ++ program) with
      | .ok found => .ok found
      | .error e =>
        if e = .permissionDenied then search e true dirs
        else if e = .notFound ∨ e = .notADirectory then search e denied dirs
        else .error e

end Host

end ImageStock
