import ImageStock.Path
import ImageStock.SystemError

/-!
Trees of files and directories, and what path names lead to in them.
-/

namespace ImageStock

inductive FileNode where
  /-- A file; `runnable` says that the system can run it as a program. -/
  | file (content : List UInt8) (runnable : Bool)
  | directory
  deriving DecidableEq, Repr

abbrev Location := List String

/-- The nodes below the top, which is a directory. `root` is how path names call the top. -/
structure FileTree where
  root : String
  nodes : List (Location × FileNode) := []
  deriving DecidableEq, Repr

namespace FileTree

/-- The location that stands for every directory above the top. Where the top has no name of its
own there is none. -/
def above (t : FileTree) : Location := if t.root = "" then [] else ["/"]

def lookup (t : FileTree) (l : Location) : Option FileNode :=
  if l = [] ∨ l = t.above then some .directory else t.nodes.lookup l

def nameLimit : Nat := 255
def pathLimit : Nat := 4095

def step (t : FileTree) (dir : Location) (name : String) : Except SystemError Location :=
  if name = "" ∨ name = "." then .ok dir
  else if name = ".." then .ok (if dir = [] ∨ dir = t.above then t.above else dir.dropLast)
  else if nameLimit < name.utf8ByteSize then .error .nameTooLong
  else .ok (dir ++ [name])

def enter (t : FileTree) (dir : Location) (name : String) : Except SystemError Location := do
  let l ← t.step dir name
  match t.lookup l with
  | some .directory => return l
  | some (.file ..) => throw .notADirectory
  | none => throw .notFound

/-- Where a path name leads to from a directory. Everything before its last name must exist. -/
def locate (t : FileTree) (dir : Location) (path : String) : Except SystemError Location := do
  if path = "" then throw .notFound
  if path.toList.contains '\x00' then
    throw (.described "file name contained an unexpected NUL byte")
  if pathLimit < path.utf8ByteSize then throw .nameTooLong
  let (start, path) :=
    if t.root ≠ "" ∧ path.startsWith t.root then
      ([], String.ofList (path.toList.drop t.root.length))
    else if path.startsWith "/" then (t.above, path)
    else (dir, path)
  let names := Path.names path
  let parent ← names.dropLast.foldlM t.enter start
  t.step parent (names.getLastD "")

def find (t : FileTree) (dir : Location) (path : String) : Except SystemError FileNode := do
  match t.lookup (← t.locate dir path) with
  | some node => return node
  | none => throw .notFound

def pathExists (t : FileTree) (dir : Location) (path : String) : Bool := (t.find dir path).isOk

def isFile (t : FileTree) (dir : Location) (path : String) : Bool :=
  match t.find dir path with
  | .ok (.file ..) => true
  | _ => false

def read (t : FileTree) (dir : Location) (path : String) : Except SystemError (List UInt8) := do
  match ← t.find dir path with
  | .file content _ => return content
  | .directory => throw .isADirectory

def set (t : FileTree) (l : Location) (node : FileNode) : FileTree :=
  { t with nodes := (l, node) :: t.nodes.filter (·.1 ≠ l) }

def write (t : FileTree) (dir : Location) (path : String) (content : List UInt8) :
    Except SystemError FileTree := do
  let l ← t.locate dir path
  match t.lookup l with
  | some .directory => throw .isADirectory
  | some (.file _ runnable) => return t.set l (.file content runnable)
  | none => return t.set l (.file content false)

def ancestors (l : Location) : List Location := (List.range' 1 (l.length - 1)).map l.take

def makeDirectory (t : FileTree) (l : Location) : Option FileTree :=
  match t.lookup l with
  | some .directory => some t
  | some (.file ..) => none
  | none => some (t.set l .directory)

def put (t : FileTree) (l : Location) (node : FileNode) : Option FileTree := do
  let t ← (ancestors l).foldlM makeDirectory t
  match t.lookup l, node with
  | some .directory, .directory => return t
  | some .directory, .file .. | some (.file ..), .directory => none
  | _, node => return t.set l node

def mount (t : FileTree) (dir : Location) (path : String) (node : FileNode) : FileTree :=
  let start := if Path.isAbsolute t.root path then [] else dir
  let (t, l) := (Path.names path).foldl (fun (t, l) name =>
    ((t.put l .directory).getD t, (t.step l name).toOption.getD l)) (t, start)
  (t.put l node).getD t

def children (t : FileTree) (l : Location) : List (Location × FileNode) :=
  t.nodes.filter fun (k, _) => l.isPrefixOf k && k != l

def remove (t : FileTree) (l : Location) : Option FileTree :=
  match t.nodes.lookup l with
  | none => none
  | some .directory =>
    if (t.children l).isEmpty then some { t with nodes := t.nodes.filter (·.1 ≠ l) } else none
  | some (.file ..) => some { t with nodes := t.nodes.filter (·.1 ≠ l) }

end FileTree

end ImageStock
