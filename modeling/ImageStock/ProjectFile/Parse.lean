import ImageStock.Dialogue
import ImageStock.ProjectFile.Decode
import ImageStock.Text.Utf8
import ImageStock.Toml.Document

/-!
Project files and per-user files out of the bytes of a file.
-/

namespace ImageStock.ProjectFile

def readTree (document : List Char) : Except Cause Toml.Node :=
  match Toml.readDocument document with
  | .ok tree => .ok tree
  | .error s =>
    .error (.malformed (.ofSpan document ⟨s.left, s.left - 1⟩) s.problem)

def rootTable (tree : Toml.Node) : Toml.Table :=
  match tree.toValue with
  | .table entries => entries
  | _ => []

/-- A result, or the cause against it with its place in the document. -/
def orUnfit {α : Type} (document : List Char) (tree : Toml.Node) (r : Except Misfit α) :
    Except Cause α :=
  r.mapError fun m =>
    let span := (tree.spanAt? m.path).getD ⟨document.length, document.length⟩
    .unfit (.ofSpan document span) m.mismatch

def parse (document : List Char) : Except Cause (Decoded ProjectFile) := do
  let tree ← readTree document
  orUnfit document tree (decode (rootTable tree))

end ImageStock.ProjectFile

namespace ImageStock

open ProjectFile in
def UserFile.parse (document : List Char) : Except Cause UserFile := do
  let tree ← readTree document
  orUnfit document tree (UserFile.decode (rootTable tree))

def textOf (path : String) (bytes : List UInt8) : Except Failure (List Char) :=
  match Text.Utf8.decode? bytes with
  | some text => .ok text
  | none => .error ((Failure.of (.system .invalidText)).within (.reading path))

/-- A project file from the bytes of the file at `path`. Unknown fields are reported once the file
is known to fit, and before its version is looked at. -/
def ProjectFile.load {I : Interface} (path : String) (bytes : Except Failure (List UInt8)) :
    Attempt I Failure ProjectFile := do
  Attempt.notice (.loading path)
  let document ← Attempt.ofExcept (bytes >>= textOf path)
  let ⟨project, unknown⟩ ← Attempt.ofExcept <|
    (parse document).mapError fun cause => (Failure.of cause).within (.parsing path)
  unknown.forM fun field => Attempt.notice (.unknownField path field)
  match project.version with
  | none => Attempt.notice (.versionAssumed path)
  | some 1 => pure ()
  | some version => Attempt.ofExcept (.error (.of (.unsupportedVersion path version)))
  return project

def UserFile.load (path : String) (bytes : Except Failure (List UInt8)) :
    Except Failure UserFile := do
  let document ← bytes >>= textOf path
  (parse document).mapError fun cause => (Failure.of cause).within (.parsing path)

end ImageStock
