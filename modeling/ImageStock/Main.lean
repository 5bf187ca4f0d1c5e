import ImageStock.Console
import ImageStock.Program
import ImageStock.Relay

/-!
The command line. Commands are asked for on the error output and answered on the standard input.
-/

namespace ImageStock

def readNode (path : String) : IO (Option FileNode) := do
  try
    return some (.file (← IO.FS.readBinFile path).toList false)
  catch
    | .inappropriateType _ 21 _ => return some .directory
    | _ => return none

def readHost (arguments : List Invocation.Argument) : IO Host := do
  let here := (← IO.currentDir).toString
  let directory := (Path.names here).filter (· ≠ "")
  let environment := Relay.environment (← IO.FS.readBinFile "/proc/self/environ").toList
  let top : FileTree := { root := "" }
  let bare : Host := ⟨top.mount [] here .directory, directory, environment, none⟩
  let files ← (bare.readable arguments).foldlM (fun files path => do
    match ← readNode path with
    | some node => return files.mount directory path node
    | none => return files) bare.files
  return { bare with files }

def writeBytes (stream : IO.FS.Stream) (bytes : List UInt8) : IO Unit := do
  stream.write ⟨bytes.toArray⟩
  stream.flush

def showConsole (c : Console) : IO Unit := do
  writeBytes (← IO.getStdout) c.output
  writeBytes (← IO.getStderr) c.errors

/-- Starts a command at the other end of the line. An answer that cannot be read is an
input/output error. -/
def relay (c : Command) : IO (Except SystemError Ending) := do
  writeBytes (← IO.getStderr) (Text.Utf8.encode (Relay.request c))
  return (Relay.answer? (← (← IO.getStdin).getLine)).getD (.error (.number 5))

def hold {α : Type} (filter : LogFilter) : Dialogue shell α → IO α
  | .done a => return a
  | .tell u d => do
    showConsole (Console.ofEvent filter (.told u))
    hold filter d
  | .ask c k => do
    let answer ← relay c
    showConsole (Console.ofEvent filter (.asked c answer))
    hold filter (k answer)

def saveProject (before after : Host) : IO Unit := do
  let path := after.join after.here projectFileName
  match before.read path, after.read path with
  | .ok old, .ok new =>
    if old ≠ new then IO.FS.writeBinFile path ⟨new.toArray⟩
  | .error _, .ok new => IO.FS.writeBinFile path ⟨new.toArray⟩
  | _, .error _ => return

end ImageStock

open ImageStock in
def main (words : List String) : IO UInt32 := do
  let arguments := words.map fun word => { text := word : Invocation.Argument }
  let before ← readHost arguments
  let (code, after) ← hold before.logFilter.1 (before.call arguments)
  saveProject before after
  return (code % 256).toNat.toUInt32
