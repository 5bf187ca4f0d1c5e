import ImageStock.ContainerRuntime
import ImageStock.Text.Blank
import ImageStock.Text.Utf8

/-!
Container engines: runtimes that are driven by commands.
-/

namespace ImageStock

abbrev shell : Interface := ⟨Command, fun _ => Except SystemError Ending⟩

structure Engine where
  program : String
  leading : List String
  deriving DecidableEq, Repr

namespace Engine

/-- The first word of a command line is the program, the other words are arguments. There is no
quoting. -/
def ofCommandLine? (line : String) : Option Engine :=
  match Text.words line with
  | [] => none
  | program :: leading => some ⟨program, leading⟩

def command (e : Engine) (arguments : List String) (audible : Bool) : Command :=
  ⟨e.program, e.leading ++ arguments, audible⟩

def versionCommand (e : Engine) : Command := e.command ["--version"] false

def queryCommand (e : Engine) (image : Image) : Command :=
  e.command ["images", "-q", image.reference] false

def pullCommand (e : Engine) (image : Image) : Command :=
  e.command ["pull", image.reference] true

def execute (c : Command) : Dialogue shell (Except SystemError Ending) := do
  Dialogue.notice (.executing c)
  Dialogue.request (I := shell) c

/-- A query prints one image id on each line, and nothing if there is no such image. -/
def listsImages (output : List UInt8) : Bool :=
  (Text.lines (Text.Utf8.decodeLossy output)).any fun line => ! (Text.trim line).isEmpty

/-- An engine is available if it can be started, whatever status it ends with. -/
def checkAvailable (e : Engine) : Attempt shell Fault Unit := ExceptT.mk do
  match ← execute e.versionCommand with
  | .ok _ => return .ok ()
  | .error error => return .error (.unavailable e.program error)

/-- Asks the engine for an image. A query that fails counts as absence: the pull that follows
tells the real problem. -/
def query (e : Engine) (image : Image) : Dialogue shell (Except Fault Bool) := do
  match ← execute (e.queryCommand image) with
  | .error error => return .error (.notStarted s!"{e.program} images" error)
  | .ok ending =>
    if ending.status.success then return .ok (listsImages ending.output)
    else
      Dialogue.notice (.queryEnded e.program image ending.status)
      return .ok false

def pull (e : Engine) (image : Image) : Dialogue shell (Except Fault Unit) := do
  match ← execute (e.pullCommand image) with
  | .error error => return .error (.notStarted s!"{e.program} pull" error)
  | .ok ending =>
    if ending.status.success then return .ok ()
    else return .error (.pullFailed image.reference ending.status.code?)

def answer (e : Engine) : (call : Call) → Dialogue shell call.Answer
  | .query image => e.query image
  | .pull image => e.pull image

def serve {ε α : Type} (e : Engine) (d : Attempt runtime ε α) : Attempt shell ε α :=
  ExceptT.mk (d.run.through e.answer)

end Engine

end ImageStock
