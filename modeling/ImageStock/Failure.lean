import ImageStock.ProjectFile.Mismatch
import ImageStock.SystemError
import ImageStock.Toml.Excerpt

/-!
What can go wrong, its messages, and the exit status it leads to.
-/

namespace ImageStock

inductive Fault where
  /-- A pull that ended with a status, or was ended by a signal. -/
  | pullFailed (reference : String) (code : Option Int)
  /-- The container command cannot be started at all. -/
  | unavailable (program : String) (error : SystemError)
  | notStarted (command : String) (error : SystemError)
  | emptyReference
  deriving DecidableEq, Repr

namespace Fault

def message : Fault → String
  | pullFailed reference (some code) => s!"Failed to pull image {reference} (exit code {code})"
  | pullFailed reference none => s!"Failed to pull image {reference} (terminated by signal)"
  | unavailable program _ => s!"{program} CLI not found. Please install Docker or Podman."
  | notStarted command _ => s!"Failed to execute {command}"
  | emptyReference => "Image reference is empty"

def source? : Fault → Option SystemError
  | unavailable _ error | notStarted _ error => some error
  | pullFailed .. | emptyReference => none

/-- A failed pull leads to its own status unless that says success, all else to 1. -/
def exitCode : Fault → Int
  | pullFailed _ (some code) => if code = 0 then 1 else code
  | _ => 1

end Fault

inductive Cause where
  | fault (f : Fault)
  | system (e : SystemError)
  | malformed (place : Toml.Excerpt) (m : Toml.Malformed)
  | unfit (place : Toml.Excerpt) (m : ProjectFile.Mismatch)
  | noVersion (key : String)
  | twoOrigins (item : String)
  | noOrigin (item : String)
  | noSuchFile (path : String)
  | fileExists (path : String)
  | unsupportedVersion (path : String) (version : UInt32)
  | emptyCommand
  | other (text : String)
  deriving Repr

inductive Context where
  | inItem (name : String)
  | reading (path : String)
  | parsing (path : String)
  | writing (path : String)
  | note (text : String)
  deriving DecidableEq, Repr

/-- A cause within contexts, the outermost first. -/
structure Failure where
  contexts : List Context := []
  cause : Cause
  deriving Repr

def Cause.messages : Cause → List String
  | fault f => f.message :: (f.source?.map SystemError.message).toList
  | system e => [e.message]
  | malformed place m => [place.render ++ m.message ++ "\n"]
  | unfit place m => [place.render ++ m.message ++ "\n"]
  | noVersion key =>
    [s!"No image version configured. Set {key} or images.default_version."]
  | twoOrigins item => [s!"Image entry '{item}' sets both 'default' and 'base'; use exactly one"]
  | noOrigin item => [s!"Image entry '{item}' needs either 'default' or 'base'"]
  | noSuchFile path => [s!"Config file '{path}' does not exist"]
  | fileExists path => [s!"{path} already exists. Use --force to overwrite it."]
  | unsupportedVersion path version =>
    [s!"Unsupported {path} version: {version}. This tool supports version 1."]
  | emptyCommand => ["Container CLI command is empty"]
  | other text => [text]

def Context.message : Context → String
  | inItem name => s!"Invalid image entry '{name}'"
  | reading path => s!"Failed to read {path}"
  | parsing path => s!"Failed to parse {path}"
  | writing path => s!"Failed to write {path}"
  | note text => text

namespace Failure

def of (cause : Cause) : Failure := { cause }

def ofFault (f : Fault) : Failure := of (.fault f)

def within (context : Context) (f : Failure) : Failure :=
  { f with contexts := context :: f.contexts }

def messages (f : Failure) : List String :=
  f.contexts.map Context.message ++ f.cause.messages

def chain (f : Failure) : String := ": ".intercalate f.messages

def headline (f : Failure) : String := f.messages.headD ""

/-- Only a fault can carry a status of its own, whatever contexts stand around it. -/
def exitCode (f : Failure) : Int :=
  match f.cause with
  | .fault fault => fault.exitCode
  | _ => 1

end Failure

end ImageStock
