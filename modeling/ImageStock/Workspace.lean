import ImageStock.Engine
import ImageStock.Host
import ImageStock.Scripted

/-!
Workspaces: a host on which programs stand in for container engines. What a program answers follows
from the last of its arguments and from a store of its own.
-/

namespace ImageStock

/-- What a program does when it is called: what it writes, how it ends, and for a pull that
succeeds whether the image is stored. -/
structure Response where
  output : List UInt8 := []
  errors : List UInt8 := []
  status : Status := processStatus 0
  keeps : Bool := true
  deriving DecidableEq, Repr

def Response.ending (r : Response) : Ending := ⟨r.status, r.output, r.errors⟩

structure StandIn where
  present : Store := {}
  queries : List (String × Response) := []
  pulls : List (String × Response) := []
  version : Response := {}
  deriving DecidableEq, Repr

namespace StandIn

def query (p : StandIn) (reference : String) : Response :=
  match p.queries.lookup reference with
  | some r => r
  | none =>
    if p.present.contains reference then { output := Text.Utf8.encode "sha256:0123abcd\n" }
    else {}

def pull (p : StandIn) (reference : String) : Response × StandIn :=
  let r := (p.pulls.lookup reference).getD {}
  (r, if r.status.success && r.keeps then { p with present := p.present.insert reference } else p)

def respond (p : StandIn) (arguments : List String) : Response × StandIn :=
  match arguments.reverse with
  | reference :: "-q" :: "images" :: _ => (p.query reference, p)
  | reference :: "pull" :: _ => p.pull reference
  | _ => (p.version, p)

end StandIn

structure Workspace where
  host : Host
  programs : List (Location × StandIn) := []
  /-- The calls that programs have received, each with the name of the program in front. -/
  received : List (List String) := []
  /-- The bytes that the system has for what a program is started with, less those that the
  interpreter of a script needs. -/
  room : Nat := 2097152
  deriving Repr

namespace Workspace

/-- The size in bytes from which on no single text can be given to a program. -/
def textLimit : Nat := 131072

def textSizes (w : Workspace) (c : Command) : List Nat :=
  c.words.map String.utf8ByteSize ++
    w.host.environment.map fun (key, value) => key.utf8ByteSize + 1 + value.length

/-- The bytes that texts of some sizes take: each has an end mark and an address of eight bytes. -/
def space : List Nat → Nat
  | [] => 0
  | size :: sizes => size + 9 + space sizes

/-- The system can give a program its texts, and its path name with an end mark. -/
def Fits (w : Workspace) (path : String) (c : Command) : Prop :=
  (∀ size ∈ w.textSizes c, size < textLimit) ∧
    path.utf8ByteSize + 1 + space (w.textSizes c) ≤ w.room

instance (w : Workspace) (path : String) (c : Command) : Decidable (w.Fits path c) :=
  inferInstanceAs (Decidable (_ ∧ _))

def start (c : Command) (w : Workspace) : Except SystemError Ending × Workspace :=
  if c.words.any (·.toList.contains '\x00') then (.error .nulInArgument, w)
  else match w.host.findProgram c.program with
    | .error e => (.error e, w)
    | .ok (path, l) =>
      if w.Fits path c then
        match w.programs.lookup l with
        | none => (.error .notExecutableFormat, w)
        | some p =>
          let (r, p) := p.respond c.arguments
          (.ok r.ending, { w with
            programs := (l, p) :: w.programs.filter (·.1 ≠ l)
            received := w.received ++ [l.getLastD "" :: c.arguments] })
      else (.error .argumentTooLong, w)

def machine : Machine shell Workspace where
  answer := start

end Workspace

end ImageStock
