import ImageStock.Engine
import ImageStock.Text.Hex

/-!
Commands that are started by someone else, at the other end of a line of text: how a command is
asked for, and how the answer is read.
-/

namespace ImageStock.Relay

def request (c : Command) : String := s!"run {c.message}\n"

def bytes (word : String) : List UInt8 := Text.bytesOfHex word.toList

/-- The answer to a request: how the command ended, and what it wrote, in hexadecimal digits; or
the number of the error because of which it could not be started. -/
def answer? (line : String) : Option (Except SystemError Ending) :=
  match Text.words line with
  | "exited" :: code :: written => do ending (processStatus (← code.toNat?)) written
  | "signalled" :: signal :: written => do ending (.signalled (← signal.toNat?)) written
  | ["refused", number] => do return .error (.number (← number.toNat?))
  | _ => none
where
  ending (status : Status) (written : List String) : Option (Except SystemError Ending) :=
    match written with
    | [] => some (.ok ⟨status, [], []⟩)
    | [output] => some (.ok ⟨status, bytes output, []⟩)
    | [output, errors] => some (.ok ⟨status, bytes output, bytes errors⟩)
    | _ => none

def environment (block : List UInt8) : List (String × List UInt8) :=
  let text := block.map fun b => Char.ofNat b.toNat
  (Text.splitOn (· == '\x00') text).filterMap fun entry =>
    match entry.dropWhile (· != '=') with
    | _ :: value =>
      let asBytes (cs : List Char) : List UInt8 := cs.map fun c => c.toNat.toUInt8
      let name := asBytes (entry.takeWhile (· != '='))
      some (String.ofList (Text.Utf8.decodeLossy name), asBytes value)
    | [] => none

end ImageStock.Relay
