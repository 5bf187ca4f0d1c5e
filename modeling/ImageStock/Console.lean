import ImageStock.Engine
import ImageStock.LogFilter
import ImageStock.Text.Utf8

/-!
What a run shows: its reports, what it prints, and what audible commands write.
-/

namespace ImageStock

structure Console where
  output : List UInt8 := []
  errors : List UInt8 := []
  deriving DecidableEq, Repr

namespace Console

/-- Characters that would act on a terminal are shown by number. -/
def reportChar (c : Char) : List Char :=
  let n := c.toNat
  if n == 0x1B || n == 0x07 || n == 0x08 || n == 0x0C || n == 0x7F then
    ['\\', 'x', Nat.digitChar (n / 16), Nat.digitChar (n % 16)]
  else if 0x80 ≤ n && n ≤ 0x9F then
    ['\\', 'u', '\x7b'] ++ Nat.toDigits 16 n ++ ['\x7d']
  else [c]

def report (n : Notice) : String :=
  let text := String.ofList (n.text.toList.flatMap reportChar)
  s!"{n.level.name} {n.target}: {text}\n"

def ofEvent (filter : LogFilter) : Event shell → Console
  | .told (.notice n) => if filter.allows n then { output := Text.Utf8.encode (report n) } else {}
  | .told (.printed text) => { output := Text.Utf8.encode text }
  | .told (.warned text) => { errors := Text.Utf8.encode text }
  | .asked c answer =>
    match c.audible, answer with
    | true, .ok ending => ⟨ending.output, ending.errors⟩
    | _, _ => {}

def append (a b : Console) : Console := ⟨a.output ++ b.output, a.errors ++ b.errors⟩

def ofEvents (filter : LogFilter) (events : List (Event shell)) : Console :=
  events.foldr (fun e rest => (ofEvent filter e).append rest) {}

end Console

end ImageStock
