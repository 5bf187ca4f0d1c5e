import ImageStock.Toml.Numeral

/-!
Dates, times of day, and both with or without an offset.
-/

namespace ImageStock.Toml

def readField (count : Nat) (cs : List Char) : Except Stop (Nat × List Char) :=
  let digits := (cs.take count).takeWhile isDigit
  if digits.length = count then .ok (digitsValue 10 digits, cs.drop count) else stop cs

def readBetween (low high : Nat) (cs : List Char) : Except Stop (Nat × List Char) := do
  let (n, rest) ← readField 2 cs
  if low ≤ n ∧ n ≤ high then return (n, rest) else stopFor cs "value is out of range"

def daysIn (year month : Nat) : Nat :=
  if month = 2 then
    if year % 4 = 0 ∧ (year % 100 ≠ 0 ∨ year % 400 = 0) then 29 else 28
  else if month = 4 ∨ month = 6 ∨ month = 9 ∨ month = 11 then 30
  else 31

def readDate (cs : List Char) : Except Stop (Unit × List Char) := do
  let (year, rest) ← readField 4 cs
  let (_, rest) ← readChar '-' rest
  cut do
    let (month, rest) ← readBetween 1 12 rest
    let (_, day) ← readChar '-' rest
    let (n, rest) ← readBetween 1 31 day
    if n ≤ daysIn year month then return ((), rest) else stopFor day "value is out of range"

def dropSecondFraction : List Char → List Char
  | '.' :: c :: rest => if isDigit c then rest.dropWhile isDigit else '.' :: c :: rest
  | cs => cs

def readTime (cs : List Char) : Except Stop (Unit × List Char) := do
  let (_, rest) ← readBetween 0 23 cs
  let (_, rest) ← readChar ':' rest
  cut do
    let (_, rest) ← readBetween 0 59 rest
    let (_, rest) ← readChar ':' rest
    let (_, rest) ← readBetween 0 60 rest
    return ((), dropSecondFraction rest)

def readOffset (cs : List Char) : Except Stop (Unit × List Char) :=
  label "time offset" <|
    match cs with
    | c :: rest =>
      if c == 'Z' || c == 'z' then .ok ((), rest)
      else if c == '+' || c == '-' then cut do
        let (_, rest) ← readBetween 0 23 rest
        let (_, rest) ← readChar ':' rest
        let (_, rest) ← readBetween 0 59 rest
        return ((), rest)
      else stop cs
    | [] => stop []

/-- Reads on, or goes back where the reader stops without ruling out other readings. -/
def optional (r : Reader Unit) : Reader Unit := fun cs =>
  match r cs with
  | .ok result => .ok result
  | .error s => if s.fatal then .error s else .ok ((), cs)

def readTimeAfterDate : Reader Unit
  | c :: rest =>
    if c == 'T' || c == 't' || c == ' ' then do
      let (_, rest) ← readTime rest
      optional readOffset rest
    else stop (c :: rest)
  | [] => stop []

def readDated : Reader Unit := fun cs => label "date-time" do
  let (_, rest) ← readDate cs
  optional readTimeAfterDate rest

def readMoment : Reader String := fun cs =>
  let moment : Except Stop (Unit × List Char) :=
    match readDated cs with
    | .error s => if s.fatal then .error s else label "time" (readTime cs)
    | .ok result => .ok result
  moment.map fun (_, rest) => (String.ofList (cs.take (cs.length - rest.length)), rest)

end ImageStock.Toml
