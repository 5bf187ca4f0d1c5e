import ImageStock.Number.Binary64

/-!
The shortest decimal that reads back to a number of the 64-bit binary format, and its text in
positional notation.
-/

namespace ImageStock.Binary64

structure Decimal where
  digits : Nat
  exponent : Int

/-- Four times a number and its two neighbouring halfway points, over one denominator. A decimal
between the halfway points reads back to the number; one on them does if the significand is even. -/
structure Interval where
  low : Nat
  value : Nat
  high : Nat
  den : Nat
  closed : Bool

/-- Below a power of two the gap between numbers is half as wide as above it. -/
def interval (significand : Nat) (exponent : Int) : Interval :=
  let value := 4 * significand
  let below := if significand = normal ∧ minExponent < exponent then 1 else 2
  let (unit, den) := match exponent with
    | .ofNat e => (Nat.pow 2 e, 1)
    | .negSucc e => (1, Nat.pow 2 (e + 1))
  ⟨(value - below) * unit, value * unit, (value + 2) * unit, 4 * den, significand % 2 == 0⟩

def Interval.inUnits (i : Interval) (place : Int) : Interval :=
  match place with
  | .ofNat p => { i with den := i.den * Nat.pow 10 p }
  | .negSucc p =>
    let f := Nat.pow 10 (p + 1)
    { i with low := i.low * f, value := i.value * f, high := i.high * f }

def Interval.contains (i : Interval) (n : Nat) : Bool :=
  if i.closed then i.low ≤ n * i.den && n * i.den ≤ i.high
  else i.low < n * i.den && n * i.den < i.high

def Interval.whole? (i : Interval) : Option Nat :=
  let lower := i.value / i.den
  let twice := 2 * (i.value % i.den)
  match i.contains lower, i.contains (lower + 1) with
  | true, true => some (if twice < i.den then lower else lower + 1)
  | true, false => some lower
  | false, true => some (lower + 1)
  | false, false => none

def shortestFrom (i : Interval) (place : Int) : Nat → Decimal
  | 0 => ⟨(i.inUnits place).value / (i.inUnits place).den, place⟩
  | count + 1 =>
    match (i.inUnits place).whole? with
    | some digits => ⟨digits, place⟩
    | none => shortestFrom i (place - 1) count

/-- The decimal with the fewest digits that reads back to `significand * 2 ^ exponent`. The first
place tried is above its leading digit, and seventeen digits always suffice. -/
def shortest (significand : Nat) (exponent : Int) : Decimal :=
  let i := interval significand exponent
  let place : Int := (Nat.toDigits 10 (i.value / i.den)).length
  let leading : Int :=
    if i.den ≤ i.value then place else -((Nat.toDigits 10 (i.den / i.value)).length : Int) + 1
  shortestFrom i leading 19

def Decimal.text (d : Decimal) : List Char :=
  let digits := Nat.toDigits 10 d.digits
  match d.exponent with
  | .ofNat e => digits ++ List.replicate e '0' ++ ['.', '0']
  | .negSucc e =>
    let places := e + 1
    let filled := List.replicate (places + 1 - digits.length) '0' ++ digits
    filled.take (filled.length - places) ++ '.' :: filled.drop (filled.length - places)

def text : Binary64 → List Char
  | finite negative significand exponent =>
    (if negative then ['-'] else []) ++
      if significand = 0 then ['0', '.', '0'] else (shortest significand exponent).text
  | infinite negative => (if negative then ['-'] else []) ++ "inf".toList
  | nan _ => "NaN".toList

end ImageStock.Binary64
