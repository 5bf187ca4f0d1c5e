/-!
Numbers of the 64-bit binary format, as exact values, and the nearest of them to a decimal.
-/

namespace ImageStock

inductive Binary64 where
  | finite (negative : Bool) (significand : Nat) (exponent : Int)
  | infinite (negative : Bool)
  | nan (negative : Bool)
  deriving DecidableEq, Repr

namespace Binary64

def minExponent : Int := -1074

def maxExponent : Int := 971

def normal : Nat := Nat.pow 2 52

/-- The nearest integer to `num / den`; a half goes to the even one. -/
def roundDiv (num den : Nat) : Nat :=
  let quotient := num / den
  let twice := 2 * (num % den)
  if twice < den || (twice == den && quotient % 2 == 0) then quotient else quotient + 1

def scaled (num den : Nat) (exponent : Int) : Nat × Nat :=
  match exponent with
  | .ofNat e => (num, den * Nat.pow 2 e)
  | .negSucc e => (num * Nat.pow 2 (e + 1), den)

/-- The exponent at which the integral part of `num / den` has the digits of a significand. -/
def exponentOf (num den : Nat) : Int :=
  let guess := max ((num.log2 : Int) - den.log2 - 53) minExponent
  let (n, d) := scaled num den guess
  if n / d < 2 * normal then guess else guess + 1

def nearest (negative : Bool) (num den : Nat) : Binary64 :=
  let exponent := exponentOf num den
  let (n, d) := scaled num den exponent
  let rounded := roundDiv n d
  let (significand, exponent) :=
    if rounded < 2 * normal then (rounded, exponent) else (normal, exponent + 1)
  if exponent ≤ maxExponent then finite negative significand exponent else infinite negative

/-- The nearest number to `digits * 10 ^ exponent`. Beyond the bounds on the place of the first
digit the answer does not depend on the digits. -/
def ofDecimal (negative : Bool) (digits : Nat) (exponent : Int) : Binary64 :=
  let place : Int := (Nat.toDigits 10 digits).length + exponent
  if digits = 0 || place < -400 then finite negative 0 minExponent
  else if 400 < place then infinite negative
  else match exponent with
    | .ofNat e => nearest negative (digits * Nat.pow 10 e) 1
    | .negSucc e => nearest negative digits (Nat.pow 10 (e + 1))

end Binary64

end ImageStock
