/-!
Hexadecimal digits.
-/

namespace ImageStock.Text

def hex (n : Nat) : List Char := Nat.toDigits 16 n

def hexUpper (width n : Nat) : List Char :=
  let digits := (hex n).map Char.toUpper
  List.replicate (width - digits.length) '0' ++ digits

def hexValue? (c : Char) : Option Nat :=
  if '0' ≤ c ∧ c ≤ '9' then some (c.toNat - '0'.toNat)
  else if 'a' ≤ c ∧ c ≤ 'f' then some (c.toNat - 'a'.toNat + 10)
  else if 'A' ≤ c ∧ c ≤ 'F' then some (c.toNat - 'A'.toNat + 10)
  else none

def bytesOfHex : List Char → List UInt8
  | a :: b :: rest =>
    (16 * (hexValue? a).getD 0 + (hexValue? b).getD 0).toUInt8 :: bytesOfHex rest
  | _ => []

end ImageStock.Text
