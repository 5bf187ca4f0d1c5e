/-!
UTF-8: encoding of a text, strict decoding, and decoding in which the replacement character
stands for each part that cannot be decoded.
-/

namespace ImageStock.Text.Utf8

/-- What the front of a byte string holds: a character and the bytes after it, or a part that no
character starts with and the bytes after that. -/
inductive Front where
  | character (c : Char) (rest : List UInt8)
  | broken (rest : List UInt8)

/-- The lowest and highest second byte that may follow a first byte of a long form. The narrow
ranges rule out overlong forms, surrogates and code points above `10FFFF`. -/
def secondRange (first : Nat) : Nat × Nat :=
  if first = 0xE0 then (0xA0, 0xBF)
  else if first = 0xED then (0x80, 0x9F)
  else if first = 0xF0 then (0x90, 0xBF)
  else if first = 0xF4 then (0x80, 0x8F)
  else (0x80, 0xBF)

def tailLength (first : Nat) : Option Nat :=
  if first < 0x80 then some 0
  else if 0xC2 ≤ first && first ≤ 0xDF then some 1
  else if 0xE0 ≤ first && first ≤ 0xEF then some 2
  else if 0xF0 ≤ first && first ≤ 0xF4 then some 3
  else none

def leadingBits (first tail : Nat) : Nat :=
  match tail with
  | 0 => first
  | 1 => first - 0xC0
  | 2 => first - 0xE0
  | _ => first - 0xF0

/-- Reads `count` further bytes of a character, the first of them within `range`. What is broken
ends before the first byte that does not fit. -/
def readTail (count : Nat) (range : Nat × Nat) (code : Nat) (bytes : List UInt8) : Front :=
  match count with
  | 0 => .character (Char.ofNat code) bytes
  | count + 1 =>
    match bytes with
    | [] => .broken []
    | b :: rest =>
      if range.1 ≤ b.toNat && b.toNat ≤ range.2 then
        readTail count (0x80, 0xBF) (code * 64 + (b.toNat - 0x80)) rest
      else .broken bytes

def front (first : UInt8) (rest : List UInt8) : Front :=
  match tailLength first.toNat with
  | none => .broken rest
  | some tail =>
    readTail tail (secondRange first.toNat) (leadingBits first.toNat tail) rest

def Front.rest : Front → List UInt8
  | character _ rest => rest
  | broken rest => rest

theorem readTail_rest_length (count : Nat) (range : Nat × Nat) (code : Nat)
    (bytes : List UInt8) : (readTail count range code bytes).rest.length ≤ bytes.length := by
  induction count generalizing range code bytes with
  | zero => simp [readTail, Front.rest]
  | succ count ih =>
    cases bytes with
    | nil => simp [readTail, Front.rest]
    | cons b rest =>
      simp only [readTail]
      split
      · exact Nat.le_succ_of_le (ih ..)
      · simp [Front.rest]

theorem front_rest_length (first : UInt8) (rest : List UInt8) :
    (front first rest).rest.length ≤ rest.length := by
  simp only [front]
  split
  · simp [Front.rest]
  · exact readTail_rest_length ..

def scan : List UInt8 → List (Option Char)
  | [] => []
  | b :: rest =>
    (match front b rest with
      | .character c _ => some c
      | .broken _ => none) :: scan (front b rest).rest
termination_by bytes => bytes.length
decreasing_by
  have := front_rest_length b rest
  simp only [List.length_cons]
  omega

def decode? (bytes : List UInt8) : Option (List Char) :=
  (scan bytes).mapM id

/-- The text that the bytes encode, with `U+FFFD` for each part that cannot be decoded. -/
def decodeLossy (bytes : List UInt8) : List Char :=
  (scan bytes).map (·.getD '\uFFFD')

def encode (s : String) : List UInt8 := s.toUTF8.toList

end ImageStock.Text.Utf8
