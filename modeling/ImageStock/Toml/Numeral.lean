import ImageStock.Number.Binary64
import ImageStock.Text.Hex
import ImageStock.Toml.Reader

/-!
Integers in four bases and numbers with a fraction or an exponent. A single underscore may stand
between two digits.
-/

namespace ImageStock.Toml

inductive Numeral where
  | integer (n : Int)
  | float (x : Binary64)
  deriving DecidableEq, Repr

def isDigit (c : Char) : Bool := '0' ≤ c && c ≤ '9'

def readMoreDigits (isDigit : Char → Bool) (cs : List Char) :
    Except Stop (List Char × List Char) :=
  match cs with
  | '_' :: rest =>
    match rest with
    | c :: rest =>
      if isDigit c then do
        let (digits, rest) ← readMoreDigits isDigit rest
        return (c :: digits, rest)
      else expecting ["digit"] (cut (stop (c :: rest)))
    | [] => expecting ["digit"] (cut (stop []))
  | c :: rest =>
    if isDigit c then do
      let (digits, rest) ← readMoreDigits isDigit rest
      return (c :: digits, rest)
    else .ok ([], c :: rest)
  | [] => .ok ([], [])

def readDigits (isDigit : Char → Bool) : Reader (List Char)
  | c :: rest =>
    if isDigit c then (readMoreDigits isDigit rest).map fun (digits, rest) => (c :: digits, rest)
    else stop (c :: rest)
  | [] => stop []

def dropSign : List Char → Bool × List Char
  | '-' :: rest => (true, rest)
  | '+' :: rest => (false, rest)
  | cs => (false, cs)

def readWhole : Reader (List Char) := fun cs =>
  label "integer" <|
    match cs with
    | '0' :: rest => .ok (['0'], rest)
    | cs => readDigits isDigit cs

def digitsValue (base : Nat) (digits : List Char) : Nat :=
  digits.foldl (fun n c => base * n + (Text.hexValue? c).getD 0) 0

def signedInteger (negative : Bool) (base : Nat) (digits : List Char) (cs : List Char) :
    Except Stop Int :=
  let n : Int := digitsValue base digits
  let n := if negative then -n else n
  if n < -0x8000000000000000 then cut (stopFor cs "number too small to fit in target type")
  else if 0x8000000000000000 ≤ n then cut (stopFor cs "number too large to fit in target type")
  else .ok n

def readBased (name : String) (base : Nat) (isDigit : Char → Bool) (start : List Char) :
    Reader Numeral := fun cs => do
  let (digits, rest) ← label name (cut (readDigits isDigit cs))
  return (.integer (← signedInteger false base digits start), rest)

def readFraction : Reader (List Char)
  | '.' :: rest => expecting ["digit"] (cut (readDigits isDigit rest))
  | cs => stop cs

def readExponent : Reader Int
  | c :: rest =>
    if c == 'e' || c == 'E' then
      let (negative, rest) := dropSign rest
      (cut (readDigits isDigit rest)).map fun (digits, rest) =>
        let n : Int := digitsValue 10 digits
        (if negative then -n else n, rest)
    else stop (c :: rest)
  | [] => stop []

/-- The number of a decimal text. No text of a finite number stands for positive infinity. -/
def decimalFloat (negative : Bool) (whole fraction : List Char) (exponent : Int)
    (cs : List Char) : Except Stop Numeral :=
  let x := Binary64.ofDecimal negative (digitsValue 10 (whole ++ fraction))
    (exponent - fraction.length)
  if x = .infinite false then cut (stop cs) else .ok (.float x)

def readDecimal (cs : List Char) : Except Stop (Numeral × List Char) := do
  let (negative, unsigned) := dropSign cs
  let (whole, rest) ← readWhole unsigned
  match rest with
  | '.' :: _ => label "floating-point number" do
    let (fraction, rest) ← readFraction rest
    match readExponent rest with
    | .ok (exponent, rest) =>
      return (← decimalFloat negative whole fraction exponent cs, rest)
    | .error s =>
      if s.fatal then .error s
      else return (← decimalFloat negative whole fraction 0 cs, rest)
  | c :: _ =>
    if c == 'e' || c == 'E' then label "floating-point number" do
      let (exponent, rest) ← readExponent rest
      return (← decimalFloat negative whole [] exponent cs, rest)
    else return (.integer (← signedInteger negative 10 whole cs), rest)
  | [] => return (.integer (← signedInteger negative 10 whole cs), rest)

def readNumeral : Reader Numeral
  | '0' :: 'x' :: rest =>
    readBased "hexadecimal integer" 16 (fun c => (Text.hexValue? c).isSome)
      ('0' :: 'x' :: rest) rest
  | '0' :: 'o' :: rest =>
    readBased "octal integer" 8 (fun c => '0' ≤ c && c ≤ '7') ('0' :: 'o' :: rest) rest
  | '0' :: 'b' :: rest =>
    readBased "binary integer" 2 (fun c => c == '0' || c == '1') ('0' :: 'b' :: rest) rest
  | cs =>
    let (negative, unsigned) := dropSign cs
    match unsigned with
    | 'i' :: 'n' :: 'f' :: rest => .ok (.float (.infinite negative), rest)
    | 'n' :: 'a' :: 'n' :: rest => .ok (.float (.nan negative), rest)
    | _ => readDecimal cs

end ImageStock.Toml
