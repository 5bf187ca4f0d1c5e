/-!
Texts that are numbers.
-/

namespace ImageStock

def dropPlusMinus : List Char → List Char
  | '+' :: rest | '-' :: rest => rest
  | cs => cs

def isDecimalDigit (c : Char) : Bool := '0' ≤ c && c ≤ '9'

def isWrittenExponent (cs : List Char) : Bool :=
  let digits := dropPlusMinus cs
  !digits.isEmpty && digits.all isDecimalDigit

/-- A sign may stand in front of a number. It is a word for what no digits can write, or digits
with a point before, among or after them and with an exponent. -/
def isWrittenNumber (cs : List Char) : Bool :=
  let unsigned := dropPlusMinus cs
  let whole := unsigned.takeWhile isDecimalDigit
  let (fraction, rest) := match unsigned.dropWhile isDecimalDigit with
    | '.' :: rest => (rest.takeWhile isDecimalDigit, rest.dropWhile isDecimalDigit)
    | rest => ([], rest)
  let exponentFits := match rest with
    | [] => true
    | c :: rest => (c == 'e' || c == 'E') && isWrittenExponent rest
  ["inf", "infinity", "nan"].contains (String.ofList (unsigned.map Char.toLower)) ||
    !(whole.isEmpty && fraction.isEmpty) && exponentFits

end ImageStock
