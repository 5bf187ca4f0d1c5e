import ImageStock.Text.Hex
import ImageStock.Toml.Reader

/-!
Quoted texts: in double quotes with escapes, in apostrophes without, each on one line or as a
block over several lines.
-/

namespace ImageStock.Toml

def isBasicChar (c : Char) : Bool := isLineChar c && c != '"' && c != '\\'

def isLiteralChar (c : Char) : Bool := isLineChar c && c != '\''

def readHex (count : Nat) (cs : List Char) : Except Stop Char :=
  match (cs.take count).mapM Text.hexValue? with
  | none => stop cs
  | some digits =>
    if digits.length < count then stop cs
    else
      let code := digits.foldl (16 * · + ·) 0
      if code.isValidChar then .ok (Char.ofNat code) else stopFor cs "value is out of range"

def readEscape (cs : List Char) : Except Stop (Char × Nat) :=
  match cs with
  | 'b' :: _ => .ok ('\x08', 1)
  | 'f' :: _ => .ok ('\x0c', 1)
  | 'n' :: _ => .ok ('\n', 1)
  | 'r' :: _ => .ok ('\r', 1)
  | 't' :: _ => .ok ('\t', 1)
  | '\\' :: _ => .ok ('\\', 1)
  | '"' :: _ => .ok ('"', 1)
  | 'u' :: rest =>
    (label "unicode 4-digit hex code" (cut (readHex 4 rest))).map (·, 5)
  | 'U' :: rest =>
    (label "unicode 8-digit hex code" (cut (readHex 8 rest))).map (·, 9)
  | [] => stop []
  | c :: rest =>
    label "escape sequence" <|
      expecting ["`b`", "`f`", "`n`", "`r`", "`t`", "`u`", "`U`", "`\\`", "`\"`"] <|
        cut (stop (if c.utf8Size = 1 then rest else cs))

def readBasic (cs : List Char) : Except Stop (List Char × List Char) :=
  match cs with
  | '"' :: rest => .ok ([], rest)
  | '\\' :: c :: rest => do
    let (c, used) ← readEscape (c :: rest)
    let (text, rest) ← readBasic ((c :: rest).drop used)
    return (c :: text, rest)
  | c :: rest =>
    if isBasicChar c then do
      let (text, rest) ← readBasic rest
      return (c :: text, rest)
    else label "basic string" (cut (stop cs))
  | [] => label "basic string" (cut (stop cs))
termination_by cs.length
decreasing_by all_goals simp only [List.length_drop, List.length_cons]; omega

def readLiteral (cs : List Char) : Except Stop (List Char × List Char) :=
  match cs.dropWhile isLiteralChar with
  | '\'' :: rest => .ok (cs.takeWhile isLiteralChar, rest)
  | rest => label "literal string" (cut (stop rest))

/-- A block is closed by three quotes, and up to two more stand for themselves just before them.
Gives the ones that stand for themselves and what follows the close. -/
def closeBlock? (quote : Char) (cs : List Char) : Option (List Char × List Char) :=
  let run := (cs.takeWhile (· == quote)).length
  if run < 3 then none
  else
    let extra := min (run - 3) 2
    some (List.replicate extra quote, cs.drop (extra + 3))

/-- One or two quotes within a block must be followed by more of its text. -/
def blockGoesOn (isChar : Char → Bool) (quote : Char) (cs : List Char) : Bool :=
  match cs.dropWhile (· == quote) with
  | '\r' :: '\n' :: _ => true
  | c :: _ => isChar c || c == '\n'
  | [] => false

def readBasicBlock (cs : List Char) : Except Stop (List Char × List Char) :=
  match cs with
  | '"' :: rest =>
    match closeBlock? '"' cs with
    | some (text, rest) => .ok (text, rest)
    | none =>
      if blockGoesOn (fun c => isBasicChar c || c == '\\') '"' cs then do
        let (text, rest) ← readBasicBlock rest
        return ('"' :: text, rest)
      else
        let after := cs.dropWhile (· == '"')
        label "multiline basic string" (cut (stop (if after.isEmpty then cs else after)))
  | '\\' :: rest =>
    match newline? (dropSpaces rest) with
    | some _ => readBasicBlock (dropBlankLines rest)
    | none =>
      if rest.isEmpty then label "multiline basic string" (cut (stop cs))
      else do
        let (c, used) ← readEscape rest
        let (text, rest) ← readBasicBlock (rest.drop used)
        return (c :: text, rest)
  | '\r' :: '\n' :: rest => do
    let (text, rest) ← readBasicBlock rest
    return ('\n' :: text, rest)
  | c :: rest =>
    if isBasicChar c || c == '\n' then do
      let (text, rest) ← readBasicBlock rest
      return (c :: text, rest)
    else label "multiline basic string" (cut (stop cs))
  | [] => label "multiline basic string" (cut (stop cs))
termination_by cs.length
decreasing_by
  · simp only [List.length_cons]; omega
  · have := dropBlankLines_length_le rest
    simp only [List.length_cons]; omega
  · simp only [List.length_drop, List.length_cons]; omega
  · simp only [List.length_cons]; omega
  · simp only [List.length_cons]; omega

def readLiteralBlock (cs : List Char) : Except Stop (List Char × List Char) :=
  match cs with
  | '\'' :: rest =>
    match closeBlock? '\'' cs with
    | some (text, rest) => .ok (text, rest)
    | none =>
      if blockGoesOn isLiteralChar '\'' cs then do
        let (text, rest) ← readLiteralBlock rest
        return ('\'' :: text, rest)
      else label "multiline literal string" (cut (stop cs))
  | '\r' :: '\n' :: rest => do
    let (text, rest) ← readLiteralBlock rest
    return ('\n' :: text, rest)
  | c :: rest =>
    if isLiteralChar c || c == '\n' then do
      let (text, rest) ← readLiteralBlock rest
      return (c :: text, rest)
    else label "multiline literal string" (cut (stop cs))
  | [] => label "multiline literal string" (cut (stop cs))
termination_by cs.length
decreasing_by all_goals simp only [List.length_cons]; omega

def dropFirstNewline (cs : List Char) : List Char := (newline? cs).getD cs

def asString (r : Except Stop (List Char × List Char)) : Except Stop (String × List Char) :=
  r.map fun (text, rest) => (String.ofList text, rest)

def readText : Reader String
  | '"' :: '"' :: '"' :: rest => asString (readBasicBlock (dropFirstNewline rest))
  | '"' :: rest => asString (readBasic rest)
  | '\'' :: '\'' :: '\'' :: rest => asString (readLiteralBlock (dropFirstNewline rest))
  | '\'' :: rest => asString (readLiteral rest)
  | cs => stop cs

end ImageStock.Toml
