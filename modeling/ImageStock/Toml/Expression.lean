import ImageStock.Toml.Moment
import ImageStock.Toml.Node
import ImageStock.Toml.Quote

/-!
Keys and values.
-/

namespace ImageStock.Toml

/-- The least nesting of arrays, of tables in braces or of parts of a key that is refused. -/
def nestingLimit : Nat := 80

def tooDeep : String := "recursion limit exceeded"

def readKey : Reader Key := fun cs =>
  let named : Except Stop (List Char × List Char) :=
    match cs with
    | '"' :: rest => readBasic rest
    | '\'' :: rest => readLiteral rest
    | cs =>
      let name := cs.takeWhile isBareKeyChar
      if name.isEmpty then stop cs else .ok (name, cs.dropWhile isBareKeyChar)
  named.map fun (name, rest) => (⟨String.ofList name, ⟨cs.length, rest.length⟩⟩, rest)

/-- The parts of a key after its first, each after a point. A point that no part follows belongs
to what comes next. -/
def readKeyParts : Nat → Reader (List Key)
  | 0, cs => .ok ([], cs)
  | fuel + 1, cs =>
    match cs with
    | '.' :: rest =>
      match readKey (dropSpaces rest) with
      | .error s => if s.fatal then .error s else .ok ([], cs)
      | .ok (key, rest) => do
        let (keys, rest) ← readKeyParts fuel (dropSpaces rest)
        return (key :: keys, rest)
    | cs => .ok ([], cs)

def readDottedKey : Reader (List Key × Key) := fun cs => do
  let (first, rest) ← label "key" (readKey (dropSpaces cs))
  let (more, rest) ← label "key" (readKeyParts rest.length (dropSpaces rest))
  if nestingLimit ≤ more.length + 1 then stopFor cs tooDeep
  else
    let keys := first :: more
    return ((keys.dropLast, keys.getLast (by simp [keys])), rest)

def readEquals : Reader Unit := fun cs => expecting ["`.`", "`=`"] (readChar '=' cs)

/-- Items with commas between them, as many as can be read. Where the item after a comma cannot be
read, the comma belongs to what comes next. -/
def readSeparated {α : Type} (item : Reader α) : Nat → Reader (List α)
  | fuel, cs =>
    match item cs with
    | .error s => if s.fatal then .error s else .ok ([], cs)
    | .ok (a, rest) =>
      match fuel, rest with
      | fuel + 1, ',' :: more => do
        let (as, last) ← readSeparated item fuel more
        if as.isEmpty then return ([a], rest) else return (a :: as, last)
      | _, _ => .ok ([a], rest)

def readArrayRest (item : Reader Node) : Reader (List Node)
  | ']' :: rest => .ok ([], rest)
  | cs => cut do
    let spaced : Reader Node := fun cs => do
      let (_, rest) ← readTrivia cs.length cs
      let (node, rest) ← item rest
      let (_, rest) ← readTrivia rest.length rest
      return (node, rest)
    let (nodes, rest) ← readSeparated spaced cs.length cs
    let rest := match nodes, rest with
      | _ :: _, ',' :: rest => rest
      | _, rest => rest
    let (_, rest) ← readTrivia rest.length rest
    let (_, rest) ← label "array" (expecting ["`]`"] (readChar ']' rest))
    return (nodes, rest)

def readPair (item : Reader Node) : Reader ((List Key × Key) × Node) := fun cs => do
  let (key, rest) ← readDottedKey cs
  cut do
    let (_, rest) ← readEquals rest
    let (node, rest) ← item (dropSpaces rest)
    return ((key, node), dropSpaces rest)

def entriesOfPairs (pairs : List ((List Key × Key) × Node)) : Except Clash Entries :=
  pairs.foldlM (fun entries ((path, key), node) =>
    entries.insert true none .braces path key node) []

def readBracesRest (item : Reader Node) : Reader Entries := fun cs => cut do
  let (pairs, rest) ← readSeparated (readPair item) cs.length cs
  match entriesOfPairs pairs with
  | .error clash => stopFor cs clash.message
  | .ok entries =>
    let (_, rest) ← label "inline table" (expecting ["`\x7d`"] (readChar '\x7d' (dropSpaces rest)))
    return (entries, rest)

def placed {α : Type} (make : α → Span → Node) (start : List Char)
    (r : Except Stop (α × List Char)) : Except Stop (Node × List Char) :=
  r.map fun (a, rest) => (make a ⟨start.length, rest.length⟩, rest)

def numeralScalar : Numeral → Scalar
  | .integer n => .integer n
  | .float x => .float x

def readWord (word : String) (s : Scalar) : Reader Scalar := fun cs =>
  if word.toList.isPrefixOf cs then .ok (s, cs.drop word.length) else stop cs

def orText (r : Except Stop (Scalar × List Char)) : Except Stop (Scalar × List Char) :=
  label "string" (expecting ["`\"`", "`'`"] r)

def readScalar : Reader Scalar
  | [] => stop []
  | c :: rest =>
    let cs := c :: rest
    if c == '"' || c == '\'' then (readText cs).map fun (s, rest) => (.text s, rest)
    else if c == '+' || c == '-' || isDigit c then
      match readMoment cs with
      | .ok (s, rest) => .ok (.moment s, rest)
      | .error s =>
        if s.fatal then .error s
        else (readNumeral cs).map fun (n, rest) => (numeralScalar n, rest)
    else if c == '_' then expecting ["leading digit"] (label "integer" (stop cs))
    else if c == '.' then expecting ["leading digit"] (label "floating-point number" (stop cs))
    else if c == 't' then orText (cut (readWord "true" (.boolean true) cs))
    else if c == 'f' then orText (cut (readWord "false" (.boolean false) cs))
    else if c == 'i' then orText (readWord "inf" (.float (.infinite false)) cs)
    else if c == 'n' then orText (readWord "nan" (.float (.nan false)) cs)
    else orText (stop cs)

def readValue : Nat → Reader Node
  | 0, cs =>
    match cs with
    | '[' :: _ | '\x7b' :: _ => cut (stopFor cs tooDeep)
    | cs => placed .scalar cs (readScalar cs)
  | depth + 1, cs =>
    match cs with
    | '[' :: rest => placed .array cs (readArrayRest (readValue depth) rest)
    | '\x7b' :: rest =>
      placed (fun entries span => .table .braces entries (some span)) cs
        (readBracesRest (readValue depth) rest)
    | cs => placed .scalar cs (readScalar cs)

end ImageStock.Toml
