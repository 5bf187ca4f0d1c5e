import ImageStock.Text.Hex

/-!
Writing texts, fields and headers of a document. Each text is written in the plainest of the four
forms that can hold it.
-/

namespace ImageStock.Toml

def needsEscape (c : Char) : Bool := (c < ' ' && c != '\t' && c != '\n') || c == '\x7f'

inductive QuoteForm where
  | basic
  | literal
  | basicBlock
  | literalBlock
  deriving DecidableEq, Repr

def longestRun (c : Char) : List Char → Nat → Nat
  | [], run => run
  | d :: rest, run =>
    if d = c then longestRun c rest (run + 1) else max run (longestRun c rest 0)

/-- The first form that needs no escape and, for the blocks, cannot end too early. A text that
needs escapes is written in double quotes, as a block if it has several lines. -/
def QuoteForm.choose (cs : List Char) : QuoteForm :=
  let escapes := cs.any needsEscape
  let lines := cs.contains '\n'
  let backslashes := cs.contains '\\'
  if !escapes && !lines && !backslashes && !cs.contains '"' then .basic
  else if !escapes && !lines && !cs.contains '\'' then .literal
  else if !escapes && !backslashes && longestRun '"' cs 0 ≤ 2 then .basicBlock
  else if !escapes && longestRun '\'' cs 0 ≤ 2 then .literalBlock
  else if lines then .basicBlock
  else .basic

/-- A character between double quotes. In a block newlines stay, and so do up to two quotes in a
row, of which `quotes` stand just before. -/
def escapeChar (block : Bool) (quotes : Nat) (c : Char) : List Char :=
  match c with
  | '\x08' => ['\\', 'b']
  | '\t' => ['\\', 't']
  | '\n' => if block then ['\n'] else ['\\', 'n']
  | '\x0c' => ['\\', 'f']
  | '\r' => ['\\', 'r']
  | '\\' => ['\\', '\\']
  | '"' => if quotes < (if block then 2 else 0) then ['"'] else ['\\', '"']
  | c => if needsEscape c then ['\\', 'u'] ++ Text.hexUpper 4 c.toNat else [c]

def escapeAll (block : Bool) : Nat → List Char → List Char
  | _, [] => []
  | quotes, c :: cs =>
    let written := escapeChar block quotes c
    written ++ escapeAll block (if written = ['"'] then quotes + 1 else 0) cs

def blockLead (cs : List Char) : List Char := if cs.contains '\n' then ['\n'] else []

def writeText (cs : List Char) : List Char :=
  match QuoteForm.choose cs with
  | .basic => ['"'] ++ escapeAll false 0 cs ++ ['"']
  | .literal => ['\''] ++ cs ++ ['\'']
  | .basicBlock =>
    let quotes := ['"', '"', '"']
    quotes ++ blockLead cs ++ escapeAll true 0 cs ++ quotes
  | .literalBlock =>
    let quotes := ['\'', '\'', '\'']
    quotes ++ blockLead cs ++ cs ++ quotes

def isBareKeyChar (c : Char) : Bool :=
  ('0' ≤ c && c ≤ '9') || ('a' ≤ c && c ≤ 'z') || ('A' ≤ c && c ≤ 'Z') || c == '_' || c == '-'

/-- A key in the plainest form that can hold it. A key is on one line, so a newline takes an
escape. -/
def writeKey (cs : List Char) : List Char :=
  let escapes := cs.any fun c => needsEscape c || c == '\n'
  if !cs.isEmpty && cs.all isBareKeyChar then cs
  else if escapes || !(cs.contains '\\' || cs.contains '"') || cs.contains '\'' then
    ['"'] ++ escapeAll false 0 cs ++ ['"']
  else ['\''] ++ cs ++ ['\'']

def writeLine (key : String) (value : List Char) : List Char :=
  key.toList ++ [' ', '=', ' '] ++ value ++ ['\n']

def writeField (key : String) : Option String → List Char
  | some s => writeLine key (writeText s.toList)
  | none => []

def writeHeader (name : String) : List Char := ['['] ++ name.toList ++ [']', '\n']

def writeRepeatedHeader (name : String) : List Char :=
  ['[', '['] ++ name.toList ++ [']', ']', '\n']

def writeParts : List (List Char) → List Char
  | [] => []
  | [part] => part
  | part :: parts => part ++ '\n' :: writeParts parts

end ImageStock.Toml
