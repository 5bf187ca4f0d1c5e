import ImageStock.Toml.Malformed

/-!
Readers of parts of a document: they take what is left of the text and give a result and what is
left then. Positions are numbers of characters left.
-/

namespace ImageStock.Toml

/-- Why and where reading stopped. A fatal stop rules out every other reading as well. -/
structure Stop where
  left : Nat
  fatal : Bool := false
  problem : Malformed := {}
  deriving DecidableEq, Repr

abbrev Reader (α : Type) := List Char → Except Stop (α × List Char)

namespace Stop

def cut (s : Stop) : Stop := { s with fatal := true }

/-- Names the part of the grammar that failed, unless a smaller part is named. -/
def label (name : String) (s : Stop) : Stop :=
  { s with problem.label := s.problem.label <|> some name }

def expecting (what : List String) (s : Stop) : Stop :=
  { s with problem.expected := s.problem.expected ++ what }

end Stop

def stop {α : Type} (cs : List Char) : Except Stop α := .error { left := cs.length }

def stopFor {α : Type} (cs : List Char) (reason : String) : Except Stop α :=
  .error { left := cs.length, problem.reason := some reason }

def cut {α : Type} (r : Except Stop α) : Except Stop α := r.mapError Stop.cut

def label {α : Type} (name : String) (r : Except Stop α) : Except Stop α :=
  r.mapError (Stop.label name)

def expecting {α : Type} (what : List String) (r : Except Stop α) : Except Stop α :=
  r.mapError (Stop.expecting what)

def readChar (c : Char) : Reader Unit
  | d :: rest => if d = c then .ok ((), rest) else stop (d :: rest)
  | [] => stop []

def isSpace (c : Char) : Bool := c == ' ' || c == '\t'

def dropSpaces (cs : List Char) : List Char := cs.dropWhile isSpace

def isLineChar (c : Char) : Bool := c == '\t' || (' ' ≤ c && c != '\x7f')

def newline? : List Char → Option (List Char)
  | '\n' :: rest => some rest
  | '\r' :: '\n' :: rest => some rest
  | _ => none

def dropBlankLines : List Char → List Char
  | '\r' :: '\n' :: rest => dropBlankLines rest
  | c :: rest => if isSpace c || c == '\n' then dropBlankLines rest else c :: rest
  | [] => []

theorem dropBlankLines_length_le (cs : List Char) :
    (dropBlankLines cs).length ≤ cs.length := by
  fun_induction dropBlankLines cs with
  | case1 rest ih => simp only [List.length_cons]; omega
  | case2 c rest _ _ ih => simp only [List.length_cons]; omega
  | case3 => exact Nat.le_refl _
  | case4 => exact Nat.le_refl _

def dropComment : List Char → List Char
  | '#' :: rest => rest.dropWhile isLineChar
  | cs => cs

def readLineEnd (cs : List Char) : Except Stop (Unit × List Char) :=
  match newline? cs, cs with
  | some rest, _ => .ok ((), rest)
  | none, [] => .ok ((), [])
  | none, _ => stop cs

def readLineRest : Reader Unit := fun cs =>
  expecting ["newline", "`#`"] (readLineEnd (dropComment (dropSpaces cs)))

/-- Spaces, line ends and comments, where line ends do not count. Reading stops after a character
that stands where only a line end can. -/
def readTrivia : Nat → Reader Unit
  | 0, cs => .ok ((), cs)
  | fuel + 1, cs =>
    match dropSpaces cs with
    | '#' :: rest =>
      match newline? (rest.dropWhile isLineChar) with
      | some rest => readTrivia fuel rest
      | none => stop ((rest.dropWhile isLineChar).drop 1)
    | '\n' :: rest => readTrivia fuel rest
    | '\r' :: '\n' :: rest => readTrivia fuel rest
    | '\r' :: rest => stop rest
    | rest => .ok ((), rest)

end ImageStock.Toml
