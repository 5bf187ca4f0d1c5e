/-!
White space: the twenty-five code points of the Unicode property `White_Space`, and the words
that they separate.
-/

namespace ImageStock.Text

/-- The Unicode property `White_Space`. -/
def isBlank (c : Char) : Bool :=
  let n := c.toNat
  (9 ≤ n && n ≤ 13) || n == 0x20 || n == 0x85 || n == 0xA0 || n == 0x1680 ||
    (0x2000 ≤ n && n ≤ 0x200A) || n == 0x2028 || n == 0x2029 || n == 0x202F ||
    n == 0x205F || n == 0x3000

def allBlank (s : String) : Bool := s.toList.all isBlank

def splitOn {α : Type} (p : α → Bool) : List α → List (List α)
  | [] => [[]]
  | c :: cs =>
    if p c then [] :: splitOn p cs
    else match splitOn p cs with
      | [] => [[c]]
      | piece :: pieces => (c :: piece) :: pieces

def words (s : String) : List String :=
  ((splitOn isBlank s.toList).filter (! ·.isEmpty)).map String.ofList

def trim (cs : List Char) : List Char :=
  ((cs.dropWhile isBlank).reverse.dropWhile isBlank).reverse

def dropReturn (line : List Char) : List Char :=
  if line.getLast? = some '\r' then line.dropLast else line

/-- The lines of a text. Each ends at a newline or at the end of the text; a carriage return
before the newline belongs to neither, and no empty line follows the last newline. -/
def lines (cs : List Char) : List (List Char) :=
  match (splitOn (· == '\n') cs).reverse with
  | [] => []
  | last :: ended =>
    (ended.map dropReturn).reverse ++ if last.isEmpty then [] else [last]

theorem splitOn_ne_nil {α : Type} (p : α → Bool) (cs : List α) : splitOn p cs ≠ [] := by
  cases cs with
  | nil => simp [splitOn]
  | cons c cs =>
    simp only [splitOn]
    split
    · simp
    · split <;> simp

end ImageStock.Text
