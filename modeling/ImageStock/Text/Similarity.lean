/-!
How alike two words are, after Jaro: from 0 for words with nothing in common to 1 for equal words.
-/

namespace ImageStock.Text

/-- Characters match if they are equal and their places are at most this far apart. -/
def matchReach (a b : List Char) : Nat := max a.length b.length / 2 - 1

def partner (reach : Nat) (b : List Char) (taken : List Nat) (c : Char) (i : Nat) : Option Nat :=
  (List.range (min b.length (i + reach + 1))).find? fun j =>
    i - reach ≤ j && b[j]? == some c && !taken.contains j

def matching (a b : List Char) : List (Char × Nat) :=
  a.zipIdx.foldl (fun found (c, i) =>
    match partner (matchReach a b) b (found.map (·.2)) c i with
    | some j => found ++ [(c, j)]
    | none => found) []

/-- Half the number of places at which the matching characters of the two words differ. -/
def transpositions (b : List Char) (found : List (Char × Nat)) : Nat :=
  let inOrder := b.zipIdx.filter fun (_, j) => (found.map (·.2)).contains j
  ((found.zip inOrder).filter fun ((c, _), (d, _)) => c != d).length / 2

def similarity (a b : List Char) : Float :=
  let found := matching a b
  let m := found.length
  if m = 0 then if a.isEmpty && b.isEmpty then 1 else 0
  else
    (m.toFloat / a.length.toFloat + m.toFloat / b.length.toFloat +
      (m - transpositions b found).toFloat / m.toFloat) / 3

def insertRated {α : Type} (rating : Float) (a : α) : List (Float × α) → List (Float × α)
  | [] => [(rating, a)]
  | (r, b) :: rest =>
    let equalFollows := (rest.head?.map fun (s, _) => s == rating).getD false
    if r < rating || (r == rating && equalFollows) then (r, b) :: insertRated rating a rest
    else (rating, a) :: (r, b) :: rest

/-- The candidates that are like a word, the most similar one last. Of equally similar ones the
first candidate is the last. -/
def similarTo {α : Type} (word : String) (name : α → String) (candidates : List α) : List α :=
  let rated := candidates.foldl (fun rated c =>
    let rating := similarity word.toList (name c).toList
    if rating > 0.7 then insertRated rating c rated else rated) []
  rated.map (·.2)

end ImageStock.Text
