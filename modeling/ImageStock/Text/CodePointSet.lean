/-!
Sets of code points, given by their boundaries in ascending order: the first boundary opens the
first range, the second is the code point after its end, and so on.
-/

namespace ImageStock.Text

structure CodePointSet where
  boundaries : List Nat

/-- A code point is in the set when an odd number of boundaries lie at or below it. -/
def CodePointSet.contains (set : CodePointSet) (c : Char) : Bool :=
  (set.boundaries.takeWhile (· ≤ c.toNat)).length % 2 == 1

end ImageStock.Text
