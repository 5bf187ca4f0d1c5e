import Mathlib.Data.List.TakeWhile
import ImageStock.Text.Blank

/-! White space between words and between lines. Main statements: a text without words is all white
space, the words of any other text are its first one and those after it, and a text has a line with
something in it exactly where not all of it is white space. -/

namespace ImageStock.Text

theorem flatten_splitOn {α : Type} (p : α → Bool) (cs : List α) :
    (splitOn p cs).flatten = cs.filter (! p ·) := by
  induction cs with
  | nil => rfl
  | cons c cs ih =>
      cases separates : p c with
      | true => simp [splitOn, separates, ih]
      | false =>
          rw [splitOn, separates, if_neg Bool.false_ne_true]
          cases pieces : splitOn p cs with
          | nil => exact absurd pieces (splitOn_ne_nil p cs)
          | cons piece pieces =>
              rw [pieces, List.flatten_cons] at ih
              simp [separates, ← ih]

theorem splitOn_append_separator {α : Type} {p : α → Bool} {sep : α} (separates : p sep = true)
    (before after : List α) :
    splitOn p (before ++ sep :: after) = splitOn p before ++ splitOn p after := by
  induction before with
  | nil => simp [splitOn, separates]
  | cons c before ih =>
      by_cases cut : p c = true
      · rw [List.cons_append, splitOn, if_pos cut, ih, splitOn, if_pos cut, List.cons_append]
      · rw [List.cons_append, splitOn, if_neg cut, ih, splitOn, if_neg cut]
        cases split : splitOn p before with
        | nil => exact absurd split (splitOn_ne_nil p before)
        | cons piece pieces => rfl

theorem splitOn_of_inside {α : Type} {p : α → Bool} {cs : List α}
    (inside : ∀ c ∈ cs, p c = false) : splitOn p cs = [cs] := by
  induction cs with
  | nil => rfl
  | cons c cs ih =>
      have rest := ih (by intro d member; exact inside d (by simp [member]))
      rw [splitOn, if_neg (by simp [inside c]), rest]

theorem words_eq_nil_iff (s : String) : words s = [] ↔ allBlank s = true := by
  have pieces : words s = [] ↔ (splitOn isBlank s.toList).flatten = [] := by
    rw [words, List.map_eq_nil_iff, List.filter_eq_nil_iff, List.flatten_eq_nil_iff]
    simp
  rw [pieces, flatten_splitOn, List.filter_eq_nil_iff, allBlank, List.all_eq_true]
  simp

theorem allBlank_append (s t : String) : allBlank (s ++ t) = (allBlank s && allBlank t) := by
  rw [allBlank, String.toList_append, List.all_append]
  rfl

section Pieces

variable {α : Type} (p : α → Bool)

def pieces (cs : List α) : List (List α) := (splitOn p cs).filter (! ·.isEmpty)

variable {p} {c : α}

theorem pieces_cons_of_separator (separates : p c = true) (cs : List α) :
    pieces p (c :: cs) = pieces p cs := by
  rw [pieces, splitOn, if_pos separates]
  rfl

theorem pieces_cons (inside : p c = false) (cs : List α) :
    pieces p (c :: cs) = (c :: cs.takeWhile (! p ·)) :: pieces p (cs.dropWhile (! p ·)) := by
  induction cs generalizing c with
  | nil => simp [pieces, splitOn, inside]
  | cons d ds ih =>
      cases next : p d with
      | true => simp [pieces, splitOn, inside, next]
      | false =>
          have rest := ih next
          rw [pieces, splitOn, if_neg (by simp [next])] at rest
          rw [pieces, splitOn, if_neg (by simp [inside]), splitOn, if_neg (by simp [next])]
          cases split : splitOn p ds with
          | nil => exact absurd split (splitOn_ne_nil p ds)
          | cons first others =>
              simp only [split, List.filter_cons, List.isEmpty_cons, Bool.not_false, ↓reduceIte,
                List.cons.injEq, true_and] at rest
              simp [next, rest]

end Pieces

def fromWord (s : String) : List Char := s.toList.dropWhile isBlank

def firstWord (s : String) : String := String.ofList ((fromWord s).takeWhile (! isBlank ·))

def afterWord (s : String) : String := String.ofList ((fromWord s).dropWhile (! isBlank ·))

theorem pieces_dropWhile (cs : List Char) :
    pieces isBlank cs = pieces isBlank (cs.dropWhile isBlank) := by
  induction cs with
  | nil => rfl
  | cons c cs ih =>
      cases blank : isBlank c with
      | true => rw [pieces_cons_of_separator blank, ih, List.dropWhile_cons_of_pos blank]
      | false => rw [List.dropWhile_cons_of_neg (by simp [blank])]

theorem exists_fromWord_eq_cons {s : String} (written : allBlank s = false) :
    ∃ c cs, fromWord s = c :: cs ∧ isBlank c = false := by
  have starts : fromWord s ≠ [] := by
    rw [fromWord, ne_eq, List.dropWhile_eq_nil_iff, ← List.all_eq_true]
    exact Bool.eq_false_iff.mp written
  obtain ⟨c, cs, begins⟩ := List.exists_cons_of_ne_nil starts
  refine ⟨c, cs, begins, ?_⟩
  have first := List.head?_dropWhile_not isBlank s.toList
  rw [fromWord] at begins
  rwa [begins] at first

theorem words_eq_cons {s : String} (written : allBlank s = false) :
    words s = firstWord s :: words (afterWord s) := by
  have cut (t : String) : words t = (pieces isBlank t.toList).map String.ofList := rfl
  obtain ⟨c, cs, begins, letter⟩ := exists_fromWord_eq_cons written
  calc
    words s = (pieces isBlank (fromWord s)).map String.ofList := by
      rw [cut, pieces_dropWhile, fromWord]
    _ = firstWord s :: words (afterWord s) := by
      rw [cut, firstWord, afterWord, String.toList_ofList, begins, pieces_cons letter,
        List.map_cons]
      simp [letter]

theorem all_dropReturn (line : List Char) : (dropReturn line).all isBlank = line.all isBlank := by
  rw [dropReturn]
  split
  · next ends =>
      obtain ⟨front, rfl⟩ := List.getLast?_eq_some_iff.mp ends
      have blank : isBlank '\r' = true := by decide
      simp [blank]
  · rfl

theorem all_dropWhile (cs : List Char) : (cs.dropWhile isBlank).all isBlank = cs.all isBlank := by
  calc
    _ = (cs.takeWhile isBlank ++ cs.dropWhile isBlank).all isBlank := by
      rw [List.all_append, List.all_takeWhile, Bool.true_and]
    _ = cs.all isBlank := by rw [List.takeWhile_append_dropWhile]

theorem isEmpty_trim (cs : List Char) : (trim cs).isEmpty = cs.all isBlank := by
  rw [trim, List.isEmpty_reverse, Bool.eq_iff_iff, List.isEmpty_iff, List.dropWhile_eq_nil_iff,
    ← List.all_eq_true, List.all_reverse, all_dropWhile]

/-- A text has a line with something in it exactly where not all of it is white space: newlines are
white space themselves, and so are the carriage returns that go with them. -/
theorem any_lines (cs : List Char) :
    (lines cs).any (fun line => ! (trim line).isEmpty) = ! cs.all isBlank := by
  have whole : (splitOn (· == '\n') cs).any (fun line => ! line.all isBlank) =
      ! cs.all isBlank := by
    have newline : isBlank '\n' = true := by decide
    calc
      _ = ! (splitOn (· == '\n') cs).flatten.all isBlank := by
        rw [List.all_flatten, List.not_all_eq_any_not]
      _ = ! cs.all isBlank := by
        rw [flatten_splitOn, List.all_filter]
        congr 2
        funext c
        by_cases ends : c = '\n' <;> simp [ends, newline]
  simp only [isEmpty_trim]
  rw [← whole, lines]
  cases pieces : (splitOn (· == '\n') cs).reverse with
  | nil => exact absurd (List.reverse_eq_nil_iff.mp pieces) (splitOn_ne_nil _ cs)
  | cons last ended =>
      have split : splitOn (· == '\n') cs = ended.reverse ++ [last] := by
        rw [← List.reverse_reverse (splitOn _ cs), pieces, List.reverse_cons]
      rw [split]
      cases last with
      | nil => simp [List.any_map, Function.comp_def, all_dropReturn]
      | cons c rest => simp [List.any_map, Function.comp_def, all_dropReturn]

end ImageStock.Text
