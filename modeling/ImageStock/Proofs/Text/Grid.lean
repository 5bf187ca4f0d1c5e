import Mathlib.Data.List.TakeWhile
import ImageStock.Proofs.Text.Blank
import ImageStock.Text.Grid

/-! Tables read back. Main statement: the last column of a drawn table shows its words, one for each
row and in their order, whatever stands in the columns before it. -/

namespace ImageStock.Text.Grid

/-- The letters of a line that stand behind its last inner border. -/
def lastLetters (line : List Char) : List Char :=
  (line.reverse.takeWhile (· != '┆')).reverse.filter Char.isAlpha

def lastColumn (text : List Char) : List (List Char) :=
  ((splitOn (· == '\n') text).map lastLetters).filter (! ·.isEmpty)

theorem lastColumn_append {line : List Char} (plain : '\n' ∉ line) (rest : List Char) :
    lastColumn (line ++ '\n' :: rest) =
      [lastLetters line].filter (! ·.isEmpty) ++ lastColumn rest := by
  have whole : splitOn (· == '\n') line = [line] := by
    apply splitOn_of_inside
    intro c member
    exact beq_eq_false_iff_ne.mpr fun same => plain (same ▸ member)
  rw [lastColumn, splitOn_append_separator (by rfl), whole, List.map_append, List.filter_append]
  rfl

theorem lastLetters_eq_nil {line : List Char} (drawn : ∀ c ∈ line, c.isAlpha = false) :
    lastLetters line = [] := by
  rw [lastLetters, List.filter_eq_nil_iff]
  intro c member
  have inside := List.takeWhile_subset _ (List.mem_reverse.mp member)
  simp [drawn c (List.mem_reverse.mp inside)]

theorem lastLetters_append {last : List Char} (plain : '┆' ∉ last) (front : List Char) :
    lastLetters (front ++ '┆' :: last) = last.filter Char.isAlpha := by
  have passed : ∀ c ∈ last.reverse, (c != '┆') = true := by
    intro c member
    exact bne_iff_ne.mpr fun same => plain (same ▸ List.mem_reverse.mp member)
  rw [lastLetters, List.reverse_append, List.reverse_cons, List.append_assoc,
    List.takeWhile_append_of_pos passed]
  simp

theorem forall_mem_intercalate {P : Char → Prop} {between : Char} {pieces : List (List Char)}
    (border : P between) (each : ∀ piece ∈ pieces, ∀ c ∈ piece, P c) :
    ∀ c ∈ List.intercalate [between] pieces, P c := by
  induction pieces with
  | nil => simp
  | cons piece pieces ih =>
      have rest := ih fun other member => each other (List.mem_cons_of_mem _ member)
      intro c member
      cases pieces with
      | nil => exact each piece (by simp) c (by simpa using member)
      | cons next pieces =>
          rw [List.intercalate_cons_cons, List.mem_append, List.mem_append] at member
          rcases member with (own | sep) | later
          · exact each piece (by simp) c own
          · rwa [List.mem_singleton.mp sep]
          · exact rest c later

theorem lastColumn_drawRule {r : Rule} (drawn : r ∈ [top, underHeader, betweenRows, bottom])
    (widths : List Nat) (rest : List Char) :
    lastColumn (drawRule r widths ++ rest) = lastColumn rest := by
  have plain :
      ([r.left, r.along, r.between, r.right].all fun c => !c.isAlpha && c != '\n') = true := by
    revert r
    decide
  have signs : ∀ c ∈ [r.left, r.along, r.between, r.right], c.isAlpha = false ∧ c ≠ '\n' := by
    intro c member
    simpa using List.all_eq_true.mp plain c member
  have line : ∀ c ∈ r.left :: List.intercalate [r.between]
      (widths.map fun w => List.replicate (w + 2) r.along) ++ [r.right],
      c.isAlpha = false ∧ c ≠ '\n' := by
    intro c member
    rw [List.mem_append, List.mem_cons, List.mem_singleton] at member
    rcases member with (rfl | inside) | rfl
    · exact signs _ (by simp)
    · apply forall_mem_intercalate (P := fun c => c.isAlpha = false ∧ c ≠ '\n')
        (signs r.between (by simp)) _ c inside
      intro piece among d inside
      obtain ⟨w, -, rfl⟩ := List.mem_map.mp among
      rw [List.eq_of_mem_replicate inside]
      exact signs _ (by simp)
    · exact signs _ (by simp)
  have split : drawRule r widths ++ rest = (r.left :: List.intercalate [r.between]
      (widths.map fun w => List.replicate (w + 2) r.along) ++ [r.right]) ++ '\n' :: rest := by
    simp [drawRule, enclose]
  rw [split, lastColumn_append fun broken => (line _ broken).2 rfl,
    lastLetters_eq_nil fun c member => (line c member).1]
  rfl

def Unbroken (x : Cell) : Prop := ∀ line ∈ x, '\n' ∉ line

theorem unbroken_cell (s : String) : Unbroken (cell s) := by
  intro line member inside
  have there : '\n' ∈ (cell s).flatten := List.mem_flatten.mpr ⟨line, member, inside⟩
  rw [cell, flatten_splitOn] at there
  simp at there

theorem Unbroken.getD {x : Cell} (unbroken : Unbroken x) (i : Nat) : '\n' ∉ x.getD i [] := by
  rw [List.getD_eq_getElem?_getD]
  cases found : x[i]? with
  | none => simp
  | some line => exact unbroken line (List.mem_of_getElem? found)

theorem drawCellLine_plain {line : List Char} (plain : '\n' ∉ line) (columns : Nat) :
    '\n' ∉ drawCellLine line columns := by
  simp [drawCellLine, plain, List.mem_replicate]

theorem lastColumn_rowLine {a b c : List Char} (first : '\n' ∉ a) (second : '\n' ∉ b)
    (letters : ∀ l ∈ c, l.isAlpha = true) (u v w : Nat) (rest : List Char) :
    lastColumn
        (enclose '│' '┆' '│' [drawCellLine a u, drawCellLine b v, drawCellLine c w] ++ rest) =
      [c].filter (! ·.isEmpty) ++ lastColumn rest := by
  have third : '\n' ∉ c := fun inside => absurd (letters _ inside) (by decide)
  have border : '┆' ∉ c := fun inside => absurd (letters _ inside) (by decide)
  have split : enclose '│' '┆' '│' [drawCellLine a u, drawCellLine b v, drawCellLine c w] ++ rest =
      (('│' :: drawCellLine a u ++ '┆' :: drawCellLine b v) ++
        '┆' :: (drawCellLine c w ++ ['│'])) ++ '\n' :: rest := by
    simp [enclose, List.intercalate]
  have plain : '\n' ∉ ('│' :: drawCellLine a u ++ '┆' :: drawCellLine b v) ++
      '┆' :: (drawCellLine c w ++ ['│']) := by
    simp [drawCellLine_plain first, drawCellLine_plain second, drawCellLine_plain third]
  have behind : '┆' ∉ drawCellLine c w ++ ['│'] := by
    simp [drawCellLine, border, List.mem_replicate]
  have kept : (drawCellLine c w ++ ['│']).filter Char.isAlpha = c := by
    simp [drawCellLine, List.filter_eq_self.mpr letters]
  rw [split, lastColumn_append plain, lastLetters_append behind, kept]

theorem lastColumn_drawRow {x y : Cell} {word : List Char} (first : Unbroken x)
    (second : Unbroken y) (letters : ∀ l ∈ word, l.isAlpha = true) (given : word ≠ []) (u v w : Nat)
    (rest : List Char) :
    lastColumn (drawRow [u, v, w] [x, y, [word]] ++ rest) = word :: lastColumn rest := by
  let line (i : Nat) := enclose '│' '┆' '│'
    [drawCellLine (x.getD i []) u, drawCellLine (y.getD i []) v, drawCellLine ([word].getD i []) w]
  obtain ⟨k, height⟩ : ∃ k, max (max (max 0 x.length) y.length) 1 = k + 1 :=
    ⟨max (max (max 0 x.length) y.length) 1 - 1, by omega⟩
  have drawn : drawRow [u, v, w] [x, y, [word]] =
      line 0 ++ (List.range k).flatMap fun i => line (i + 1) := by
    have lines : drawRow [u, v, w] [x, y, [word]] = (List.range (k + 1)).flatMap line := by
      rw [← height]
      rfl
    rw [lines, List.range_succ_eq_map, List.flatMap_cons, List.flatMap_map]
  have later (is : List Nat) :
      lastColumn ((is.flatMap fun i => line (i + 1)) ++ rest) = lastColumn rest := by
    induction is with
    | nil => rfl
    | cons i is ih =>
        rw [List.flatMap_cons, List.append_assoc,
          lastColumn_rowLine (first.getD _) (second.getD _) (by simp), ih]
        simp
  have start := lastColumn_rowLine (first.getD 0) (second.getD 0) letters u v w
  rw [drawn, List.append_assoc, show lastColumn (line 0 ++ _) = _ from start _, later]
  simp [given]

structure IsMark (s : String) : Prop where
  given : s.toList ≠ []
  letters : ∀ c ∈ s.toList, c.isAlpha = true

theorem IsMark.cell_eq {s : String} (mark : IsMark s) : cell s = [s.toList] := by
  apply splitOn_of_inside
  intro c member
  exact beq_eq_false_iff_ne.mpr fun same =>
    absurd (mark.letters c member) (by rw [same]; decide)

def triple (row : String × String × String) : Row := [row.1, row.2.1, row.2.2].map cell

theorem lastColumn_triple {row : String × String × String} (mark : IsMark row.2.2) (u v w : Nat)
    (rest : List Char) :
    lastColumn (drawRow [u, v, w] (triple row) ++ rest) =
      row.2.2.toList :: lastColumn rest := by
  have cells : triple row = [cell row.1, cell row.2.1, [row.2.2.toList]] := by
    rw [triple, ← mark.cell_eq]
    rfl
  rw [cells]
  exact lastColumn_drawRow (unbroken_cell _) (unbroken_cell _) mark.letters mark.given u v w rest

theorem lastColumn_body {rows : List (String × String × String)}
    (marks : ∀ row ∈ rows, IsMark row.2.2) (u v w : Nat) (rest : List Char) :
    lastColumn ((((rows.map triple).map (drawRow [u, v, w])).intersperse
        (drawRule betweenRows [u, v, w])).flatten ++ rest) =
      rows.map (·.2.2.toList) ++ lastColumn rest := by
  induction rows with
  | nil => rfl
  | cons row rows ih =>
      have own := lastColumn_triple (marks row (by simp)) u v w
      have others := ih fun other member => marks other (List.mem_cons_of_mem _ member)
      cases rows with
      | nil => simpa using own rest
      | cons next rows =>
          simp only [List.map_cons, List.intersperse_cons_cons, List.flatten_cons,
            List.append_assoc] at others ⊢
          rw [own, lastColumn_drawRule (by simp), others]
          rfl

/-- The last column of a table. -/
theorem lastColumn_draw {head : String × String × String} {rows : List (String × String × String)}
    (title : IsMark head.2.2) (marks : ∀ row ∈ rows, IsMark row.2.2) :
    lastColumn (draw (triple head) (rows.map triple)) =
      head.2.2.toList :: rows.map (·.2.2.toList) := by
  obtain ⟨u, v, w, widths⟩ : ∃ u v w,
      columnWidths (triple head).length (triple head :: rows.map triple) = [u, v, w] :=
    ⟨_, _, _, rfl⟩
  have ends : lastColumn (drawRule bottom [u, v, w]) = [] := by
    have drawn := lastColumn_drawRule (r := bottom) (by simp) [u, v, w] []
    rwa [List.append_nil] at drawn
  rw [draw, widths]
  simp only [List.append_assoc]
  rw [lastColumn_drawRule (by simp), lastColumn_triple title, lastColumn_drawRule (by simp),
    lastColumn_body marks, ends, List.append_nil]

end ImageStock.Text.Grid
