import ImageStock.Proofs.Text.Blank

/-! Texts laid out in words. Main statements: the words of such a text are those that it is laid out
in, whatever white space stands between and around them, and every text that is not all white space
is laid out in words. -/

namespace ImageStock.Text

def IsWord (s : String) : Prop := s ≠ "" ∧ ∀ c ∈ s.toList, isBlank c = false

def IsGap (s : String) : Prop := s ≠ "" ∧ allBlank s = true

def joinLater (later : List (String × String)) : String :=
  String.join (later.map fun entry => entry.1 ++ entry.2)

/-- A text of one word or more: there is a gap between two of them, and there may be white space
around them all. -/
structure Layout where
  front : String
  first : String
  /-- Each word after the first, with the gap before it. -/
  later : List (String × String)
  back : String
  front_blank : allBlank front = true
  first_word : IsWord first
  later_apart : ∀ entry ∈ later, IsGap entry.1 ∧ IsWord entry.2
  back_blank : allBlank back = true

namespace Layout

def text (l : Layout) : String := l.front ++ l.first ++ joinLater l.later ++ l.back

def words (l : Layout) : List String := l.first :: l.later.map Prod.snd

end Layout

theorem isBlank_of_mem {s : String} (blank : allBlank s = true) {c : Char} (member : c ∈ s.toList) :
    isBlank c = true := by
  rw [allBlank, List.all_eq_true] at blank
  exact blank c member

section Pieces

variable {α : Type} {p : α → Bool} {cs : List α}

theorem pieces_append_of_separators {gap : List α} (separates : ∀ c ∈ gap, p c = true)
    (cs : List α) : pieces p (gap ++ cs) = pieces p cs := by
  induction gap with
  | nil => rfl
  | cons c gap ih =>
      have rest := ih fun d member => separates d (List.mem_cons_of_mem _ member)
      rw [List.cons_append, pieces_cons_of_separator (separates c List.mem_cons_self), rest]

theorem pieces_append_of_inside {word : List α} (nonempty : word ≠ [])
    (inside : ∀ c ∈ word, p c = false) (ends : ∀ c, cs.head? = some c → p c = true) :
    pieces p (word ++ cs) = word :: pieces p cs := by
  obtain ⟨c, rest, rfl⟩ := List.exists_cons_of_ne_nil nonempty
  have goesOn : ∀ d ∈ rest, (! p d) = true := by
    intro d member
    rw [inside d (List.mem_cons_of_mem _ member)]
    rfl
  have stops : cs.takeWhile (! p ·) = [] ∧ cs.dropWhile (! p ·) = cs := by
    cases cs with
    | nil => exact ⟨rfl, rfl⟩
    | cons d ds => simp [ends d rfl]
  rw [List.cons_append, pieces_cons (inside c List.mem_cons_self),
    List.takeWhile_append_of_pos goesOn, List.dropWhile_append_of_pos goesOn, stops.1, stops.2,
    List.append_nil]

end Pieces

theorem toList_joinLater_nil (back : String) : (joinLater [] ++ back).toList = back.toList := by
  simp [joinLater]

theorem toList_joinLater_cons (entry : String × String) (later : List (String × String))
    (back : String) : (joinLater (entry :: later) ++ back).toList =
      entry.1.toList ++ (entry.2.toList ++ (joinLater later ++ back).toList) := by
  simp [joinLater]

section Later

variable {later : List (String × String)} {back : String}

theorem head?_later (apart : ∀ entry ∈ later, IsGap entry.1 ∧ IsWord entry.2)
    (blank : allBlank back = true) {c : Char}
    (starts : (joinLater later ++ back).toList.head? = some c) : isBlank c = true := by
  cases later with
  | nil =>
      rw [toList_joinLater_nil] at starts
      exact isBlank_of_mem blank (List.mem_of_mem_head? starts)
  | cons entry later =>
      obtain ⟨⟨nonempty, gap⟩, -⟩ := apart entry List.mem_cons_self
      obtain ⟨d, ds, begins⟩ := List.exists_cons_of_ne_nil (mt String.toList_eq_nil_iff.mp nonempty)
      rw [toList_joinLater_cons, begins, List.cons_append, List.head?_cons] at starts
      cases starts
      exact isBlank_of_mem gap (by simp [begins])

theorem pieces_later (apart : ∀ entry ∈ later, IsGap entry.1 ∧ IsWord entry.2)
    (blank : allBlank back = true) :
    pieces isBlank (joinLater later ++ back).toList = later.map (·.2.toList) := by
  induction later with
  | nil =>
      rw [toList_joinLater_nil, ← List.append_nil back.toList,
        pieces_append_of_separators fun c => isBlank_of_mem blank]
      rfl
  | cons entry later ih =>
      have rest : ∀ other ∈ later, IsGap other.1 ∧ IsWord other.2 :=
        fun other member => apart other (List.mem_cons_of_mem _ member)
      obtain ⟨⟨-, gap⟩, nonempty, word⟩ := apart entry List.mem_cons_self
      rw [toList_joinLater_cons, pieces_append_of_separators fun c => isBlank_of_mem gap,
        pieces_append_of_inside (mt String.toList_eq_nil_iff.mp nonempty) word
          fun c => head?_later rest blank, ih rest, List.map_cons]

end Later

/-- The words of a text are those that it is laid out in. -/
theorem words_text (l : Layout) : Text.words l.text = l.words := by
  obtain ⟨nonempty, inside⟩ := l.first_word
  have split : l.text.toList =
      l.front.toList ++ (l.first.toList ++ (joinLater l.later ++ l.back).toList) := by
    simp [Layout.text]
  calc
    Text.words l.text = (pieces isBlank l.text.toList).map String.ofList := rfl
    _ = (l.first.toList :: l.later.map (·.2.toList)).map String.ofList := by
      rw [split, pieces_append_of_separators fun c => isBlank_of_mem l.front_blank,
        pieces_append_of_inside (mt String.toList_eq_nil_iff.mp nonempty) inside
          fun c => head?_later l.later_apart l.back_blank,
        pieces_later l.later_apart l.back_blank]
    _ = l.words := by
      simp [Layout.words, Function.comp_def]

def leadingBlank (s : String) : String := String.ofList (s.toList.takeWhile isBlank)

variable {s : String}

theorem allBlank_leadingBlank (s : String) : allBlank (leadingBlank s) = true := by
  rw [allBlank, leadingBlank, String.toList_ofList, List.all_eq_true]
  exact fun c => List.mem_takeWhile_imp

theorem isWord_firstWord (written : allBlank s = false) : IsWord (firstWord s) := by
  obtain ⟨c, cs, begins, letter⟩ := exists_fromWord_eq_cons written
  constructor
  · rw [ne_eq, ← String.toList_eq_nil_iff, firstWord, String.toList_ofList, begins]
    simp [letter]
  · intro d member
    rw [firstWord, String.toList_ofList] at member
    simpa using List.mem_takeWhile_imp member

theorem leadingBlank_append (s : String) : leadingBlank s ++ firstWord s ++ afterWord s = s := by
  rw [← String.toList_inj]
  simp [leadingBlank, firstWord, afterWord, fromWord]

theorem head?_afterWord {c : Char} (starts : (afterWord s).toList.head? = some c) :
    isBlank c = true := by
  rw [afterWord, String.toList_ofList] at starts
  have first := List.head?_dropWhile_not (! isBlank ·) (fromWord s)
  rw [starts] at first
  simpa using first

theorem exists_later (starts : ∀ c, s.toList.head? = some c → isBlank c = true) :
    ∃ later back, s = joinLater later ++ back ∧
      (∀ entry ∈ later, IsGap entry.1 ∧ IsWord entry.2) ∧ allBlank back = true := by
  induction spelled : Text.words s generalizing s with
  | nil => exact ⟨[], s, by simp [joinLater], by simp, (words_eq_nil_iff s).mp spelled⟩
  | cons word others ih =>
      have written : allBlank s = false := by
        rw [← Bool.not_eq_true, ← words_eq_nil_iff, spelled]
        exact List.cons_ne_nil word others
      rw [words_eq_cons written] at spelled
      obtain ⟨-, rest⟩ := List.cons.inj spelled
      obtain ⟨later, back, split, apart, blank⟩ := ih (fun c => head?_afterWord) rest
      have gap : IsGap (leadingBlank s) := by
        refine ⟨?_, allBlank_leadingBlank s⟩
        rw [ne_eq, ← String.toList_eq_nil_iff, leadingBlank, String.toList_ofList]
        cases spelled : s.toList with
        | nil => simp [allBlank, spelled] at written
        | cons c cs => simp [starts c (by simp [spelled])]
      refine ⟨(leadingBlank s, firstWord s) :: later, back, ?_, ?_, blank⟩
      · calc
          s = leadingBlank s ++ firstWord s ++ afterWord s := (leadingBlank_append s).symm
          _ = leadingBlank s ++ firstWord s ++ (joinLater later ++ back) := by rw [← split]
          _ = joinLater ((leadingBlank s, firstWord s) :: later) ++ back := by
            rw [← String.toList_inj, toList_joinLater_cons]
            simp
      · exact List.forall_mem_cons.mpr ⟨⟨gap, isWord_firstWord written⟩, apart⟩

theorem exists_layout (written : allBlank s = false) : ∃ l : Layout, l.text = s := by
  obtain ⟨later, back, split, apart, blank⟩ :=
    exists_later (s := afterWord s) fun c => head?_afterWord
  refine ⟨⟨leadingBlank s, firstWord s, later, back, allBlank_leadingBlank s,
    isWord_firstWord written, apart, blank⟩, ?_⟩
  calc
    leadingBlank s ++ firstWord s ++ joinLater later ++ back =
        leadingBlank s ++ firstWord s ++ (joinLater later ++ back) := String.append_assoc
    _ = leadingBlank s ++ firstWord s ++ afterWord s := by rw [← split]
    _ = s := leadingBlank_append s

end ImageStock.Text
