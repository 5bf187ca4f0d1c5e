import ImageStock.Proofs.Result
import ImageStock.Proofs.Toml.Quoted
import ImageStock.Toml.Expression

/-! Values of one line. Main statements: a text and a whole number of 64 bits are read back from the
line that they are written on. -/

namespace ImageStock.Toml

theorem hexValue?_of_isDigit {c : Char} (digit : isDigit c = true) :
    Text.hexValue? c = some (c.toNat - '0'.toNat) := by
  rw [isDigit, Bool.and_eq_true, decide_eq_true_eq, decide_eq_true_eq] at digit
  rw [Text.hexValue?, if_pos digit]

theorem ne_of_isDigit {c d : Char} (digit : isDigit c = true) (other : isDigit d = false) :
    c ≠ d := by
  rintro rfl
  rw [digit] at other
  cases other

theorem isDigit_of_mem_toDigits {n : Nat} {c : Char} (member : c ∈ Nat.toDigits 10 n) :
    isDigit c = true := by
  have digit := Nat.isDigit_of_mem_toDigits (by decide) (by decide) member
  rw [Char.isDigit, Bool.and_eq_true, decide_eq_true_eq, decide_eq_true_eq] at digit
  rw [isDigit, Bool.and_eq_true, decide_eq_true_eq, decide_eq_true_eq]
  exact digit

theorem digitsValue_toDigits (n : Nat) : digitsValue 10 (Nat.toDigits 10 n) = n := by
  have same (digits : List Char) (init : Nat) (all : ∀ c ∈ digits, isDigit c = true) :
      digits.foldl (fun n c => 10 * n + (Text.hexValue? c).getD 0) init =
        Nat.ofDigitChars 10 digits init := by
    induction digits generalizing init with
    | nil => rfl
    | cons c digits ih =>
        rw [List.foldl_cons, Nat.ofDigitChars_cons, hexValue?_of_isDigit (all c (by simp))]
        exact ih _ fun d member => all d (List.mem_cons_of_mem c member)
  rw [digitsValue, same _ _ fun c member => isDigit_of_mem_toDigits member]
  exact Nat.ofDigitChars_ten_toDigits

theorem toDigits_cases (n : Nat) :
    Nat.toDigits 10 n = ['0'] ∨ ∃ c digits, Nat.toDigits 10 n = c :: digits ∧ c ≠ '0' := by
  by_cases zero : n = 0
  · exact .inl (zero ▸ Nat.toDigits_zero 10)
  · refine .inr ?_
    induction n using Nat.strongRecOn with
    | ind n ih =>
        rw [Nat.toDigits_eq_if (by decide)]
        by_cases small : n < 10
        · rw [if_pos small]
          refine ⟨_, [], rfl, ?_⟩
          rwa [ne_eq, Nat.digitChar_eq_zero]
        · rw [if_neg small]
          obtain ⟨c, digits, written, other⟩ := ih (n / 10) (by omega) (by omega)
          exact ⟨c, _, by rw [written, List.cons_append], other⟩

/-- A result that leaves room for other readings. -/
def Yields {α : Type} (r : Except Stop α) : Prop := ∃ s, r = .error s ∧ s.fatal = false

theorem Yields.label {α : Type} {r : Except Stop α} (weak : Yields r) (name : String) :
    Yields (label name r) := by
  obtain ⟨s, rfl, weak⟩ := weak
  exact ⟨_, rfl, weak⟩

theorem Yields.bind {α β : Type} {r : Except Stop α} (weak : Yields r)
    (next : α → Except Stop β) : Yields (r >>= next) := by
  obtain ⟨s, rfl, weak⟩ := weak
  exact ⟨s, rfl, weak⟩

section Line

variable {digits : List Char} (all : ∀ c ∈ digits, isDigit c = true) (rest : List Char)

include all in
theorem readMoreDigits_append :
    readMoreDigits isDigit (digits ++ '\n' :: rest) = .ok (digits, '\n' :: rest) := by
  induction digits with
  | nil => rfl
  | cons c digits ih =>
      have digit := all c (by simp)
      have read := ih fun d member => all d (List.mem_cons_of_mem c member)
      rw [List.cons_append, readMoreDigits.eq_def]
      split
      · next eq =>
          cases eq
          exact absurd digit (by decide)
      · next eq =>
          cases eq
          rw [if_pos digit, read]
          rfl
      · next eq => cases eq

include all in
/-- After some digits of a line there is a digit or the line end, and so no sign of a date. -/
theorem readField_then_char (count : Nat) (mark : Char) (other : isDigit mark = false)
    (feed : mark ≠ '\n') :
    Yields (readField count (digits ++ '\n' :: rest)) ∨
      ∃ n last, readField count (digits ++ '\n' :: rest) = .ok (n, last) ∧
        Yields (readChar mark last) := by
  rw [readField]
  split
  · next enough =>
      refine .inr ⟨_, _, rfl, ?_⟩
      have bound : count ≤ digits.length := by
        refine Nat.le_of_not_lt fun short => ?_
        obtain ⟨k, rfl⟩ : ∃ k, count = digits.length + (k + 1) :=
          ⟨count - digits.length - 1, by omega⟩
        rw [List.take_length_add_append, List.take_succ_cons, List.takeWhile_append_of_pos all,
          List.takeWhile_cons_of_neg (by decide), List.append_nil] at enough
        omega
      rw [List.drop_append_of_le_length bound]
      -- What comes after the field is another digit or the end of the line.
      cases left : digits.drop count with
      | nil =>
          rw [List.nil_append, readChar, if_neg feed.symm]
          exact ⟨_, rfl, rfl⟩
      | cons c more =>
          have digit : isDigit c = true :=
            all c (List.mem_of_mem_drop (left ▸ List.mem_cons_self))
          rw [List.cons_append, readChar, if_neg (ne_of_isDigit digit other)]
          exact ⟨_, rfl, rfl⟩
  · exact .inl ⟨_, rfl, rfl⟩

include all in
theorem readMoment_yields : Yields (readMoment (digits ++ '\n' :: rest)) := by
  have date : Yields (readDate (digits ++ '\n' :: rest)) := by
    rw [readDate]
    rcases readField_then_char all rest 4 '-' (by decide) (by decide) with
      weak | ⟨n, last, read, weak⟩
    · exact weak.bind _
    · rw [read]
      exact weak.bind _
  have time : Yields (readTime (digits ++ '\n' :: rest)) := by
    rw [readTime, readBetween]
    rcases readField_then_char all rest 2 ':' (by decide) (by decide) with
      weak | ⟨n, last, read, weak⟩
    · exact (weak.bind _).bind _
    · rw [read]
      by_cases hour : 0 ≤ n ∧ n ≤ 23
      · show Yields ((if 0 ≤ n ∧ n ≤ 23 then _ else _) >>= _)
        rw [if_pos hour]
        exact weak.bind _
      · show Yields ((if 0 ≤ n ∧ n ≤ 23 then _ else _) >>= _)
        rw [if_neg hour]
        exact ⟨_, rfl, rfl⟩
  obtain ⟨s, dated, weak⟩ : Yields (readDated (digits ++ '\n' :: rest)) :=
    (date.bind _).label "date-time"
  obtain ⟨s', timed, weak'⟩ := time.label "time"
  rw [readMoment, dated]
  simp only [weak, Bool.false_eq_true, ↓reduceIte, timed]
  exact ⟨s', rfl, weak'⟩

end Line

theorem readWhole_toDigits (n : Nat) (rest : List Char) :
    readWhole (Nat.toDigits 10 n ++ '\n' :: rest) = .ok (Nat.toDigits 10 n, '\n' :: rest) := by
  rcases toDigits_cases n with zero | ⟨c, digits, written, other⟩
  · rw [zero]
    rfl
  · have all (d : Char) (member : d ∈ c :: digits) : isDigit d = true :=
      isDigit_of_mem_toDigits (written ▸ member)
    have more := readMoreDigits_append (fun d member => all d (List.mem_cons_of_mem c member)) rest
    rw [written, List.cons_append, readWhole]
    · rw [readDigits, if_pos (all c (by simp)), more]
      rfl
    · intro last eq
      exact other (List.cons.inj eq).1

theorem signedInteger_toDigits {n : Nat} (small : n < 0x8000000000000000) (cs : List Char) :
    signedInteger false 10 (Nat.toDigits 10 n) cs = .ok n := by
  have low : ¬ (n : Int) < -0x8000000000000000 := by omega
  have high : ¬ (0x8000000000000000 : Int) ≤ n := by omega
  simp only [signedInteger, digitsValue_toDigits, Bool.false_eq_true, ↓reduceIte, if_neg low,
    if_neg high]

theorem dropSign_digit {c : Char} (digit : isDigit c = true) (cs : List Char) :
    dropSign (c :: cs) = (false, c :: cs) := by
  rw [dropSign.eq_def]
  split
  · next eq => exact absurd (List.cons.inj eq).1 (ne_of_isDigit digit rfl)
  · next eq => exact absurd (List.cons.inj eq).1 (ne_of_isDigit digit rfl)
  · rfl

theorem readDecimal_toDigits {n : Nat} (small : n < 0x8000000000000000) (rest : List Char) :
    readDecimal (Nat.toDigits 10 n ++ '\n' :: rest) = .ok (.integer n, '\n' :: rest) := by
  have whole := readWhole_toDigits n rest
  have value := signedInteger_toDigits small (Nat.toDigits 10 n ++ '\n' :: rest)
  have unsigned : dropSign (Nat.toDigits 10 n ++ '\n' :: rest) =
      (false, Nat.toDigits 10 n ++ '\n' :: rest) := by
    cases written : Nat.toDigits 10 n with
    | nil => exact absurd written Nat.toDigits_ne_nil
    | cons c digits =>
        exact dropSign_digit (isDigit_of_mem_toDigits (written ▸ List.mem_cons_self)) _
  simp only [readDecimal, unsigned, whole, ok_bind, value]
  rfl

theorem readNumeral_toDigits {n : Nat} (small : n < 0x8000000000000000) (rest : List Char) :
    readNumeral (Nat.toDigits 10 n ++ '\n' :: rest) = .ok (.integer n, '\n' :: rest) := by
  have decimal := readDecimal_toDigits small rest
  rcases toDigits_cases n with zero | ⟨c, digits, written, other⟩
  · rw [zero] at decimal ⊢
    exact decimal
  · rw [written] at decimal ⊢
    have digit : isDigit c = true := isDigit_of_mem_toDigits (written ▸ List.mem_cons_self)
    rw [List.cons_append] at decimal ⊢
    rw [readNumeral]
    · simp only [dropSign_digit digit]
      split
      · next eq => exact absurd (List.cons.inj eq).1 (ne_of_isDigit digit rfl)
      · next eq => exact absurd (List.cons.inj eq).1 (ne_of_isDigit digit rfl)
      · exact decimal
    all_goals
      intro last eq
      exact other (List.cons.inj eq).1

theorem readScalar_toDigits {n : Nat} (small : n < 0x8000000000000000) (rest : List Char) :
    readScalar (Nat.toDigits 10 n ++ '\n' :: rest) = .ok (.integer n, '\n' :: rest) := by
  have number := readNumeral_toDigits small rest
  obtain ⟨s, moment, weak⟩ :=
    readMoment_yields (fun c member => isDigit_of_mem_toDigits (n := n) member) rest
  cases written : Nat.toDigits 10 n with
  | nil => exact absurd written Nat.toDigits_ne_nil
  | cons c digits =>
      have digit : isDigit c = true := isDigit_of_mem_toDigits (written ▸ List.mem_cons_self)
      have notQuote : (c == '"' || c == '\'') = false := by
        rw [beq_eq_false_iff_ne.mpr (ne_of_isDigit digit rfl),
          beq_eq_false_iff_ne.mpr (ne_of_isDigit digit rfl), Bool.or_false]
      rw [written, List.cons_append] at number moment
      rw [List.cons_append, readScalar]
      simp only [notQuote, digit, Bool.or_true, ↓reduceIte, Bool.false_eq_true, moment, weak,
        number]
      rfl

theorem writeText_start (cs : List Char) :
    ∃ c more, writeText cs = c :: more ∧ (c = '"' ∨ c = '\'') := by
  rw [writeText]
  split
  · exact ⟨_, _, rfl, .inl rfl⟩
  · exact ⟨_, _, rfl, .inr rfl⟩
  · exact ⟨_, _, rfl, .inl rfl⟩
  · exact ⟨_, _, rfl, .inr rfl⟩

theorem readScalar_writeText (cs rest : List Char) :
    readScalar (writeText cs ++ '\n' :: rest) = .ok (.text (String.ofList cs), '\n' :: rest) := by
  have text := readText_writeText cs rest
  obtain ⟨c, more, written, quote⟩ := writeText_start cs
  have quoted : (c == '"' || c == '\'') = true := by
    rw [Bool.or_eq_true, beq_iff_eq, beq_iff_eq]
    exact quote
  rw [written, List.cons_append] at text ⊢
  rw [readScalar]
  simp only [quoted, ↓reduceIte, text]
  rfl

/-- What is written for a scalar is read as this scalar up to the end of its line. -/
structure Writes (s : Scalar) (written : List Char) : Prop where
  start : ∃ c more, written = c :: more ∧ isSpace c = false ∧ c ≠ '[' ∧ c ≠ '\x7b'
  read : ∀ rest, readScalar (written ++ '\n' :: rest) = .ok (s, '\n' :: rest)

theorem writes_integer {n : Nat} (small : n < 0x8000000000000000) :
    Writes (.integer n) (Nat.toDigits 10 n) where
  start := by
    cases written : Nat.toDigits 10 n with
    | nil => exact absurd written Nat.toDigits_ne_nil
    | cons c digits =>
        have digit : isDigit c = true := isDigit_of_mem_toDigits (written ▸ List.mem_cons_self)
        refine ⟨c, digits, rfl, ?_, ne_of_isDigit digit rfl, ne_of_isDigit digit rfl⟩
        rw [isSpace, beq_eq_false_iff_ne.mpr (ne_of_isDigit digit rfl),
          beq_eq_false_iff_ne.mpr (ne_of_isDigit digit rfl), Bool.or_false]
  read := readScalar_toDigits small

theorem writes_text (s : String) : Writes (.text s) (writeText s.toList) where
  start := by
    obtain ⟨c, more, written, rfl | rfl⟩ := writeText_start s.toList
    · exact ⟨_, more, written, rfl, by decide, by decide⟩
    · exact ⟨_, more, written, rfl, by decide, by decide⟩
  read := by
    intro rest
    have read := readScalar_writeText s.toList rest
    rwa [String.ofList_toList] at read

theorem readValue_written {s : Scalar} {written : List Char} (writes : Writes s written)
    (depth : Nat) (rest : List Char) :
    ∃ span, readValue depth (written ++ '\n' :: rest) = .ok (.scalar s span, '\n' :: rest) := by
  have read := writes.read rest
  obtain ⟨c, more, rfl, -, array, braces⟩ := writes.start
  rw [List.cons_append] at read ⊢
  refine ⟨⟨(c :: (more ++ '\n' :: rest)).length, ('\n' :: rest).length⟩, ?_⟩
  cases depth with
  | zero =>
      rw [readValue]
      · rw [read]
        rfl
      · intro last eq
        exact array (List.cons.inj eq).1
      · intro last eq
        exact braces (List.cons.inj eq).1
  | succ depth =>
      rw [readValue]
      · rw [read]
        rfl
      · intro last eq
        exact array (List.cons.inj eq).1
      · intro last eq
        exact braces (List.cons.inj eq).1

end ImageStock.Toml
