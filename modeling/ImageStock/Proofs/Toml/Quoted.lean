import ImageStock.Toml.Printer
import ImageStock.Toml.Quote

/-! Texts as they are written and as they are read again. Main statement: whatever form a text is
written in, at the end of its line it is read as the same text. -/

namespace ImageStock.Toml

theorem hexUpper_digits : ∀ n < 128, n.isValidChar ∧ (Text.hexUpper 4 n).length = 4 ∧
    ((Text.hexUpper 4 n).mapM Text.hexValue?).map
      (fun digits => (digits.length, digits.foldl (16 * · + ·) 0)) = some (4, n) := by
  decide

theorem readHex_hexUpper {n : Nat} (small : n < 128) (rest : List Char) :
    readHex 4 (Text.hexUpper 4 n ++ rest) = .ok (Char.ofNat n) := by
  obtain ⟨valid, four, value⟩ := hexUpper_digits n small
  obtain ⟨digits, found, measured⟩ := Option.map_eq_some_iff.mp value
  obtain ⟨count, fold⟩ := Prod.mk.inj measured
  have front : (Text.hexUpper 4 n ++ rest).take 4 = Text.hexUpper 4 n := by
    rw [List.take_append_of_le_length (Nat.le_of_eq four.symm),
      List.take_of_length_le (Nat.le_of_eq four)]
  simp only [readHex, front, found, count, fold, valid, Nat.lt_irrefl, ↓reduceIte]

theorem lt_of_needsEscape {c : Char} (control : needsEscape c = true) : c.toNat < 128 := by
  rw [needsEscape, Bool.or_eq_true, Bool.and_eq_true, Bool.and_eq_true, decide_eq_true_eq,
    beq_iff_eq] at control
  rcases control with ⟨⟨low, -⟩, -⟩ | rfl
  · have bound : c.toNat < ' '.toNat := low
    exact Nat.lt_trans bound (by decide)
  · decide

theorem isLineChar_of_not_needsEscape {c : Char} (visible : needsEscape c = false)
    (line : c ≠ '\n') : isLineChar c = true := by
  by_cases tab : c = '\t'
  · subst tab
    rfl
  · have notLow : ¬ c < ' ' := by
      intro low
      simp [needsEscape, low, tab, line] at visible
    have notDelete : c ≠ '\x7f' := by
      rintro rfl
      revert visible
      decide
    simp [isLineChar, Char.not_lt.mp notLow, notDelete]

theorem isBasicChar_of {c : Char} (visible : needsEscape c = false) (line : c ≠ '\n')
    (quote : c ≠ '"') (backslash : c ≠ '\\') : isBasicChar c = true := by
  simp [isBasicChar, isLineChar_of_not_needsEscape visible line, quote, backslash]

theorem isLiteralChar_of {c : Char} (visible : needsEscape c = false) (line : c ≠ '\n')
    (quote : c ≠ '\'') : isLiteralChar c = true := by
  simp [isLiteralChar, isLineChar_of_not_needsEscape visible line, quote]

/-- What is written for a character after a backslash is read as that character, and neither a
space nor a line end comes right after the backslash. -/
structure Escapes (c : Char) (code : List Char) : Prop where
  start : ∃ d ds, code = d :: ds ∧ isSpace d = false ∧ d ≠ '\n' ∧ d ≠ '\r'
  read : ∀ rest, readEscape (code ++ rest) = .ok (c, code.length)

theorem escapes_hex {c : Char} (control : needsEscape c = true) :
    Escapes c ('u' :: Text.hexUpper 4 c.toNat) where
  start := ⟨'u', _, rfl, rfl, by decide, by decide⟩
  read := by
    intro rest
    have small := lt_of_needsEscape control
    rw [List.cons_append, readEscape, readHex_hexUpper small, Char.ofNat_toNat,
      List.length_cons, (hexUpper_digits _ small).2.1]
    rfl

theorem escapes_single {c d : Char} (space : isSpace d = false) (feed : d ≠ '\n')
    (carriage : d ≠ '\r') (read : ∀ rest, readEscape (d :: rest) = .ok (c, 1)) :
    Escapes c [d] :=
  ⟨⟨d, [], rfl, space, feed, carriage⟩, read⟩

theorem escapeChar_cases (block : Bool) (quotes : Nat) (c : Char) :
    (∃ code, escapeChar block quotes c = '\\' :: code ∧ Escapes c code) ∨
      escapeChar block quotes c = [c] ∧
        (isBasicChar c = true ∨ block = true ∧ (c = '\n' ∨ c = '"' ∧ quotes < 2)) := by
  unfold escapeChar
  split
  · exact .inl ⟨_, rfl, escapes_single rfl (by decide) (by decide) fun _ => rfl⟩
  · exact .inl ⟨_, rfl, escapes_single rfl (by decide) (by decide) fun _ => rfl⟩
  · cases block with
    | false => exact .inl ⟨_, rfl, escapes_single rfl (by decide) (by decide) fun _ => rfl⟩
    | true => exact .inr ⟨rfl, .inr ⟨rfl, .inl rfl⟩⟩
  · exact .inl ⟨_, rfl, escapes_single rfl (by decide) (by decide) fun _ => rfl⟩
  · exact .inl ⟨_, rfl, escapes_single rfl (by decide) (by decide) fun _ => rfl⟩
  · exact .inl ⟨_, rfl, escapes_single rfl (by decide) (by decide) fun _ => rfl⟩
  · by_cases few : quotes < if block then 2 else 0
    · rw [if_pos few]
      cases block with
      | false => exact absurd few (Nat.not_lt_zero _)
      | true => exact .inr ⟨rfl, .inr ⟨rfl, .inr ⟨rfl, few⟩⟩⟩
    · rw [if_neg few]
      exact .inl ⟨_, rfl, escapes_single rfl (by decide) (by decide) fun _ => rfl⟩
  · next feed _ _ backslash quote =>
      cases control : needsEscape c with
      | true => exact .inl ⟨_, rfl, escapes_hex control⟩
      | false => exact .inr ⟨rfl, .inl (isBasicChar_of control feed quote backslash)⟩

theorem readBasic_char {c : Char} {rest text last : List Char} (plain : isBasicChar c = true)
    (read : readBasic rest = .ok (text, last)) :
    readBasic (c :: rest) = .ok (c :: text, last) := by
  rw [readBasic.eq_def]
  split
  · next eq =>
      cases eq
      simp [isBasicChar] at plain
  · next eq =>
      cases eq
      simp [isBasicChar] at plain
  · next eq =>
      cases eq
      rw [if_pos plain, read]
      rfl
  · next eq => cases eq

theorem readBasic_escape {c : Char} {code rest text last : List Char} (escapes : Escapes c code)
    (read : readBasic rest = .ok (text, last)) :
    readBasic ('\\' :: (code ++ rest)) = .ok (c :: text, last) := by
  have escape := escapes.read rest
  obtain ⟨d, ds, rfl, -⟩ := escapes.start
  rw [List.cons_append] at escape ⊢
  rw [readBasic, escape]
  show (readBasic (List.drop ds.length (ds ++ rest)) >>= _) = _
  rw [List.drop_left, read]
  rfl

theorem readBasic_escapeAll (cs : List Char) (quotes : Nat) (rest : List Char) :
    readBasic (escapeAll false quotes cs ++ '"' :: rest) = .ok (cs, rest) := by
  induction cs generalizing quotes with
  | nil => rw [escapeAll, List.nil_append, readBasic]
  | cons c cs ih =>
      rw [escapeAll, List.append_assoc]
      rcases escapeChar_cases false quotes c with
        ⟨code, written, escapes⟩ | ⟨written, plain | ⟨block, -⟩⟩
      · rw [written]
        exact readBasic_escape escapes (ih _)
      · rw [written]
        exact readBasic_char plain (ih _)
      · cases block

theorem readLiteral_append {cs : List Char} (plain : ∀ c ∈ cs, isLiteralChar c = true)
    (rest : List Char) : readLiteral (cs ++ '\'' :: rest) = .ok (cs, rest) := by
  have stops : ¬ isLiteralChar '\'' = true := by decide
  rw [readLiteral, List.dropWhile_append_of_pos plain, List.dropWhile_cons_of_neg stops,
    List.takeWhile_append_of_pos plain, List.takeWhile_cons_of_neg stops, List.append_nil]
  rfl

section Runs

variable {quote d : Char} (other : d ≠ quote) (more : List Char)

include other in
theorem takeWhile_run (n : Nat) :
    (List.replicate n quote ++ d :: more).takeWhile (· == quote) = List.replicate n quote := by
  rw [List.takeWhile_append_of_pos (by simp), List.takeWhile_cons_of_neg (by simpa using other),
    List.append_nil]

include other in
theorem dropWhile_run (n : Nat) :
    (List.replicate n quote ++ d :: more).dropWhile (· == quote) = d :: more := by
  rw [List.dropWhile_append_of_pos (by simp), List.dropWhile_cons_of_neg (by simpa using other)]

include other in
theorem closeBlock?_eq_none {n : Nat} (few : n ≤ 2) :
    closeBlock? quote (List.replicate n quote ++ d :: more) = none := by
  rw [closeBlock?, takeWhile_run other, List.length_replicate, if_pos (by omega)]

include other in
theorem closeBlock?_eq_some {n : Nat} (few : n ≤ 2) :
    closeBlock? quote (List.replicate n quote ++ ([quote, quote, quote] ++ d :: more)) =
      some (List.replicate n quote, d :: more) := by
  have whole : List.replicate n quote ++ ([quote, quote, quote] ++ d :: more) =
      List.replicate (n + 3) quote ++ d :: more := by
    rw [← List.append_assoc, show [quote, quote, quote] = List.replicate 3 quote from rfl,
      List.replicate_append_replicate]
  rw [whole, closeBlock?, takeWhile_run other, List.length_replicate, if_neg (by omega)]
  have extra : min (n + 3 - 3) 2 = n := by omega
  simp only [extra, Option.some.injEq, Prod.mk.injEq, true_and]
  rw [List.drop_left' (by simp)]

include other in
theorem blockGoesOn_run (isChar : Char → Bool) (n : Nat)
    (goesOn : isChar d = true ∨ d = '\n') :
    blockGoesOn isChar quote (List.replicate n quote ++ d :: more) = true := by
  rw [blockGoesOn, dropWhile_run other]
  split
  · rfl
  · next eq =>
      cases eq
      simpa using goesOn
  · next eq => cases eq

end Runs

def ContinuesBlock (d : Char) : Prop := d ≠ '"' ∧ (isBasicChar d = true ∨ d = '\\' ∨ d = '\n')

/-- What is written in a block starts with at most two quotes; then it is at its end or goes on
with another character. -/
theorem escapeAll_quotes (cs : List Char) (quotes : Nat) (few : quotes ≤ 2) :
    ∃ n, n + quotes ≤ 2 ∧
      (cs = List.replicate n '"' ∧ escapeAll true quotes cs = List.replicate n '"' ∨
        ∃ d more, escapeAll true quotes cs = List.replicate n '"' ++ d :: more ∧
          ContinuesBlock d) := by
  induction cs generalizing quotes with
  | nil => exact ⟨0, by omega, .inl ⟨rfl, rfl⟩⟩
  | cons c cs ih =>
      rw [escapeAll]
      rcases escapeChar_cases true quotes c with
        ⟨code, written, -⟩ | ⟨written, plain | ⟨-, rfl | ⟨rfl, room⟩⟩⟩
      · rw [written]
        exact ⟨0, by omega, .inr ⟨_, _, rfl, by decide, .inr (.inl rfl)⟩⟩
      · rw [written]
        refine ⟨0, by omega, .inr ⟨_, _, rfl, ?_, .inl plain⟩⟩
        rintro rfl
        simp [isBasicChar] at plain
      · rw [written]
        exact ⟨0, by omega, .inr ⟨_, _, rfl, by decide, .inr (.inr rfl)⟩⟩
      · rw [written, if_pos rfl]
        obtain ⟨n, bound, ⟨all, same⟩ | ⟨d, more, same, continues⟩⟩ := ih (quotes + 1) (by omega)
        · exact ⟨n + 1, by omega, .inl ⟨by rw [all, List.replicate_succ], by
            rw [same, List.replicate_succ, List.singleton_append]⟩⟩
        · exact ⟨n + 1, by omega, .inr ⟨d, more, by
            rw [same, List.replicate_succ, List.singleton_append, List.cons_append], continues⟩⟩

theorem readBasicBlock_char {c : Char} {rest text last : List Char}
    (plain : isBasicChar c = true ∨ c = '\n') (read : readBasicBlock rest = .ok (text, last)) :
    readBasicBlock (c :: rest) = .ok (c :: text, last) := by
  have allowed : (isBasicChar c || c == '\n') = true := by simpa using plain
  rw [readBasicBlock.eq_def]
  split
  · next eq =>
      cases eq
      exact absurd allowed (by decide)
  · next eq =>
      cases eq
      exact absurd allowed (by decide)
  · next eq =>
      cases eq
      exact absurd allowed (by decide)
  · next eq =>
      cases eq
      rw [if_pos allowed, read]
      rfl
  · next eq => cases eq

theorem readBasicBlock_escape {c : Char} {code rest text last : List Char}
    (escapes : Escapes c code) (read : readBasicBlock rest = .ok (text, last)) :
    readBasicBlock ('\\' :: (code ++ rest)) = .ok (c :: text, last) := by
  have escape := escapes.read rest
  obtain ⟨d, ds, rfl, space, feed, carriage⟩ := escapes.start
  rw [List.cons_append] at escape ⊢
  have onLine : newline? (dropSpaces (d :: (ds ++ rest))) = none := by
    rw [dropSpaces, List.dropWhile_cons_of_neg (by simpa using space)]
    simp [newline?, feed, carriage]
  rw [readBasicBlock, onLine, escape]
  show (readBasicBlock (List.drop ds.length (ds ++ rest)) >>= _) = _
  rw [List.drop_left, read]
  rfl

theorem readBasicBlock_quote {rest text last : List Char}
    (opens : closeBlock? '"' ('"' :: rest) = none)
    (goesOn : blockGoesOn (fun c => isBasicChar c || c == '\\') '"' ('"' :: rest) = true)
    (read : readBasicBlock rest = .ok (text, last)) :
    readBasicBlock ('"' :: rest) = .ok ('"' :: text, last) := by
  rw [readBasicBlock, opens]
  simp only [goesOn, ↓reduceIte, read]
  rfl

theorem readBasicBlock_close {rest text last : List Char}
    (closes : closeBlock? '"' ('"' :: rest) = some (text, last)) :
    readBasicBlock ('"' :: rest) = .ok (text, last) := by
  rw [readBasicBlock, closes]

theorem readBasicBlock_escapeAll (cs : List Char) (quotes : Nat) (few : quotes ≤ 2)
    (rest : List Char) :
    readBasicBlock (escapeAll true quotes cs ++ (['"', '"', '"'] ++ '\n' :: rest)) =
      .ok (cs, '\n' :: rest) := by
  have feed : '\n' ≠ '"' := by decide
  -- `quotes` of them stand right before `cs`: with three the block would be closed.
  induction cs generalizing quotes with
  | nil => exact readBasicBlock_close (closeBlock?_eq_some feed rest (Nat.zero_le 2))
  | cons c cs ih =>
      have ahead := escapeAll_quotes (c :: cs) quotes few
      have reset (written : List Char) (noQuote : written ≠ ['"']) :
          (if written = ['"'] then quotes + 1 else 0) ≤ 2 := by
        rw [if_neg noQuote]
        exact Nat.zero_le 2
      rw [escapeAll] at ahead ⊢
      rcases escapeChar_cases true quotes c with
        ⟨code, written, escapes⟩ | ⟨written, plain | ⟨-, rfl | ⟨rfl, room⟩⟩⟩
      · rw [written, List.append_assoc]
        exact readBasicBlock_escape escapes (ih _ (reset _ (by simp)))
      · have noQuote : [c] ≠ ['"'] := by
          intro eq
          cases eq
          exact absurd plain (by decide)
        rw [written, List.append_assoc]
        exact readBasicBlock_char (.inl plain) (ih _ (reset _ noQuote))
      · rw [written, List.append_assoc]
        exact readBasicBlock_char (.inr rfl) (ih _ (reset _ (by decide)))
      · rw [written, if_pos rfl, List.singleton_append] at ahead ⊢
        -- Quotes at the very end of the text are read along with those that close the block.
        obtain ⟨n, bound, ⟨all, same⟩ | ⟨d, more, same, other, plain⟩⟩ := ahead
        · rw [same, all]
          cases n with
          | zero => cases all
          | succ n =>
              have closes := closeBlock?_eq_some (n := n + 1) feed rest (by omega)
              rw [List.replicate_succ, List.cons_append] at closes ⊢
              exact readBasicBlock_close closes
        · have whole (tail : List Char) : '"' :: (escapeAll true (quotes + 1) cs ++ tail) =
              List.replicate n '"' ++ d :: (more ++ tail) := by
            rw [← List.cons_append, same, List.append_assoc, List.cons_append]
          rw [List.cons_append]
          refine readBasicBlock_quote ?_ ?_ (ih _ (by omega))
          · rw [whole]
            exact closeBlock?_eq_none other _ (by omega)
          · rw [whole]
            exact blockGoesOn_run other _ _ n (by simpa [or_assoc] using plain)

theorem readLiteralBlock_char {c : Char} {rest text last : List Char}
    (plain : isLiteralChar c = true ∨ c = '\n') (read : readLiteralBlock rest = .ok (text, last)) :
    readLiteralBlock (c :: rest) = .ok (c :: text, last) := by
  have allowed : (isLiteralChar c || c == '\n') = true := by simpa using plain
  rw [readLiteralBlock.eq_def]
  split
  · next eq =>
      cases eq
      exact absurd allowed (by decide)
  · next eq =>
      cases eq
      exact absurd allowed (by decide)
  · next eq =>
      cases eq
      rw [if_pos allowed, read]
      rfl
  · next eq => cases eq

theorem readLiteralBlock_quote {rest text last : List Char}
    (opens : closeBlock? '\'' ('\'' :: rest) = none)
    (goesOn : blockGoesOn isLiteralChar '\'' ('\'' :: rest) = true)
    (read : readLiteralBlock rest = .ok (text, last)) :
    readLiteralBlock ('\'' :: rest) = .ok ('\'' :: text, last) := by
  rw [readLiteralBlock, opens]
  simp only [goesOn, ↓reduceIte, read]
  rfl

theorem readLiteralBlock_close {rest text last : List Char}
    (closes : closeBlock? '\'' ('\'' :: rest) = some (text, last)) :
    readLiteralBlock ('\'' :: rest) = .ok (text, last) := by
  rw [readLiteralBlock, closes]

theorem exists_run {quote : Char} (cs : List Char) (run : Nat)
    (short : longestRun quote cs run ≤ 2) :
    ∃ n, n + run ≤ 2 ∧
      (cs = List.replicate n quote ∨
        ∃ d more, cs = List.replicate n quote ++ d :: more ∧ d ≠ quote) := by
  induction cs generalizing run with
  | nil => exact ⟨0, by simpa [longestRun] using short, .inl rfl⟩
  | cons c cs ih =>
      rw [longestRun] at short
      by_cases same : c = quote
      · subst same
        rw [if_pos rfl] at short
        obtain ⟨n, bound, all | ⟨d, more, split, other⟩⟩ := ih (run + 1) short
        · exact ⟨n + 1, by omega, .inl (by rw [all, List.replicate_succ])⟩
        · exact ⟨n + 1, by omega, .inr ⟨d, more, by
            rw [split, List.replicate_succ, List.cons_append], other⟩⟩
      · rw [if_neg same] at short
        exact ⟨0, by omega, .inr ⟨c, cs, rfl, same⟩⟩

theorem longestRun_tail {quote c : Char} {cs : List Char} {run : Nat}
    (short : longestRun quote (c :: cs) run ≤ 2) : ∃ run, longestRun quote cs run ≤ 2 := by
  rw [longestRun] at short
  split at short
  · exact ⟨_, short⟩
  · exact ⟨0, by omega⟩

theorem readLiteralBlock_append (cs : List Char) (run : Nat)
    (plain : ∀ c ∈ cs, c ≠ '\'' → isLiteralChar c = true ∨ c = '\n')
    (short : longestRun '\'' cs run ≤ 2) (rest : List Char) :
    readLiteralBlock (cs ++ (['\'', '\'', '\''] ++ '\n' :: rest)) = .ok (cs, '\n' :: rest) := by
  have feed : '\n' ≠ '\'' := by decide
  induction cs generalizing run with
  | nil => exact readLiteralBlock_close (closeBlock?_eq_some feed rest (Nat.zero_le 2))
  | cons c cs ih =>
      obtain ⟨next, shorter⟩ := longestRun_tail short
      have read := ih next (fun d inside => plain d (List.mem_cons_of_mem c inside)) shorter
      by_cases quote : c = '\''
      · subst quote
        obtain ⟨n, bound, all | ⟨d, more, split, other⟩⟩ := exists_run _ run short
        · cases n with
          | zero => cases all
          | succ n =>
              have closes := closeBlock?_eq_some (n := n + 1) feed rest (by omega)
              rw [all]
              rw [List.replicate_succ, List.cons_append] at closes ⊢
              exact readLiteralBlock_close closes
        · have whole (tail : List Char) : '\'' :: (cs ++ tail) =
              List.replicate n '\'' ++ d :: (more ++ tail) := by
            rw [← List.cons_append, split, List.append_assoc, List.cons_append]
          have goesOn := plain d (by rw [split]; simp) other
          rw [List.cons_append]
          refine readLiteralBlock_quote ?_ ?_ read
          · rw [whole]
            exact closeBlock?_eq_none other _ (by omega)
          · rw [whole]
            exact blockGoesOn_run other _ _ n goesOn
      · exact readLiteralBlock_char (plain c (by simp) quote) read

theorem choose_eq_literal {cs : List Char} (form : QuoteForm.choose cs = .literal) :
    ∀ c ∈ cs, isLiteralChar c = true := by
  intro c inside
  simp only [QuoteForm.choose] at form
  split at form
  · cases form
  · split at form
    · next plain =>
        simp only [Bool.and_eq_true, Bool.not_eq_true', List.any_eq_false, List.contains_eq_mem,
          decide_eq_false_iff_not, Bool.not_eq_true] at plain
        obtain ⟨⟨visible, line⟩, quote⟩ := plain
        exact isLiteralChar_of (visible c inside) (fun eq => line (eq ▸ inside))
          (fun eq => quote (eq ▸ inside))
    · split at form
      · cases form
      · split at form
        · cases form
        · split at form <;> cases form

theorem choose_eq_literalBlock {cs : List Char} (form : QuoteForm.choose cs = .literalBlock) :
    (∀ c ∈ cs, needsEscape c = false) ∧ longestRun '\'' cs 0 ≤ 2 := by
  simp only [QuoteForm.choose] at form
  split at form
  · cases form
  · split at form
    · cases form
    · split at form
      · cases form
      · split at form
        · next plain =>
            simpa [Bool.and_eq_true, List.any_eq_false] using plain
        · split at form <;> cases form

theorem escapeAll_ne_quotes (cs rest tail : List Char) :
    escapeAll false 0 cs ++ '"' :: '\n' :: rest ≠ '"' :: '"' :: tail := by
  cases cs with
  | nil => simp [escapeAll]
  | cons c cs =>
      rw [escapeAll]
      rcases escapeChar_cases false 0 c with ⟨code, written, -⟩ | ⟨written, plain | ⟨block, -⟩⟩
      · simp [written]
      · have quote : c ≠ '"' := by
          rintro rfl
          exact absurd plain (by decide)
        simp [written, quote]
      · cases block

theorem dropFirstNewline_blockLead {cs written : List Char}
    (start : cs.contains '\n' = false → newline? written = none) :
    dropFirstNewline (blockLead cs ++ written) = written := by
  rw [blockLead, dropFirstNewline]
  cases lines : cs.contains '\n' with
  | true => rfl
  | false =>
      rw [if_neg (by decide), List.nil_append, start lines]
      rfl

theorem newline?_escapeAll (cs tail : List Char) (line : cs.contains '\n' = false) :
    newline? (escapeAll true 0 cs ++ '"' :: tail) = none := by
  cases cs with
  | nil => rfl
  | cons c cs =>
      rw [escapeAll]
      rcases escapeChar_cases true 0 c with
        ⟨code, written, -⟩ | ⟨written, plain | ⟨-, rfl | ⟨rfl, -⟩⟩⟩
      · rw [written]
        rfl
      · rw [written, List.singleton_append, List.cons_append, newline?.eq_def]
        split
        · next eq =>
            obtain ⟨rfl, -⟩ := List.cons.inj eq
            exact absurd plain (by decide)
        · next eq =>
            obtain ⟨rfl, -⟩ := List.cons.inj eq
            exact absurd plain (by decide)
        · rfl
      · simp at line
      · rw [written]
        rfl

theorem newline?_literal {cs : List Char} (line : cs.contains '\n' = false)
    (visible : ∀ c ∈ cs, needsEscape c = false) (tail : List Char) :
    newline? (cs ++ '\'' :: tail) = none := by
  cases cs with
  | nil => rfl
  | cons c cs =>
      rw [List.cons_append, newline?.eq_def]
      split
      · next eq =>
          obtain ⟨rfl, -⟩ := List.cons.inj eq
          simp at line
      · next eq =>
          obtain ⟨rfl, -⟩ := List.cons.inj eq
          exact absurd (visible '\r' (by simp)) (by decide)
      · rfl

theorem readText_writeText (cs rest : List Char) :
    readText (writeText cs ++ '\n' :: rest) = .ok (String.ofList cs, '\n' :: rest) := by
  rw [writeText]
  cases form : QuoteForm.choose cs with
  | basic =>
      have read := readBasic_escapeAll cs 0 ('\n' :: rest)
      have single := escapeAll_ne_quotes cs rest
      simp only [List.append_assoc, List.cons_append, List.nil_append]
      rw [readText, read]
      · rfl
      · exact fun tail => single tail
  | literal =>
      have plain := choose_eq_literal form
      have read := readLiteral_append plain ('\n' :: rest)
      simp only [List.append_assoc, List.cons_append, List.nil_append]
      rw [readText, read]
      · rfl
      · intro tail eq
        cases cs with
        | nil => cases eq
        | cons c cs =>
            obtain ⟨rfl, -⟩ := List.cons.inj eq
            exact absurd (plain '\'' (by simp)) (by decide)
  | basicBlock =>
      have read := readBasicBlock_escapeAll cs 0 (Nat.zero_le 2) rest
      have lead := dropFirstNewline_blockLead fun line =>
        newline?_escapeAll cs ('"' :: '"' :: '\n' :: rest) line
      simp only [List.append_assoc, List.cons_append, List.nil_append] at read lead ⊢
      rw [readText, lead, read]
      rfl
  | literalBlock =>
      obtain ⟨visible, short⟩ := choose_eq_literalBlock form
      have plain : ∀ c ∈ cs, c ≠ '\'' → isLiteralChar c = true ∨ c = '\n' := by
        intro c inside quote
        by_cases feed : c = '\n'
        · exact .inr feed
        · exact .inl (isLiteralChar_of (visible c inside) feed quote)
      have read := readLiteralBlock_append cs 0 plain short rest
      have lead := dropFirstNewline_blockLead fun line =>
        newline?_literal line visible ('\'' :: '\'' :: '\n' :: rest)
      simp only [List.append_assoc, List.cons_append, List.nil_append] at read lead ⊢
      rw [readText, lead, read]
      rfl

end ImageStock.Toml
