import ImageStock.Proofs.Result
import ImageStock.Proofs.Toml.Draft
import ImageStock.Proofs.Toml.Scalar

/-! Statements of a document as they are written and as they are read again: fields, headers and
empty lines. Main statement: after the last statement the document is read to its end. -/

namespace ImageStock.Toml

def IsBare (name : String) : Prop :=
  name.toList ≠ [] ∧ name.toList.all isBareKeyChar = true

instance (name : String) : Decidable (IsBare name) :=
  inferInstanceAs (Decidable (_ ∧ _))

theorem IsBare.all {name : String} (bare : IsBare name) {c : Char}
    (member : c ∈ name.toList) : isBareKeyChar c = true :=
  List.all_eq_true.mp bare.2 c member

theorem ne_of_isBareKeyChar {c d : Char} (bare : isBareKeyChar c = true)
    (other : isBareKeyChar d = false) : c ≠ d := by
  rintro rfl
  rw [bare] at other
  cases other

theorem dropSpaces_cons {c : Char} (visible : isSpace c = false) (cs : List Char) :
    dropSpaces (c :: cs) = c :: cs := by
  rw [dropSpaces, List.dropWhile_cons_of_neg (by rw [visible]; decide)]

theorem dropSpaces_space (cs : List Char) : dropSpaces (' ' :: cs) = dropSpaces cs :=
  List.dropWhile_cons_of_pos rfl

theorem IsBare.start {name : String} (bare : IsBare name) :
    ∃ c cs, name.toList = c :: cs ∧ isBareKeyChar c = true := by
  cases chars : name.toList with
  | nil => exact absurd chars bare.1
  | cons c cs => exact ⟨c, cs, rfl, bare.all (by rw [chars]; exact List.mem_cons_self)⟩

theorem dropSpaces_bare {name : String} (bare : IsBare name) (rest : List Char) :
    dropSpaces (name.toList ++ rest) = name.toList ++ rest := by
  obtain ⟨c, cs, chars, first⟩ := bare.start
  rw [chars, List.cons_append, dropSpaces_cons]
  rw [isSpace, beq_eq_false_iff_ne.mpr (ne_of_isBareKeyChar first (by decide)),
    beq_eq_false_iff_ne.mpr (ne_of_isBareKeyChar first (by decide)), Bool.or_false]

section Keys

variable {name : String} (bare : IsBare name) (mark : Char) (ends : isBareKeyChar mark = false)

include bare ends in
theorem readKey_bare (rest : List Char) :
    ∃ span, readKey (name.toList ++ mark :: rest) = .ok (⟨name, span⟩, mark :: rest) := by
  have taken : (name.toList ++ mark :: rest).takeWhile isBareKeyChar = name.toList := by
    rw [List.takeWhile_append_of_pos fun c => bare.all,
      List.takeWhile_cons_of_neg (by rw [ends]; decide),
      List.append_nil]
  have left : (name.toList ++ mark :: rest).dropWhile isBareKeyChar = mark :: rest := by
    rw [List.dropWhile_append_of_pos fun c => bare.all,
      List.dropWhile_cons_of_neg (by rw [ends]; decide)]
  have filled : name.toList.isEmpty = false := List.isEmpty_eq_false_iff.mpr bare.1
  refine ⟨⟨(name.toList ++ mark :: rest).length, (mark :: rest).length⟩, ?_⟩
  obtain ⟨c, cs, chars, first⟩ := bare.start
  rw [readKey]
  · simp only [taken, left, filled, Bool.false_eq_true, ↓reduceIte, Except.map,
      String.ofList_toList]
  · intro more eq
    rw [chars] at eq
    exact ne_of_isBareKeyChar first (by decide) (List.cons.inj eq).1
  · intro more eq
    rw [chars] at eq
    exact ne_of_isBareKeyChar first (by decide) (List.cons.inj eq).1

theorem readKeyParts_none {cs : List Char} (undotted : ∀ more, cs ≠ '.' :: more) (fuel : Nat) :
    readKeyParts fuel cs = .ok ([], cs) := by
  cases fuel with
  | zero => rw [readKeyParts]
  | succ fuel =>
      rw [readKeyParts]
      exact undotted

include bare ends in
theorem readDottedKey_single {rest last : List Char} (spaces : dropSpaces (mark :: rest) = last)
    (undotted : ∀ more, last ≠ '.' :: more) :
    ∃ span, readDottedKey (name.toList ++ mark :: rest) = .ok (([], ⟨name, span⟩), last) := by
  obtain ⟨span, key⟩ := readKey_bare bare mark ends rest
  refine ⟨span, ?_⟩
  have first : label "key" (readKey (name.toList ++ mark :: rest)) =
      .ok (⟨name, span⟩, mark :: rest) := by
    rw [key]
    rfl
  rw [readDottedKey, dropSpaces_bare bare, first, ok_bind]
  simp only [spaces, readKeyParts_none undotted]
  rfl

end Keys

theorem readDottedKey_pair {outer inner : String} (outerBare : IsBare outer)
    (innerBare : IsBare inner) (rest : List Char) :
    ∃ span span', readDottedKey (outer.toList ++ '.' :: (inner.toList ++ ']' :: rest)) =
      .ok (([⟨outer, span⟩], ⟨inner, span'⟩), ']' :: rest) := by
  obtain ⟨span, first⟩ := readKey_bare outerBare '.' rfl (inner.toList ++ ']' :: rest)
  obtain ⟨span', second⟩ := readKey_bare innerBare ']' rfl rest
  have closing := dropSpaces_cons (c := ']') rfl rest
  refine ⟨span, span', ?_⟩
  have more (fuel : Nat) : readKeyParts (fuel + 1) ('.' :: (inner.toList ++ ']' :: rest)) =
      .ok ([⟨inner, span'⟩], ']' :: rest) := by
    rw [readKeyParts, dropSpaces_bare innerBare]
    simp only [second]
    rw [closing, readKeyParts_none (by simp)]
    rfl
  rw [readDottedKey, dropSpaces_bare outerBare, first]
  show Except.bind (label "key" (readKeyParts _ (dropSpaces ('.' :: _)))) _ = _
  rw [dropSpaces_cons rfl, List.length_cons, more]
  rfl

theorem expecting_ok {α : Type} (what : List String) (a : α) :
    expecting what (.ok a) = .ok a := rfl

theorem readLineRest_newline (rest : List Char) : readLineRest ('\n' :: rest) = .ok ((), rest) := by
  rw [readLineRest, dropSpaces_cons rfl]
  rfl

section Lines

variable {place : Place} {table : Table} {d : Draft}

theorem Draft.Holds.insert (key : Key) (s : Scalar) (span : Span) (holds : d.Holds place table)
    (lacks : table.Lacks key.name) :
    ∃ e, d.insert [] key (.scalar s span) = .ok e ∧
      e.Holds place (table ++ [(key.name, .scalar s)]) := by
  rw [← holds.entries] at lacks ⊢
  rw [Draft.insert, Entries.insert_fresh lacks]
  refine ⟨_, rfl, holds.place, ?_⟩
  rw [entryValues_append, entryValues_singleton, Node.toValue]

theorem readAssignment_line {name : String} {s : Scalar} {written : List Char} (bare : IsBare name)
    (writes : Writes s written) (holds : d.Holds place table) (lacks : table.Lacks name)
    (rest : List Char) :
    ∃ e, readAssignment d (writeLine name written ++ rest) = .ok (e, rest) ∧
      e.Holds place (table ++ [(name, .scalar s)]) := by
  have line : writeLine name written ++ rest =
      name.toList ++ ' ' :: ('=' :: ' ' :: (written ++ '\n' :: rest)) := by
    simp only [writeLine, List.append_assoc, List.cons_append, List.nil_append]
  have equals : dropSpaces (' ' :: '=' :: ' ' :: (written ++ '\n' :: rest)) =
      '=' :: ' ' :: (written ++ '\n' :: rest) := by
    rw [dropSpaces_space, dropSpaces_cons rfl]
  have value : dropSpaces (' ' :: (written ++ '\n' :: rest)) = written ++ '\n' :: rest := by
    obtain ⟨c, more, rfl, visible, -⟩ := writes.start
    rw [dropSpaces_space, List.cons_append, dropSpaces_cons visible]
  obtain ⟨span, key⟩ := readDottedKey_single bare ' ' rfl equals (by simp)
  obtain ⟨span', read⟩ := readValue_written writes (nestingLimit - 1) rest
  obtain ⟨e, inserted, held⟩ := holds.insert ⟨name, span⟩ s span' lacks
  refine ⟨e, ?_, held⟩
  have after : readEquals ('=' :: ' ' :: (written ++ '\n' :: rest)) =
      .ok ((), ' ' :: (written ++ '\n' :: rest)) := rfl
  simp only [line, readAssignment, key, after, value, read, readLineRest_newline, inserted,
    orClash, ok_bind]
  rfl

theorem readHeader_single {name : String} {closed : Entries} (bare : IsBare name)
    (closes : d.close = .ok closed) (lacks : Table.Lacks (entryValues closed) name)
    (rest : List Char) :
    ∃ place span, readHeader d (writeHeader name ++ rest) =
      .ok ({ finished := closed, header := [⟨name, place⟩], span := some span }, rest) := by
  obtain ⟨place, key⟩ := readDottedKey_single bare ']' rfl
    (dropSpaces_cons rfl ('\n' :: rest)) (by simp)
  obtain ⟨c, cs, chars, first⟩ := bare.start
  have line : writeHeader name ++ rest = '[' :: c :: (cs ++ ']' :: '\n' :: rest) := by
    simp only [writeHeader, chars, List.append_assoc, List.cons_append, List.nil_append]
  have after : readChar ']' (']' :: '\n' :: rest) = .ok ((), '\n' :: rest) := rfl
  have opened := d.openTable_fresh ⟨name, place⟩ closes lacks
  rw [chars, List.cons_append] at key
  refine ⟨place, ⟨(writeHeader name ++ rest).length, ('\n' :: rest).length⟩, ?_⟩
  rw [line, readHeader]
  · simp only [key, ok_bind, after, expecting_ok, readLineRest_newline, opened,
      List.nil_append, orClash]
    rfl
  · exact ne_of_isBareKeyChar first (by decide)

theorem readHeader_pair {outer inner : String} {before within : Table} {items : List Value}
    (outerBare : IsBare outer) (innerBare : IsBare inner)
    (lists : d.Lists outer inner before within items) (rest : List Char) :
    ∃ (l : Listing) (place place' span : Span), l.Means outer inner before within items ∧
      readHeader d (writeRepeatedHeader (outer ++ "." ++ inner) ++ rest) =
        .ok (l.opened ⟨outer, place⟩ ⟨inner, place'⟩ span, rest) := by
  obtain ⟨place, place', key⟩ := readDottedKey_pair outerBare innerBare (']' :: '\n' :: rest)
  have line : writeRepeatedHeader (outer ++ "." ++ inner) ++ rest =
      '[' :: '[' :: (outer.toList ++ '.' :: (inner.toList ++ ']' :: ']' :: '\n' :: rest)) := by
    simp [writeRepeatedHeader]
  have after : readChar ']' (']' :: ']' :: '\n' :: rest) = .ok ((), ']' :: '\n' :: rest) := rfl
  have after' : readChar ']' (']' :: '\n' :: rest) = .ok ((), '\n' :: rest) := rfl
  let span : Span :=
    ⟨(writeRepeatedHeader (outer ++ "." ++ inner) ++ rest).length, ('\n' :: rest).length⟩
  obtain ⟨l, means, opened⟩ := lists place place' span
  refine ⟨l, place, place', span, means, ?_⟩
  simp only [span, line] at opened ⊢
  rw [readHeader]
  simp only [key, ok_bind, after, after', pure_eq_ok, expecting_ok,
    readLineRest_newline, opened, List.nil_append, List.cons_append, orClash]
  rfl

end Lines

inductive Reads : Draft → List Char → Draft → List Char → Prop where
  | refl (d : Draft) (cs : List Char) : Reads d cs d cs
  | step {d e f : Draft} {cs rest last : List Char} (statement : readStatement d cs = .ok (e, rest))
      (spaces : dropSpaces cs = cs) (shorter : rest.length < cs.length)
      (more : Reads e rest f last) : Reads d cs f last

theorem Reads.single {d e : Draft} {cs rest : List Char}
    (statement : readStatement d cs = .ok (e, rest))
    (spaces : dropSpaces cs = cs) (shorter : rest.length < cs.length) : Reads d cs e rest :=
  .step statement spaces shorter (.refl e rest)

theorem Reads.trans {d e f : Draft} {cs rest last : List Char} (first : Reads d cs e rest)
    (second : Reads e rest f last) : Reads d cs f last := by
  induction first with
  | refl => exact second
  | step statement spaces shorter _ ih => exact .step statement spaces shorter (ih second)

theorem Reads.dropSpaces {d e : Draft} {cs : List Char} (reads : Reads d cs e []) :
    Toml.dropSpaces cs = cs := by
  cases reads with
  | refl => rfl
  | step _ spaces => exact spaces

theorem Reads.readStatements {d e : Draft} {cs : List Char} (reads : Reads d cs e [])
    (fuel : Nat) (enough : cs.length ≤ fuel) : Toml.readStatements fuel d cs = .ok e := by
  generalize ended : ([] : List Char) = last at reads
  -- Each statement takes characters away, so there is always fuel for those that are left.
  induction reads generalizing fuel with
  | refl =>
      subst ended
      cases fuel <;> rfl
  | @step d _ _ cs rest _ statement _ shorter more ih =>
      subst ended
      have spaces := more.dropSpaces
      obtain ⟨fuel, rfl⟩ : ∃ left, fuel = left + 1 := ⟨fuel - 1, by omega⟩
      cases cs with
      | nil => exact absurd shorter (Nat.not_lt_zero _)
      | cons c cs =>
          rw [List.length_cons] at shorter enough
          simp only [Toml.readStatements, statement, ok_bind, spaces]
          exact ih fuel (by omega) rfl

/-- Wherever `P` holds of the draft, reading `text` leads to where `Q` holds. -/
def Takes (P : Draft → Prop) (text : List Char) (Q : Draft → Prop) : Prop :=
  ∀ d rest, P d → ∃ e, Reads d (text ++ rest) e rest ∧ Q e

namespace Takes

variable {P Q R : Draft → Prop} {first second : List Char}

theorem nil (implies : ∀ d, P d → Q d) : Takes P [] Q := by
  intro d rest holds
  exact ⟨d, .refl d rest, implies d holds⟩

theorem append (left : Takes P first Q) (right : Takes Q second R) :
    Takes P (first ++ second) R := by
  intro d rest holds
  obtain ⟨e, reads, middle⟩ := left d (second ++ rest) holds
  obtain ⟨f, more, last⟩ := right e rest middle
  rw [List.append_assoc]
  exact ⟨f, reads.trans more, last⟩

theorem weaken (takes : Takes P first Q) (implies : ∀ d, Q d → R d) : Takes P first R := by
  intro d rest holds
  obtain ⟨e, reads, after⟩ := takes d rest holds
  exact ⟨e, reads, implies e after⟩

theorem blank (P : Draft → Prop) : Takes P ['\n'] P := by
  intro d rest holds
  refine ⟨d, .single rfl (dropSpaces_cons rfl rest) ?_, holds⟩
  exact Nat.lt_succ_self _

theorem writeParts_append {first second : List (List Char)} (left : first ≠ [])
    (right : second ≠ []) :
    writeParts (first ++ second) = writeParts first ++ ['\n'] ++ writeParts second := by
  induction first with
  | nil => exact absurd rfl left
  | cons part parts ih =>
      cases parts with
      | nil =>
          cases second with
          | nil => exact absurd rfl right
          | cons next later =>
              rw [List.append_assoc]
              rfl
      | cons next later =>
          show part ++ '\n' :: writeParts (next :: later ++ second) = part ++ '\n' :: _ ++ _ ++ _
          rw [ih (List.cons_ne_nil next later)]
          simp only [List.append_assoc, List.cons_append]

theorem parts {first second : List (List Char)} (left : Takes P (writeParts first) Q)
    (right : Takes Q (writeParts second) R) : Takes P (writeParts (first ++ second)) R := by
  by_cases empty : first = []
  · subst empty
    exact left.append right
  · by_cases done : second = []
    · subst done
      rw [List.append_nil]
      have both := left.append right
      rwa [writeParts, List.append_nil] at both
    · rw [writeParts_append empty done]
      exact (left.append (.blank Q)).append right

end Takes

section Lines

variable {place : Place} {table : Table} {name : String}

theorem takes_line {s : Scalar} {written : List Char} (bare : IsBare name)
    (writes : Writes s written) (lacks : table.Lacks name) :
    Takes (Draft.Holds place table) (writeLine name written)
      (Draft.Holds place (table ++ [(name, .scalar s)])) := by
  intro d rest holds
  obtain ⟨e, read, after⟩ := readAssignment_line bare writes holds lacks rest
  obtain ⟨c, cs, chars, first⟩ := bare.start
  refine ⟨e, .single ?_ ?_ ?_, after⟩
  · simp only [writeLine, chars, List.cons_append] at read ⊢
    rw [readStatement, read]
    · rfl
    all_goals
      intro last eq
      exact ne_of_isBareKeyChar first (by decide) (List.cons.inj eq).1
  · rw [writeLine]
    simp only [List.append_assoc]
    exact dropSpaces_bare bare _
  · simp only [writeLine, List.length_append, List.length_cons]
    omega

def writeFields (fields : List (String × Option String)) : List Char :=
  fields.flatMap fun (name, text) => writeField name text

def textFields (fields : List (String × Option String)) : Table :=
  fields.filterMap fun (name, text) => text.map fun s => (name, .scalar (.text s))

theorem takes_fields (fields : List (String × Option String))
    (bare : ∀ field ∈ fields, IsBare field.1) (distinct : (fields.map (·.1)).Nodup)
    (lacks : ∀ field ∈ fields, table.Lacks field.1) :
    Takes (Draft.Holds place table) (writeFields fields)
      (Draft.Holds place (table ++ textFields fields)) := by
  induction fields generalizing table with
  | nil =>
      refine .nil fun d holds => ?_
      rwa [textFields, List.filterMap_nil, List.append_nil]
  | cons head tail ih =>
      obtain ⟨name, text⟩ := head
      rw [List.map_cons, List.nodup_cons] at distinct
      have laterBare (field) (member : field ∈ tail) := bare field (List.mem_cons_of_mem _ member)
      have laterLacks (field) (member : field ∈ tail) := lacks field (List.mem_cons_of_mem _ member)
      cases text with
      | none => exact ih laterBare distinct.2 laterLacks
      | some s =>
          have stillLacks (field) (member : field ∈ tail) :
              Table.Lacks (table ++ [(name, .scalar (.text s))]) field.1 := by
            refine lacks_append (laterLacks field member) (lacks_singleton ?_ _)
            have inside : field.1 ∈ tail.map (·.1) := List.mem_map_of_mem member
            rintro rfl
            exact distinct.1 inside
          have line : Takes (Draft.Holds place table) (writeLine name (writeText s.toList)) _ :=
            takes_line (bare _ List.mem_cons_self) (writes_text s) (lacks _ List.mem_cons_self)
          have whole := line.append (ih laterBare distinct.2 stillLacks)
          rw [List.append_assoc] at whole
          exact whole

theorem takes_allFields {fields : List (String × Option String)} {names : List String}
    (keys : fields.map (·.1) = names) (bare : names.all (decide <| IsBare ·) = true)
    (distinct : names.Nodup) :
    Takes (Draft.Holds place []) (writeFields fields) (Draft.Holds place (textFields fields)) := by
  subst keys
  refine takes_fields fields (fun field member => ?_) distinct fun field _ => List.not_mem_nil
  exact of_decide_eq_true (List.all_eq_true.mp bare field.1 (List.mem_map_of_mem member))

theorem takes_header {before : Table} (bare : IsBare name) (lacks : before.Lacks name) :
    Takes (Draft.Closes before) (writeHeader name) (Draft.Holds (atSection before name) []) := by
  rintro d rest ⟨closed, closes, rfl⟩
  obtain ⟨place, span, read⟩ := readHeader_single bare closes lacks rest
  refine ⟨_, .single (congrArg cut read) (dropSpaces_cons rfl _) ?_, ⟨rfl, ⟨_, rfl, rfl⟩, rfl⟩, ?_⟩
  · simp only [writeHeader, List.length_append, List.length_cons]
    omega
  · rw [entryValues]

theorem takes_repeatedHeader {outer inner : String} {before within : Table} {items : List Value}
    (outerBare : IsBare outer) (innerBare : IsBare inner) :
    Takes (Draft.Lists outer inner before within items)
      (writeRepeatedHeader (outer ++ "." ++ inner))
      (Draft.Holds (atList outer inner before within items) []) := by
  intro d rest lists
  obtain ⟨l, place, place', span, means, read⟩ := readHeader_pair outerBare innerBare lists rest
  refine ⟨_, .single (congrArg cut read) (dropSpaces_cons rfl _) ?_,
    ⟨l, means, rfl, ⟨_, _, rfl, rfl, rfl⟩, rfl⟩, ?_⟩
  · simp only [writeRepeatedHeader, List.length_append, List.length_cons]
    omega
  · rw [Listing.opened, entryValues]

end Lines

theorem readStatement_mark (d : Draft) (rest : List Char) (result : Draft × List Char) :
    readStatement d ('\uFEFF' :: rest) ≠ .ok result := by
  intro read
  have key : readKey ('\uFEFF' :: rest) = stop ('\uFEFF' :: rest) := rfl
  have failed : readStatement d ('\uFEFF' :: rest) =
      cut (label "key" (stop ('\uFEFF' :: rest))) := by
    show cut (readAssignment d ('\uFEFF' :: rest)) = _
    rw [readAssignment, readDottedKey, dropSpaces_cons (by decide), key]
    rfl
  rw [failed] at read
  cases read

/-- A text that is read statement by statement is a document. -/
theorem readDocument_of_takes {table : Table} {text : List Char}
    (takes : Takes (Draft.Holds atTop []) text (Draft.Closes table)) :
    ∃ entries, readDocument text = .ok (.table .header entries none) ∧
      entryValues entries = table := by
  obtain ⟨d, reads, closed, closes, means⟩ := takes {} [] ⟨rfl, by rw [entryValues]⟩
  rw [List.append_nil] at reads
  refine ⟨closed, ?_, means⟩
  have unmarked (rest : List Char) : text ≠ '\uFEFF' :: rest := by
    rintro rfl
    cases reads with
    | step statement => exact readStatement_mark _ _ _ statement
  rw [readDocument]
  · simp only [reads.dropSpaces, reads.readStatements _ (Nat.le_refl _), ok_bind, closes, orClash]
    rfl
  · exact unmarked

end ImageStock.Toml
