import ImageStock.Text.Utf8

/-! UTF-8 there and back. Main statements: what is encoded is decoded as the same text, and bytes
that encode no text are decoded with a replacement. -/

namespace ImageStock.Text.Utf8

theorem loop_eq_append_drop (bytes : ByteArray) (i : Nat) (before : List UInt8) :
    ByteArray.toList.loop bytes i before = before.reverse ++ bytes.data.toList.drop i := by
  fun_induction ByteArray.toList.loop bytes i before with
  | case1 i before inside ih =>
      have bound : i < bytes.data.toList.length := inside
      have byte : bytes.get! i = bytes.data.toList[i] := getElem!_pos bytes.data i inside
      rw [ih, List.drop_eq_getElem_cons bound, List.reverse_cons, List.append_assoc, byte]
      rfl
  | case2 i before outside =>
      rw [List.drop_of_length_le (Nat.le_of_not_lt outside), List.append_nil]

theorem encode_ofList (cs : List Char) :
    encode (String.ofList cs) = cs.flatMap String.utf8EncodeChar := by
  rw [encode, ByteArray.toList, loop_eq_append_drop]
  exact List.toList_data_toByteArray

theorem toNat_byte {n : Nat} (small : n < 256) : (UInt8.ofNat n).toNat = n :=
  UInt8.toNat_ofNat_of_lt' small

theorem readTail_ok {count code : Nat} {range : Nat × Nat} {n : Nat} {bytes : List UInt8}
    (small : n < 256) (low : range.1 ≤ n) (high : n ≤ range.2) :
    readTail (count + 1) range code (UInt8.ofNat n :: bytes) =
      readTail count (0x80, 0xBF) (code * 64 + (n - 0x80)) bytes := by
  rw [readTail, toNat_byte small, decide_eq_true low, decide_eq_true high]
  rfl

theorem front_one {v : Nat} (high : v < 0x80) (rest : List UInt8) :
    front (UInt8.ofNat v) rest = .character (Char.ofNat v) rest := by
  have first := toNat_byte (n := v) (by omega)
  rw [front, first, tailLength, if_pos high]
  rfl

section Long

variable {a b c d v : Nat} (rest : List UInt8)

theorem front_two (first : 0xC2 ≤ a ∧ a ≤ 0xDF) (second : 0x80 ≤ b ∧ b ≤ 0xBF)
    (code : (a - 0xC0) * 64 + (b - 0x80) = v) :
    front (UInt8.ofNat a) (UInt8.ofNat b :: rest) = .character (Char.ofNat v) rest := by
  have byte := toNat_byte (n := a) (by omega)
  have tail : tailLength a = some 1 := by
    simp [tailLength, first, show ¬ a < 0x80 by omega]
  have range : secondRange a = (0x80, 0xBF) := by
    simp [secondRange, show a ≠ 0xE0 by omega, show a ≠ 0xED by omega, show a ≠ 0xF0 by omega,
      show a ≠ 0xF4 by omega]
  subst code
  rw [front, byte, tail, range]
  exact readTail_ok (by omega) second.1 second.2

theorem front_three (first : 0xE0 ≤ a ∧ a ≤ 0xEF)
    (second : (secondRange a).1 ≤ b ∧ b ≤ (secondRange a).2) (bound : b < 256)
    (third : 0x80 ≤ c ∧ c ≤ 0xBF)
    (code : ((a - 0xE0) * 64 + (b - 0x80)) * 64 + (c - 0x80) = v) :
    front (UInt8.ofNat a) (UInt8.ofNat b :: UInt8.ofNat c :: rest) =
      .character (Char.ofNat v) rest := by
  have byte := toNat_byte (n := a) (by omega)
  have tail : tailLength a = some 2 := by
    simp [tailLength, first, show ¬ a < 0x80 by omega, show ¬ a ≤ 0xDF by omega]
  subst code
  rw [front, byte, tail]
  exact (readTail_ok bound second.1 second.2).trans (readTail_ok (by omega) third.1 third.2)

theorem front_four (first : 0xF0 ≤ a ∧ a ≤ 0xF4)
    (second : (secondRange a).1 ≤ b ∧ b ≤ (secondRange a).2) (bound : b < 256)
    (third : 0x80 ≤ c ∧ c ≤ 0xBF) (fourth : 0x80 ≤ d ∧ d ≤ 0xBF)
    (code : (((a - 0xF0) * 64 + (b - 0x80)) * 64 + (c - 0x80)) * 64 + (d - 0x80) = v) :
    front (UInt8.ofNat a) (UInt8.ofNat b :: UInt8.ofNat c :: UInt8.ofNat d :: rest) =
      .character (Char.ofNat v) rest := by
  have byte := toNat_byte (n := a) (by omega)
  have tail : tailLength a = some 3 := by
    simp [tailLength, first, show ¬ a < 0x80 by omega, show ¬ a ≤ 0xDF by omega,
      show ¬ a ≤ 0xEF by omega]
  subst code
  rw [front, byte, tail]
  exact ((readTail_ok bound second.1 second.2).trans
    (readTail_ok (by omega) third.1 third.2)).trans (readTail_ok (by omega) fourth.1 fourth.2)

end Long

theorem secondRange_three {v : Nat} (low : 0x7FF < v) (high : v ≤ 0xFFFF)
    (valid : v < 0xD800 ∨ 0xDFFF < v) :
    (secondRange (v / 4096 % 16 + 0xE0)).1 ≤ v / 64 % 64 + 0x80 ∧
      v / 64 % 64 + 0x80 ≤ (secondRange (v / 4096 % 16 + 0xE0)).2 := by
  rw [secondRange]
  split
  · constructor <;> simp only <;> omega
  · split
    · constructor <;> simp only <;> omega
    · split
      · omega
      · split
        · omega
        · constructor <;> simp only <;> omega

theorem secondRange_four {v : Nat} (low : 0xFFFF < v) (high : v < 0x110000) :
    (secondRange (v / 262144 % 8 + 0xF0)).1 ≤ v / 4096 % 64 + 0x80 ∧
      v / 4096 % 64 + 0x80 ≤ (secondRange (v / 262144 % 8 + 0xF0)).2 := by
  rw [secondRange]
  split
  · omega
  · split
    · omega
    · split
      · constructor <;> simp only <;> omega
      · split
        · constructor <;> simp only <;> omega
        · constructor <;> simp only <;> omega

theorem scan_char (c : Char) (rest : List UInt8) :
    scan (String.utf8EncodeChar c ++ rest) = some c :: scan rest := by
  obtain ⟨v, code⟩ : ∃ v, c.val.toNat = v := ⟨_, rfl⟩
  have valid : v < 0xD800 ∨ 0xDFFF < v ∧ v < 0x110000 := code ▸ c.valid
  have same : Char.ofNat v = c := by
    rw [← code]
    exact Char.ofNat_toNat c
  have step (b : UInt8) (more : List UInt8) (read : front b more = .character (Char.ofNat v) rest) :
      scan (b :: more) = some c :: scan rest := by
    rw [scan, read, same]
    rfl
  rw [String.utf8EncodeChar, code]
  split
  · exact step _ _ (front_one (by omega) rest)
  · split
    · exact step _ _ (front_two rest (by omega) (by omega) (by omega))
    · split
      · exact step _ _ (front_three rest (by omega)
          (secondRange_three (by omega) (by omega) (by omega)) (by omega) (by omega) (by omega))
      · exact step _ _ (front_four rest (by omega) (secondRange_four (by omega) (by omega))
          (by omega) (by omega) (by omega) (by omega))

theorem scan_encode (cs : List Char) : scan (encode (String.ofList cs)) = cs.map some := by
  rw [encode_ofList]
  induction cs with
  | nil => rw [List.flatMap_nil, scan, List.map_nil]
  | cons c cs ih => rw [List.flatMap_cons, scan_char, ih, List.map_cons]

theorem decode?_encode (cs : List Char) : decode? (encode (String.ofList cs)) = some cs := by
  rw [decode?, scan_encode]
  induction cs with
  | nil => rfl
  | cons c cs ih =>
      rw [List.map_cons, List.mapM_cons, ih]
      rfl

theorem decodeLossy_encode (s : String) : decodeLossy (encode s) = s.toList := by
  have scanned := scan_encode s.toList
  rw [String.ofList_toList] at scanned
  rw [decodeLossy, scanned, List.map_map]
  exact List.map_id s.toList

theorem toNat_val_ofNat {v : Nat} (valid : v.isValidChar) : (Char.ofNat v).val.toNat = v := by
  rw [Char.ofNat, dif_pos valid]
  rfl

theorem ofNat_of_toNat {b : UInt8} {n : Nat} (same : b.toNat = n) : UInt8.ofNat n = b := by
  rw [← same, UInt8.ofNat_toNat]

theorem within_secondRange {a b : Nat}
    (second : (secondRange a).1 ≤ b ∧ b ≤ (secondRange a).2) :
    (0x80 ≤ b ∧ b ≤ 0xBF) ∧ (a = 0xE0 → 0xA0 ≤ b) ∧ (a = 0xED → b ≤ 0x9F) ∧
      (a = 0xF0 → 0x90 ≤ b) ∧ (a = 0xF4 → b ≤ 0x8F) := by
  grind [secondRange]

section Encoded

variable {a b c d : UInt8}

theorem encodeChar_one (first : a.toNat < 0x80) :
    String.utf8EncodeChar (Char.ofNat a.toNat) = [a] := by
  rw [String.utf8EncodeChar, toNat_val_ofNat (.inl (by omega)), if_pos (by omega),
    UInt8.ofNat_toNat]

theorem encodeChar_two (first : 0xC2 ≤ a.toNat ∧ a.toNat ≤ 0xDF)
    (second : (secondRange a.toNat).1 ≤ b.toNat ∧ b.toNat ≤ (secondRange a.toNat).2) :
    String.utf8EncodeChar (Char.ofNat ((a.toNat - 0xC0) * 64 + (b.toNat - 0x80))) = [a, b] := by
  have bounds := within_secondRange second
  rw [String.utf8EncodeChar, toNat_val_ofNat (.inl (by omega)), if_neg (by omega),
    if_pos (by omega), ofNat_of_toNat (b := a) (by omega), ofNat_of_toNat (b := b) (by omega)]

theorem encodeChar_three (first : 0xE0 ≤ a.toNat ∧ a.toNat ≤ 0xEF)
    (second : (secondRange a.toNat).1 ≤ b.toNat ∧ b.toNat ≤ (secondRange a.toNat).2)
    (third : 0x80 ≤ c.toNat ∧ c.toNat ≤ 0xBF) :
    String.utf8EncodeChar
        (Char.ofNat (((a.toNat - 0xE0) * 64 + (b.toNat - 0x80)) * 64 + (c.toNat - 0x80))) =
      [a, b, c] := by
  have bounds := within_secondRange second
  have valid : (((a.toNat - 0xE0) * 64 + (b.toNat - 0x80)) * 64 +
      (c.toNat - 0x80)).isValidChar := by
    rw [Nat.isValidChar]
    omega
  rw [String.utf8EncodeChar, toNat_val_ofNat valid, if_neg (by omega), if_neg (by omega),
    if_pos (by omega), ofNat_of_toNat (b := a) (by omega), ofNat_of_toNat (b := b) (by omega),
    ofNat_of_toNat (b := c) (by omega)]

theorem encodeChar_four (first : 0xF0 ≤ a.toNat ∧ a.toNat ≤ 0xF4)
    (second : (secondRange a.toNat).1 ≤ b.toNat ∧ b.toNat ≤ (secondRange a.toNat).2)
    (third : 0x80 ≤ c.toNat ∧ c.toNat ≤ 0xBF) (fourth : 0x80 ≤ d.toNat ∧ d.toNat ≤ 0xBF) :
    String.utf8EncodeChar (Char.ofNat
        ((((a.toNat - 0xF0) * 64 + (b.toNat - 0x80)) * 64 + (c.toNat - 0x80)) * 64 +
          (d.toNat - 0x80))) =
      [a, b, c, d] := by
  have bounds := within_secondRange second
  have valid : ((((a.toNat - 0xF0) * 64 + (b.toNat - 0x80)) * 64 + (c.toNat - 0x80)) * 64 +
      (d.toNat - 0x80)).isValidChar := by
    rw [Nat.isValidChar]
    omega
  rw [String.utf8EncodeChar, toNat_val_ofNat valid, if_neg (by omega), if_neg (by omega),
    if_neg (by omega), ofNat_of_toNat (b := a) (by omega), ofNat_of_toNat (b := b) (by omega),
    ofNat_of_toNat (b := c) (by omega), ofNat_of_toNat (b := d) (by omega)]

end Encoded

theorem tailLength_cases {first tail : Nat} (starts : tailLength first = some tail) :
    (tail = 0 ∧ first < 0x80) ∨ (tail = 1 ∧ 0xC2 ≤ first ∧ first ≤ 0xDF) ∨
      (tail = 2 ∧ 0xE0 ≤ first ∧ first ≤ 0xEF) ∨ (tail = 3 ∧ 0xF0 ≤ first ∧ first ≤ 0xF4) := by
  grind [tailLength]

section ReadTail

variable {count code : Nat} {range : Nat × Nat} {bytes after : List UInt8} {c : Char}

theorem readTail_last (read : readTail 0 range code bytes = .character c after) :
    Char.ofNat code = c ∧ bytes = after :=
  Front.character.inj read

theorem readTail_further (read : readTail (count + 1) range code bytes = .character c after) :
    ∃ b rest, bytes = b :: rest ∧ (range.1 ≤ b.toNat ∧ b.toNat ≤ range.2) ∧
      readTail count (0x80, 0xBF) (code * 64 + (b.toNat - 0x80)) rest = .character c after := by
  cases bytes with
  | nil => cases read
  | cons b rest =>
      rw [readTail] at read
      split at read
      · next fits => exact ⟨b, rest, rfl, by simpa using fits, read⟩
      · cases read

end ReadTail

theorem cons_of_front {first : UInt8} {rest after : List UInt8} {c : Char}
    (read : front first rest = .character c after) :
    first :: rest = String.utf8EncodeChar c ++ after := by
  rw [front] at read
  cases starts : tailLength first.toNat with
  | none => simp [starts] at read
  | some tail =>
      rw [starts] at read
      obtain ⟨rfl, one⟩ | ⟨rfl, two⟩ | ⟨rfl, three⟩ | ⟨rfl, four⟩ := tailLength_cases starts
      · obtain ⟨rfl, rfl⟩ := readTail_last read
        exact congrArg (· ++ rest) (encodeChar_one one).symm
      · obtain ⟨b, rest, rfl, second, read⟩ := readTail_further read
        obtain ⟨rfl, rfl⟩ := readTail_last read
        exact congrArg (· ++ rest) (encodeChar_two two second).symm
      · obtain ⟨b, rest, rfl, second, read⟩ := readTail_further read
        obtain ⟨c, rest, rfl, third, read⟩ := readTail_further read
        obtain ⟨rfl, rfl⟩ := readTail_last read
        exact congrArg (· ++ rest) (encodeChar_three three second third).symm
      · obtain ⟨b, rest, rfl, second, read⟩ := readTail_further read
        obtain ⟨c, rest, rfl, third, read⟩ := readTail_further read
        obtain ⟨d, rest, rfl, fourth, read⟩ := readTail_further read
        obtain ⟨rfl, rfl⟩ := readTail_last read
        exact congrArg (· ++ rest) (encodeChar_four four second third fourth).symm

/-- Bytes that are read as characters throughout are the encoding of these. -/
theorem encode_of_scan {bytes : List UInt8} {cs : List Char} (read : scan bytes = cs.map some) :
    encode (String.ofList cs) = bytes := by
  rw [encode_ofList]
  induction cs generalizing bytes with
  | nil =>
      cases bytes with
      | nil => rfl
      | cons b rest => simp [scan] at read
  | cons c cs ih =>
      cases bytes with
      | nil => simp [scan] at read
      | cons b rest =>
          rw [scan, List.map_cons] at read
          obtain ⟨head, tail⟩ := List.cons.inj read
          cases begins : front b rest with
          | broken after => simp [begins] at head
          | character d after =>
              rw [begins] at head tail
              cases head
              rw [List.flatMap_cons, ih tail, cons_of_front begins]
              rfl

theorem encode_decodeLossy {bytes : List UInt8} (whole : none ∉ scan bytes) :
    encode (String.ofList (decodeLossy bytes)) = bytes := by
  apply encode_of_scan
  rw [decodeLossy, List.map_map]
  refine (List.map_id (scan bytes)).symm.trans (List.map_congr_left fun part member => ?_)
  cases part with
  | none => exact absurd member whole
  | some c => rfl

theorem replacement_mem_decodeLossy {bytes : List UInt8} (broken : ¬ ∃ s, encode s = bytes) :
    '\uFFFD' ∈ decodeLossy bytes := by
  by_cases lost : none ∈ scan bytes
  · exact List.mem_map.mpr ⟨none, lost, rfl⟩
  · exact absurd ⟨_, encode_decodeLossy lost⟩ broken

end ImageStock.Text.Utf8
