import ImageStock.Proofs.FileTree
import ImageStock.Proofs.Text.Blank

/-! Path names of the files in a directory. Main statement: such a path name leads to a place
exactly where that of the directory leads to a directory, as long as it is not too long for a
path name. -/

namespace ImageStock

namespace Path

theorem isPrefix_append_separator_iff {front stem rest : List Char} {sep : Char}
    (plain : sep ∉ front) : front <+: stem ++ sep :: rest ↔ front <+: stem := by
  refine ⟨?_, fun begins => begins.trans (List.prefix_append _ _)⟩
  intro begins
  rcases List.prefix_or_prefix_of_prefix begins (List.prefix_append stem _) with short | ⟨more, rfl⟩
  · exact short
  · rw [List.prefix_append_right_inj] at begins
    cases more with
    | nil => simp
    | cons c more =>
        rw [List.cons_prefix_cons] at begins
        exact absurd (by simp [begins.1]) plain

theorem names_of_plain {name : String} (plain : '/' ∉ name.toList) : names name = [name] := by
  have last : Text.splitOn (· == '/') name.toList = [name.toList] := by
    apply Text.splitOn_of_inside
    intro c member
    exact beq_false_of_ne (ne_of_mem_of_not_mem member plain)
  rw [names, last, List.map_singleton, String.ofList_toList]

theorem names_append {name : String} (plain : '/' ∉ name.toList) (stem : List Char) :
    names (String.ofList (stem ++ '/' :: name.toList)) = names (String.ofList stem) ++ [name] := by
  rw [← names_of_plain plain]
  simp only [names, String.toList_ofList]
  rw [Text.splitOn_append_separator (by simp), List.map_append]

theorem endsWith_slash_iff {s : String} : s.endsWith "/" = true ↔ ['/'] <:+ s.toList := by
  rw [String.endsWith_eq_endsWith_toSlice, String.Slice.endsWith_string_iff]
  simp

theorem join_stem {root path name : String} (relative : isAbsolute root name = false)
    (given : path ≠ "") :
    ∃ stem, (stem ≠ [] ∧ path = String.ofList stem ∨ path = String.ofList (stem ++ ['/'])) ∧
      join root path name = String.ofList (stem ++ '/' :: name.toList) := by
  rw [join, if_neg (by simp [relative, given])]
  by_cases ended : path.endsWith "/" = true
  · obtain ⟨stem, whole⟩ := endsWith_slash_iff.mp ended
    refine ⟨stem, .inr ?_, ?_⟩
    · rw [whole, String.ofList_toList]
    · rw [if_pos ended]
      apply String.toList_inj.mp
      rw [String.toList_append, ← whole, String.toList_ofList, List.append_assoc,
        List.singleton_append]
  · refine ⟨path.toList, .inl ⟨?_, String.ofList_toList.symm⟩, ?_⟩
    · exact mt String.toList_eq_nil_iff.mp given
    · rw [if_neg ended]
      apply String.toList_inj.mp
      simp

end Path

namespace FileTree

variable {t : FileTree} {dir start k l : Location} {names : List String}

theorem origin_ofList (t : FileTree) (dir : Location) (cs : List Char) :
    t.origin dir (String.ofList cs) =
      if t.root ≠ "" ∧ t.root.toList <+: cs then
        ([], Path.names (String.ofList (cs.drop t.root.length)))
      else if ['/'] <+: cs then (t.above, Path.names (String.ofList cs))
      else (dir, Path.names (String.ofList cs)) := by
  simp only [origin, String.startsWith_string_iff, String.toList_ofList]
  rfl

theorem origin_stem (slash : '/' ∉ t.root.toList) (dir : Location) (stem : List Char) :
    ∃ start front, front ≠ [] ∧
      (stem ≠ [] → t.origin dir (String.ofList stem) = (start, front)) ∧
      ∀ name : String, '/' ∉ name.toList →
        t.origin dir (String.ofList (stem ++ '/' :: name.toList)) = (start, front ++ [name]) := by
  have rootless (rest : List Char) : t.root.toList <+: stem ++ '/' :: rest ↔
      t.root.toList <+: stem := Path.isPrefix_append_separator_iff slash
  by_cases rooted : t.root ≠ "" ∧ t.root.toList <+: stem
  · refine ⟨[], Path.names (String.ofList (stem.drop t.root.length)), Path.names_ne_nil _, ?_, ?_⟩
    · intro _
      rw [origin_ofList, if_pos rooted]
    · intro name plain
      have length : t.root.length ≤ stem.length := rooted.2.length_le
      simp only [origin_ofList, rootless]
      rw [if_pos rooted, List.drop_append_of_le_length length, Path.names_append plain]
  · refine ⟨if ['/'] <+: stem ++ ['/'] then t.above else dir,
      Path.names (String.ofList stem), Path.names_ne_nil _, ?_, ?_⟩
    · intro given
      have first : ['/'] <+: stem ++ ['/'] ↔ ['/'] <+: stem := by
        cases stem with
        | nil => exact absurd rfl given
        | cons c stem => simp
      simp only [origin_ofList, first]
      rw [if_neg rooted]
      split <;> rfl
    · intro name plain
      have first : ['/'] <+: stem ++ '/' :: name.toList ↔ ['/'] <+: stem ++ ['/'] := by
        cases stem <;> simp
      simp only [origin_ofList, rootless, first]
      rw [if_neg rooted, Path.names_append plain]
      split <;> rfl

theorem follow_of_names {path name : String} {front : List String}
    (way : t.origin dir path = (start, front ++ [name])) :
    t.follow dir path = front.foldlM t.enter start >>= fun parent => t.step parent name := by
  rw [follow, way]
  simp

theorem locate_directory_iff {path : String} (way : t.origin dir path = (start, names)) :
    t.locate dir path = .ok k ∧ t.lookup k = some .directory ↔
      PathName path ∧ names.foldlM t.enter start = .ok k := by
  have named : names ≠ [] := by
    have := t.origin_names_ne_nil dir path
    rwa [way] at this
  obtain ⟨front, last, rfl⟩ := List.eq_nil_or_concat names |>.resolve_left named
  rw [List.concat_eq_append] at way ⊢
  have entered : (front ++ [last]).foldlM t.enter start = .ok k ↔
      t.follow dir path = .ok k ∧ t.lookup k = some .directory := by
    rw [follow_of_names way, List.foldlM_append, bind_eq_ok, bind_eq_ok]
    simp only [List.foldlM_cons, List.foldlM_nil, bind_pure, enter_eq_ok_iff]
    exact ⟨fun ⟨a, reached, stepped, found⟩ => ⟨⟨a, reached, stepped⟩, found⟩,
      fun ⟨⟨a, reached, stepped⟩, found⟩ => ⟨a, reached, stepped, found⟩⟩
  rw [locate_eq_ok_iff, entered, and_assoc]

theorem lookup_of_foldlM_enter {front : List String} (named : front ≠ [])
    (entered : front.foldlM t.enter start = .ok k) : t.lookup k = some .directory := by
  obtain ⟨before, last, rfl⟩ := List.eq_nil_or_concat front |>.resolve_left named
  rw [List.concat_eq_append, List.foldlM_append, bind_eq_ok] at entered
  obtain ⟨a, -, stepped⟩ := entered
  simp only [List.foldlM_cons, List.foldlM_nil, bind_pure] at stepped
  exact (enter_eq_ok_iff.mp stepped).2

theorem foldlM_enter_slash {front : List String} (named : front ≠ []) :
    (front ++ [""]).foldlM t.enter start = .ok k ↔ front.foldlM t.enter start = .ok k := by
  rw [List.foldlM_append, bind_eq_ok]
  simp only [List.foldlM_cons, List.foldlM_nil, bind_pure, enter_eq_ok_iff]
  have stay (a : Location) : t.step a "" = .ok a := rfl
  constructor
  · rintro ⟨a, entered, stepped, -⟩
    rw [stay] at stepped
    cases stepped
    exact entered
  · intro entered
    exact ⟨k, entered, stay k, lookup_of_foldlM_enter named entered⟩

structure FileName (name : String) : Prop where
  nonempty : name ≠ ""
  own : name ≠ "." ∧ name ≠ ".."
  text : '\x00' ∉ name.toList
  plain : '/' ∉ name.toList
  short : name.utf8ByteSize ≤ nameLimit

/-- Path names of the top are not mistaken for others: its name has no slash in it, and does not
begin the name of the file. -/
structure Apart (t : FileTree) (name : String) : Prop where
  slash : '/' ∉ t.root.toList
  other : t.root = "" ∨ ¬ name.startsWith t.root

theorem step_fileName {name : String} (file : FileName name) (parent : Location) :
    t.step parent name = .ok (parent ++ [name]) := by
  rw [step, if_neg (not_or.mpr ⟨file.nonempty, file.own.1⟩), if_neg file.own.2,
    if_neg (Nat.not_lt.mpr file.short)]

theorem Apart.relative {name : String} (file : FileName name) (apart : t.Apart name) :
    Path.isAbsolute t.root name = false := by
  have slash : ¬ name.startsWith "/" = true := by
    rw [String.startsWith_string_iff]
    intro begins
    exact file.plain (begins.subset (by simp))
  rw [Path.isAbsolute, Bool.or_eq_false_iff, Bool.and_eq_false_iff]
  refine ⟨Bool.eq_false_iff.mpr slash, ?_⟩
  rcases apart.other with nameless | other
  · exact .inl (by simp [nameless])
  · exact .inr (Bool.eq_false_iff.mpr other)

theorem locate_fileName_iff {path name : String} {front : List String} (file : FileName name)
    (way : t.origin dir path = (start, front ++ [name])) :
    t.locate dir path = .ok l ↔
      PathName path ∧ ∃ k, front.foldlM t.enter start = .ok k ∧ l = k ++ [name] := by
  rw [locate_eq_ok_iff, follow_of_names way, bind_eq_ok]
  simp only [step_fileName file, Except.ok.injEq, eq_comm]

theorem pathName_append_iff {front back : String} (cut : front ≠ "") (text : '\x00' ∉ back.toList) :
    PathName (front ++ back) ↔ PathName front ∧ (front ++ back).utf8ByteSize ≤ pathLimit := by
  constructor
  · intro whole
    have parts := whole.text
    have short := whole.short
    rw [String.toList_append, List.mem_append, not_or] at parts
    rw [String.utf8ByteSize_append] at short
    exact ⟨⟨cut, parts.1, le_trans (Nat.le_add_right _ _) short⟩, whole.short⟩
  · rintro ⟨first, short⟩
    refine ⟨by simp [cut], ?_, short⟩
    rw [String.toList_append, List.mem_append, not_or]
    exact ⟨first.text, text⟩

theorem pathName_join_iff {root path name : String} (file : FileName name)
    (relative : Path.isAbsolute root name = false) (given : path ≠ "") :
    PathName (Path.join root path name) ↔
      PathName path ∧ (Path.join root path name).utf8ByteSize ≤ pathLimit := by
  rw [Path.join, if_neg (by simp [relative, given])]
  split
  · exact pathName_append_iff given file.text
  · rw [String.append_assoc]
    exact pathName_append_iff given (by simpa using file.text)

theorem locate_fileName {name : String} (file : FileName name) (apart : t.Apart name)
    (dir : Location) : t.locate dir name = .ok (dir ++ [name]) := by
  have short : name.utf8ByteSize ≤ pathLimit := le_trans file.short (by decide)
  have begins : ¬ ['/'] <+: name.toList := fun slash => file.plain (slash.subset (by simp))
  have rooted : ¬ (t.root ≠ "" ∧ t.root.toList <+: name.toList) := by
    rw [← String.startsWith_string_iff]
    rintro ⟨rooted, begins⟩
    exact apart.other.elim rooted (absurd begins)
  have way : t.origin dir name = (dir, [] ++ [name]) := by
    rw [← name.ofList_toList, origin_ofList, if_neg rooted, if_neg begins, name.ofList_toList,
      Path.names_of_plain file.plain]
    rfl
  exact (locate_fileName_iff file way).mpr ⟨⟨file.nonempty, file.text, short⟩, dir, rfl, rfl⟩

/-- A path name leads to a directory; where none is given, this is the one that path names start
from. -/
def LeadsToDirectory (t : FileTree) (dir : Location) (path : String) (k : Location) : Prop :=
  path = "" ∧ k = dir ∨ t.locate dir path = .ok k ∧ t.lookup k = some .directory

theorem exists_leadsToDirectory_iff {path : String} :
    (∃ k, t.LeadsToDirectory dir path k) ↔ path = "" ∨ t.find dir path = .ok .directory := by
  simp only [LeadsToDirectory, find_eq_ok_iff, exists_or, exists_and_left, exists_eq, and_true]

theorem leadsToDirectory_nil : t.LeadsToDirectory dir "" k ↔ k = dir := by
  have nowhere : ¬ (t.locate dir "" = .ok k ∧ t.lookup k = some .directory) := by
    rintro ⟨located, -⟩
    exact (locate_eq_ok_iff.mp located).1.nonempty rfl
  rw [LeadsToDirectory, or_iff_left nowhere, eq_self_iff_true, true_and]

/-- A file name in a directory leads to its place there, as long as both together are short enough
for a path name. -/
theorem locate_join_eq_ok_iff {path name : String} (file : FileName name) (apart : t.Apart name)
    (dir : Location) :
    t.locate dir (Path.join t.root path name) = .ok l ↔
      (∃ k, t.LeadsToDirectory dir path k ∧ l = k ++ [name]) ∧
        (Path.join t.root path name).utf8ByteSize ≤ pathLimit := by
  have relative := apart.relative file
  by_cases nothing : path = ""
  · have joined : Path.join t.root path name = name := by rw [Path.join, if_pos (by simp [nothing])]
    have short : name.utf8ByteSize ≤ pathLimit := le_trans file.short (by decide)
    rw [joined, locate_fileName file apart dir, and_iff_left short]
    simp only [nothing, leadsToDirectory_nil, exists_eq_left, Except.ok.injEq]
    exact eq_comm
  · obtain ⟨stem, ends, joined⟩ := Path.join_stem relative nothing
    obtain ⟨start, front, named, way, onward⟩ := t.origin_stem apart.slash dir stem
    have there (k : Location) : t.LeadsToDirectory dir path k ↔
        PathName path ∧ front.foldlM t.enter start = .ok k := by
      rw [LeadsToDirectory, or_iff_right (fun given => nothing given.1)]
      rcases ends with ⟨whole, rfl⟩ | rfl
      · exact locate_directory_iff (way whole)
      · have slashed : t.origin dir (String.ofList (stem ++ ['/'])) = (start, front ++ [""]) :=
          onward "" (by simp)
        rw [locate_directory_iff slashed, foldlM_enter_slash named]
    have leads := locate_fileName_iff (l := l) file (onward name file.plain)
    rw [← joined, pathName_join_iff file relative nothing] at leads
    simp only [leads, there, and_assoc, exists_and_left]
    exact and_congr_right fun _ => and_comm

/-- A slash at the end of a path name makes no difference, as long as it still is one. -/
theorem LeadsToDirectory.slash {path : String} (leads : t.LeadsToDirectory dir path k)
    (given : path ≠ "") (root : '/' ∉ t.root.toList)
    (short : (path ++ "/").utf8ByteSize ≤ pathLimit) : t.LeadsToDirectory dir (path ++ "/") k := by
  obtain ⟨start, front, named, way, onward⟩ := t.origin_stem root dir path.toList
  have plain := way (mt String.toList_eq_nil_iff.mp given)
  have slashed := onward "" (by simp)
  rw [LeadsToDirectory, or_iff_right (fun nothing => given nothing.1)] at leads
  rw [path.ofList_toList] at plain
  obtain ⟨pathName, entered⟩ := (locate_directory_iff plain).mp leads
  have spelled : String.ofList (path.toList ++ '/' :: "".toList) = path ++ "/" := by
    apply String.toList_inj.mp
    simp
  rw [spelled] at slashed
  right
  rw [locate_directory_iff slashed, foldlM_enter_slash named]
  exact ⟨(pathName_append_iff given (by decide)).mpr ⟨pathName, short⟩, entered⟩

end FileTree

end ImageStock
