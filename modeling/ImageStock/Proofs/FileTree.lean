import ImageStock.FileTree
import ImageStock.Proofs.Result

/-! File trees after a write, and file trees that agree in part. Main statements: a write changes no
way to a place, what is written is read again under the same path name, and a write succeeds
wherever no directory stands; what a path name leads to depends on the places on its way alone. -/

namespace ImageStock

theorem Path.names_ne_nil (path : String) : names path ≠ [] :=
  mt List.map_eq_nil_iff.mp (Text.splitOn_ne_nil _ _)

theorem Text.utf8ByteSize_replicate {c : Char} (narrow : c.utf8Size = 1) (n : Nat) :
    (String.ofList (List.replicate n c)).utf8ByteSize = n := by
  induction n with
  | zero => rfl
  | succ n ih =>
      rw [List.replicate_succ, String.ofList_cons, String.utf8ByteSize_append, ih,
        String.utf8ByteSize_singleton, narrow, Nat.add_comm]

namespace FileTree

variable {t t' : FileTree} {l k dir : Location} {node : FileNode} {path : String}
  {content : List UInt8}

theorem lookup_set_self (free : t.lookup l ≠ some .directory) :
    (t.set l node).lookup l = some node := by
  have named : ¬ (l = [] ∨ l = t.above) := by
    intro top
    rw [lookup, if_pos top] at free
    exact free rfl
  have same : (t.set l node).above = t.above := rfl
  rw [lookup, same, if_neg named, set, List.lookup_cons_self]

theorem lookup_filter_other {β : Type} (nodes : List (Location × β)) (different : k ≠ l) :
    (nodes.filter (·.1 ≠ l)).lookup k = nodes.lookup k := by
  induction nodes with
  | nil => rfl
  | cons head tail ih =>
      obtain ⟨place, found⟩ := head
      by_cases removed : place = l
      · have other : (k == place) = false := beq_eq_false_iff_ne.mpr (removed ▸ different)
        rw [List.filter_cons_of_neg (by simpa using removed), List.lookup_cons, other, ih]
      · rw [List.filter_cons_of_pos (by simpa using removed), List.lookup_cons, List.lookup_cons,
          ih]

theorem lookup_set_other (different : k ≠ l) : (t.set l node).lookup k = t.lookup k := by
  have same : (t.set l node).above = t.above := rfl
  have other : (k == l) = false := beq_eq_false_iff_ne.mpr different
  rw [lookup, lookup, same, set, List.lookup_cons, other, lookup_filter_other _ different]

theorem enter_eq_ok_iff {name : String} :
    t.enter dir name = .ok k ↔ t.step dir name = .ok k ∧ t.lookup k = some .directory := by
  rw [enter, bind_eq_ok]
  constructor
  · rintro ⟨place, stepped, entered⟩
    split at entered
    · next found =>
        cases entered
        exact ⟨stepped, found⟩
    · cases entered
    · cases entered
  · rintro ⟨stepped, found⟩
    refine ⟨k, stepped, ?_⟩
    rw [found]
    rfl

theorem enter_set {name : String} (free : t.lookup l ≠ some .directory)
    (entered : t.enter dir name = .ok k) : (t.set l node).enter dir name = .ok k := by
  obtain ⟨stepped, found⟩ := enter_eq_ok_iff.mp entered
  have different : k ≠ l := by
    rintro rfl
    exact free found
  exact enter_eq_ok_iff.mpr ⟨stepped, (lookup_set_other different).trans found⟩

theorem foldlM_enter_set (free : t.lookup l ≠ some .directory) (names : List String)
    (entered : names.foldlM t.enter dir = .ok k) :
    names.foldlM (t.set l node).enter dir = .ok k := by
  induction names generalizing dir with
  | nil => exact entered
  | cons name names ih =>
      rw [List.foldlM_cons, bind_eq_ok] at entered ⊢
      obtain ⟨place, first, rest⟩ := entered
      exact ⟨place, enter_set free first, ih rest⟩

def origin (t : FileTree) (dir : Location) (path : String) : Location × List String :=
  if t.root ≠ "" ∧ path.startsWith t.root then
    ([], Path.names (String.ofList (path.toList.drop t.root.length)))
  else if path.startsWith "/" then (t.above, Path.names path)
  else (dir, Path.names path)

def follow (t : FileTree) (dir : Location) (path : String) : Except SystemError Location :=
  (t.origin dir path).2.dropLast.foldlM t.enter (t.origin dir path).1 >>= fun parent =>
    t.step parent ((t.origin dir path).2.getLastD "")

theorem locate_eq (t : FileTree) (dir : Location) (path : String) :
    t.locate dir path =
      if path = "" then .error .notFound
      else if path.toList.contains '\x00' then
        .error (.described "file name contained an unexpected NUL byte")
      else if pathLimit < path.utf8ByteSize then .error .nameTooLong
      else t.follow dir path := by
  rw [locate]
  by_cases empty : path = ""
  · rw [if_pos empty, if_pos empty]
    rfl
  · rw [if_neg empty, if_neg empty]
    by_cases nul : path.toList.contains '\x00' = true
    · rw [if_pos nul]
      simp only [if_pos nul]
      rfl
    · rw [if_neg nul]
      simp only [if_neg nul]
      by_cases long : pathLimit < path.utf8ByteSize
      · rw [if_pos long, if_pos long]
        rfl
      · rw [if_neg long, if_neg long, follow, origin]
        by_cases rooted : t.root ≠ "" ∧ path.startsWith t.root = true
        · rw [if_pos rooted, if_pos rooted]
        · rw [if_neg rooted, if_neg rooted]
          split <;> rfl

/-- What can be a path name at all. -/
structure PathName (path : String) : Prop where
  nonempty : path ≠ ""
  text : '\x00' ∉ path.toList
  short : path.utf8ByteSize ≤ pathLimit

theorem locate_eq_ok_iff :
    t.locate dir path = .ok l ↔ PathName path ∧ t.follow dir path = .ok l := by
  rw [locate_eq]
  by_cases nothing : path = ""
  · rw [if_pos nothing]
    exact ⟨nofun, fun ⟨named, _⟩ => absurd nothing named.nonempty⟩
  · rw [if_neg nothing]
    by_cases nul : '\x00' ∈ path.toList
    · rw [if_pos (List.contains_iff_mem.mpr nul)]
      exact ⟨nofun, fun ⟨named, _⟩ => absurd nul named.text⟩
    · rw [if_neg (mt List.contains_iff_mem.mp nul)]
      by_cases long : pathLimit < path.utf8ByteSize
      · rw [if_pos long]
        exact ⟨nofun, fun ⟨named, _⟩ => absurd named.short (Nat.not_le.mpr long)⟩
      · rw [if_neg long]
        exact ⟨fun reached => ⟨⟨nothing, nul, Nat.not_lt.mp long⟩, reached⟩, And.right⟩

theorem follow_set (free : t.lookup l ≠ some .directory) (reached : t.follow dir path = .ok k) :
    (t.set l node).follow dir path = .ok k := by
  have origin : (t.set l node).origin dir path = t.origin dir path := rfl
  rw [follow, bind_eq_ok] at reached ⊢
  obtain ⟨parent, entered, stepped⟩ := reached
  rw [origin]
  exact ⟨parent, foldlM_enter_set free _ entered, stepped⟩

theorem locate_set (free : t.lookup l ≠ some .directory) (located : t.locate dir path = .ok k) :
    (t.set l node).locate dir path = .ok k := by
  obtain ⟨named, reached⟩ := locate_eq_ok_iff.mp located
  exact locate_eq_ok_iff.mpr ⟨named, follow_set free reached⟩

theorem write_ok (located : t.locate dir path = .ok l) (free : t.lookup l ≠ some .directory)
    (content : List UInt8) :
    ∃ runnable, t.write dir path content = .ok (t.set l (.file content runnable)) := by
  rw [write, located, ok_bind]
  split
  · next found => exact absurd found free
  · exact ⟨_, rfl⟩
  · exact ⟨_, rfl⟩

theorem free_of_write (written : t.write dir path content = .ok t') :
    ∃ l, t.locate dir path = .ok l ∧ t.lookup l ≠ some .directory := by
  obtain ⟨l, located, placed⟩ := bind_eq_ok.mp written
  refine ⟨l, located, ?_⟩
  intro taken
  rw [taken] at placed
  cases placed

def trail (t : FileTree) (dir : Location) : List String → List Location
  | [] => []
  | name :: names =>
    match t.step dir name with
    | .error _ => []
    | .ok l => l :: if t.lookup l = some .directory then t.trail l names else []

/-- The places that are looked at to find what a path name leads to. -/
def visits (t : FileTree) (dir : Location) (path : String) : List Location :=
  t.trail (t.origin dir path).1 (t.origin dir path).2

def nodeAt (t : FileTree) (l : Location) : Except SystemError FileNode :=
  match t.lookup l with
  | some node => .ok node
  | none => .error .notFound

theorem find_eq (t : FileTree) (dir : Location) (path : String) :
    t.find dir path = t.locate dir path >>= t.nodeAt := rfl

theorem find_eq_ok_iff :
    t.find dir path = .ok node ↔ ∃ l, t.locate dir path = .ok l ∧ t.lookup l = some node := by
  rw [find_eq, bind_eq_ok]
  apply exists_congr
  intro l
  rw [nodeAt]
  cases t.lookup l with
  | none => simp
  | some other => simp

theorem origin_congr (root : t.root = t'.root) (dir : Location) (path : String) :
    t.origin dir path = t'.origin dir path := by
  rw [origin, origin, above, above, root]

theorem origin_names_ne_nil (t : FileTree) (dir : Location) (path : String) :
    (t.origin dir path).2 ≠ [] := by
  rw [origin]
  split
  · exact Path.names_ne_nil _
  · split
    · exact Path.names_ne_nil _
    · exact Path.names_ne_nil _

theorem step_congr (root : t.root = t'.root) (dir : Location) (name : String) :
    t.step dir name = t'.step dir name := by
  rw [step, step, above, above, root]

theorem nodeAt_congr (same : t.lookup l = t'.lookup l) : t.nodeAt l = t'.nodeAt l := by
  rw [nodeAt, nodeAt, same]

theorem mem_trail_first {name : String} (stepped : t.step dir name = .ok l) (names : List String) :
    l ∈ t.trail dir (name :: names) := by
  simp only [trail, stepped, List.mem_cons, true_or]

theorem mem_trail_later {name : String} {names : List String} (entered : t.enter dir name = .ok l)
    (later : k ∈ t.trail l names) : k ∈ t.trail dir (name :: names) := by
  obtain ⟨stepped, found⟩ := enter_eq_ok_iff.mp entered
  simp only [trail, stepped, found, ↓reduceIte, List.mem_cons, later, or_true]

theorem find_names_congr (root : t.root = t'.root) (name : String) (names : List String)
    (same : ∀ k ∈ t.trail dir (name :: names), t.lookup k = t'.lookup k) :
    ((name :: names).dropLast.foldlM t.enter dir >>= fun parent =>
      t.step parent ((name :: names).getLastD "") >>= t.nodeAt) =
      (name :: names).dropLast.foldlM t'.enter dir >>= fun parent =>
        t'.step parent ((name :: names).getLastD "") >>= t'.nodeAt := by
  induction names generalizing dir name with
  | nil =>
      show t.step dir name >>= t.nodeAt = t'.step dir name >>= t'.nodeAt
      rw [← step_congr root]
      cases stepped : t.step dir name with
      | error e => rfl
      | ok k => exact nodeAt_congr (same k (mem_trail_first stepped []))
  | cons next names ih =>
      have entered : t.enter dir name = t'.enter dir name := by
        rw [enter, enter, ← step_congr root]
        cases stepped : t.step dir name with
        | error e => rfl
        | ok k => rw [ok_bind, ok_bind, same k (mem_trail_first stepped _)]
      simp only [List.dropLast_cons_cons, List.foldlM_cons, bind_assoc, List.getLastD_cons]
      rw [← entered]
      cases reached : t.enter dir name with
      | error e => rfl
      | ok k =>
          have rest := ih next fun j later => same j (mem_trail_later reached later)
          simp only [List.getLastD_cons] at rest
          exact rest

/-- What a path name leads to depends on the places on its way alone. -/
theorem find_congr (root : t.root = t'.root)
    (same : ∀ k ∈ t.visits dir path, t.lookup k = t'.lookup k) :
    t.find dir path = t'.find dir path := by
  rw [find_eq, find_eq, locate_eq, locate_eq]
  split
  · rfl
  · split
    · rfl
    · split
      · rfl
      · rw [follow, follow, ← origin_congr root, bind_assoc, bind_assoc]
        rw [visits] at same
        cases names : (t.origin dir path).2 with
        | nil => exact absurd names (t.origin_names_ne_nil dir path)
        | cons name others =>
            rw [names] at same
            exact find_names_congr root name others same

end FileTree

end ImageStock
