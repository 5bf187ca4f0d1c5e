import ImageStock.Proofs.Result
import ImageStock.Toml.Document

/-! Documents that are read part by part: what an open table, a section and a list of tables mean
once they are closed. Places in the text do not matter for that. -/

namespace ImageStock.Toml

theorem entryValues_append (first second : Entries) :
    entryValues (first ++ second) = entryValues first ++ entryValues second := by
  induction first with
  | nil => rw [List.nil_append, entryValues, List.nil_append]
  | cons head tail ih =>
      obtain ⟨key, node⟩ := head
      rw [List.cons_append, entryValues, entryValues, ih, List.cons_append]

theorem itemValues_append (first second : List Node) :
    itemValues (first ++ second) = itemValues first ++ itemValues second := by
  induction first with
  | nil => rw [List.nil_append, itemValues, List.nil_append]
  | cons head tail ih => rw [List.cons_append, itemValues, itemValues, ih, List.cons_append]

theorem entryValues_singleton (key : Key) (node : Node) :
    entryValues [(key, node)] = [(key.name, node.toValue)] := by
  rw [entryValues, entryValues]

theorem map_fst_entryValues (entries : Entries) :
    (entryValues entries).map (·.1) = entries.map (·.1.name) := by
  induction entries with
  | nil => rw [entryValues, List.map_nil, List.map_nil]
  | cons head tail ih =>
      obtain ⟨key, node⟩ := head
      rw [entryValues, List.map_cons, List.map_cons, ih]

def Table.Lacks (table : Table) (name : String) : Prop := name ∉ table.map (·.1)

theorem lacks_append {first second : Table} {name : String} (left : first.Lacks name)
    (right : second.Lacks name) : Table.Lacks (first ++ second) name := by
  rw [Table.Lacks, List.map_append, List.mem_append, not_or]
  exact ⟨left, right⟩

theorem lacks_singleton {key name : String} (other : name ≠ key) (value : Value) :
    Table.Lacks [(key, value)] name := fun member => other (List.mem_singleton.mp member)

namespace Entries

variable {before within : Entries} {key : Key}

theorem name_ne (lacks : Table.Lacks (entryValues before) key.name) (entry : Key × Node)
    (member : entry ∈ before) : entry.1.name ≠ key.name := by
  intro same
  rw [Table.Lacks, map_fst_entryValues] at lacks
  exact lacks (List.mem_map.mpr ⟨entry, member, same⟩)

theorem get?_of_lacks (lacks : Table.Lacks (entryValues before) key.name) :
    get? before key.name = none := by
  rw [get?, List.find?_eq_none.mpr, Option.map_none]
  intro entry member
  rw [decide_eq_true_eq]
  exact name_ne lacks entry member

theorem get?_last (lacks : Table.Lacks (entryValues before) key.name) (node : Node) :
    get? (before ++ [(key, node)]) key.name = some node := by
  have absent : before.find? (·.1.name = key.name) = none := by
    have none := get?_of_lacks lacks
    rwa [get?, Option.map_eq_none_iff] at none
  rw [get?, List.find?_append, absent, Option.none_or, List.find?_cons_of_pos (by simp),
    Option.map_some]

theorem replace_last (lacks : Table.Lacks (entryValues before) key.name) (node other : Node) :
    replace (before ++ [(key, node)]) key.name other = before ++ [(key, other)] := by
  have same : before.map
      (fun entry => if entry.1.name = key.name then (entry.1, other) else entry) = before := by
    conv => rhs; rw [← List.map_id before]
    refine List.map_congr_left fun entry member => ?_
    rw [if_neg (name_ne lacks entry member), id]
  rw [replace, List.map_append, same]
  show before ++ [if key.name = key.name then (key, other) else (key, node)] = _
  rw [if_pos rfl]

theorem descend_fresh {β : Type} (lacks : Table.Lacks (entryValues before) key.name)
    (change : Form → Entries → Except Clash (Entries × β)) :
    descend false false [] .header before [key] change =
      (change .implied []).map fun (inner, result) =>
        (before ++ [(key, .table .implied inner none)], result) := by
  rw [descend, get?_of_lacks lacks]
  simp only [Bool.false_eq_true, ↓reduceIte, descend]
  cases change .implied [] <;> rfl

theorem descend_last {β : Type} {form : Form} {span : Option Span} {name : Key}
    (same : name.name = key.name) (lacks : Table.Lacks (entryValues before) key.name)
    (unbraced : form.isBraced = false)
    (change : Form → Entries → Except Clash (Entries × β)) :
    descend false false [] .header (before ++ [(key, .table form within span)]) [name] change =
      (change form within).map fun (inner, result) =>
        (before ++ [(key, .table form inner span)], result) := by
  rw [descend, same, get?_last lacks]
  simp only [unbraced, Bool.false_and, Bool.false_eq_true, ↓reduceIte, descend]
  cases change form within with
  | error clash => rfl
  | ok changed =>
      show Except.ok (replace _ key.name _, changed.2) = _
      rw [replace_last lacks]
      rfl

theorem insert_fresh (lacks : Table.Lacks (entryValues before) key.name)
    (owner : Option (List String)) (node : Node) :
    insert false owner .header before [] key node = .ok (before ++ [(key, node)]) := by
  rw [insert, descend, get?_of_lacks lacks]
  rfl

end Entries

/-- The entries of a document that ends in the section `outer`, and this one in the tables that
`inner` has there. -/
structure Listing where
  before : Entries
  outer : Key
  form : Form
  unbraced : form.isBraced = false
  within : Entries
  inner : Key
  items : List Node
  place : Option Span
  span : Option Span
  outerFresh : Table.Lacks (entryValues before) outer.name
  innerFresh : Table.Lacks (entryValues within) inner.name

namespace Listing

def table (l : Listing) : Node :=
  .table l.form (l.within ++ [(l.inner, .tables l.items l.place)]) l.span

def entries (l : Listing) : Entries := l.before ++ [(l.outer, l.table)]

def push (l : Listing) (table : Node) : Listing :=
  { l with items := l.items ++ [table], place := Draft.stretch (l.items ++ [table]) }

def values (l : Listing) : Table :=
  entryValues l.within ++ [(l.inner.name, .array (itemValues l.items))]

theorem entryValues_entries (l : Listing) :
    entryValues l.entries = entryValues l.before ++ [(l.outer.name, .table l.values)] := by
  rw [entries, entryValues_append, entryValues_singleton, table, Node.toValue,
    entryValues_append, entryValues_singleton, Node.toValue, values]

/-- What a list of tables means: what stands before its section, what the section has before the
list, and the tables. -/
structure Means (outer inner : String) (before within : Table) (items : List Value)
    (l : Listing) : Prop where
  outer : l.outer.name = outer
  inner : l.inner.name = inner
  before : entryValues l.before = before
  within : entryValues l.within = within
  items : itemValues l.items = items

section Means

variable {outer inner : String} {before within : Table} {items : List Value} {l : Listing}

theorem Means.push (means : l.Means outer inner before within items) (node : Node) :
    (l.push node).Means outer inner before within (items ++ [node.toValue]) where
  outer := means.outer
  inner := means.inner
  before := means.before
  within := means.within
  items := by
    rw [Listing.push, itemValues_append, means.items, itemValues, itemValues]

theorem Means.entries (means : l.Means outer inner before within items) :
    entryValues l.entries = before ++ [(outer, .table (within ++ [(inner, .array items)]))] := by
  rw [l.entryValues_entries, values, means.outer, means.inner, means.before, means.within,
    means.items]

end Means

def opened (l : Listing) (outer inner : Key) (span : Span) : Draft :=
  { finished := l.entries, header := [outer, inner], repeated := true, span := some span }

end Listing

namespace Draft

variable {d : Draft} {l : Listing} {outer inner : Key}

theorem atParent_pair {β : Type} (finished : Entries)
    (change : Entries → Except Clash (Entries × β)) :
    atParent finished [outer, inner] change =
      finished.descend false false [] .header [outer] fun _ entries => change entries := rfl

theorem close_top (top : d.header = []) : d.close = .ok d.entries := by
  rw [close, top]
  rfl

theorem close_section (header : d.header = [outer]) (single : d.repeated = false) :
    d.close = .ok (d.finished ++ [(outer, .table .header d.entries d.span)]) := by
  rw [close, header]
  simp only [single, atParent]
  rfl

theorem close_listing (finished : d.finished = l.entries) (header : d.header = [outer, inner])
    (repeated : d.repeated = true) (outerName : outer.name = l.outer.name)
    (innerName : inner.name = l.inner.name) :
    d.close = .ok (l.push (.table .header d.entries d.span)).entries := by
  have found := Entries.get?_last l.innerFresh (.tables l.items l.place)
  have replaced := Entries.replace_last l.innerFresh (.tables l.items l.place)
  have last : [outer, inner].getLast? = some inner := rfl
  rw [close, header, last, finished, repeated]
  simp only [atParent_pair]
  rw [Listing.entries, Listing.table, Entries.descend_last outerName l.outerFresh l.unbraced]
  simp only [↓reduceIte, innerName, found, replaced]
  rfl

theorem openTable_fresh (outer : Key) {closed : Entries} (closes : d.close = .ok closed)
    (lacks : Table.Lacks (entryValues closed) outer.name) (span : Span) :
    d.openTable [outer] outer span =
      .ok { finished := closed, header := [outer], span := some span } := by
  have absent := Entries.get?_of_lacks lacks
  have parent {β : Type} (change : Entries → Except Clash (Entries × β)) :
      atParent closed [outer] change = change closed := by
    rw [atParent, List.dropLast_singleton, Entries.descend]
  rw [openTable, closes, ok_bind, parent, absent]
  rfl

theorem openRepeated_fresh (outer inner : Key) {closed : Entries} (closes : d.close = .ok closed)
    (lacks : Table.Lacks (entryValues closed) outer.name) (span : Span) :
    ∃ l : Listing, l.Means outer.name inner.name (entryValues closed) [] [] ∧
      d.openRepeated [outer, inner] inner span = .ok (l.opened outer inner span) := by
  have nothing : entryValues [] = [] := by rw [entryValues]
  have noItems : itemValues [] = [] := by rw [itemValues]
  refine ⟨⟨closed, outer, .implied, rfl, [], inner, [], none, none, lacks, ?_⟩,
    ⟨rfl, rfl, rfl, nothing, noItems⟩, ?_⟩
  · rw [nothing]
    exact List.not_mem_nil
  · rw [openRepeated, closes, ok_bind, atParent_pair, Entries.descend_fresh lacks]
    rfl

theorem openRepeated_section (outer inner : Key) {before within : Entries} {key : Key}
    {place : Option Span}
    (closes : d.close = .ok (before ++ [(key, .table .header within place)]))
    (outerLacks : Table.Lacks (entryValues before) key.name) (outerName : outer.name = key.name)
    (innerLacks : Table.Lacks (entryValues within) inner.name) (span : Span) :
    ∃ l : Listing,
      l.Means outer.name inner.name (entryValues before) (entryValues within) [] ∧
      d.openRepeated [outer, inner] inner span = .ok (l.opened outer inner span) := by
  have noItems : itemValues [] = [] := by rw [itemValues]
  refine ⟨⟨before, key, .header, rfl, within, inner, [], none, place, outerLacks, innerLacks⟩,
    ⟨outerName.symm, rfl, rfl, rfl, noItems⟩, ?_⟩
  have absent := Entries.get?_of_lacks innerLacks
  rw [openRepeated, closes, ok_bind, atParent_pair,
    Entries.descend_last outerName outerLacks rfl]
  simp only [absent]
  rfl

theorem openRepeated_listing (closes : d.close = .ok l.entries)
    (outerName : outer.name = l.outer.name) (innerName : inner.name = l.inner.name)
    (span : Span) :
    d.openRepeated [outer, inner] inner span = .ok (l.opened outer inner span) := by
  have found := Entries.get?_last l.innerFresh (.tables l.items l.place)
  rw [openRepeated, closes, ok_bind, atParent_pair, Listing.entries, Listing.table,
    Entries.descend_last outerName l.outerFresh l.unbraced]
  simp only [innerName, found]
  rfl

end Draft

abbrev Place := Entries → List Key → Bool → Prop

/-- A draft is at a place, and its open table means `table`. -/
structure Draft.Holds (place : Place) (table : Table) (d : Draft) : Prop where
  place : place d.finished d.header d.repeated
  entries : entryValues d.entries = table

/-- A draft means `table` as it stands. -/
def Draft.Closes (table : Table) (d : Draft) : Prop :=
  ∃ closed, d.close = .ok closed ∧ entryValues closed = table

def atTop : Place := fun _ header _ => header = []

def atSection (before : Table) (name : String) : Place := fun finished header repeated =>
  entryValues finished = before ∧ (∃ key : Key, header = [key] ∧ key.name = name) ∧
    repeated = false

section Lists

variable {name outer inner : String} {before within table : Table} {items : List Value} {d : Draft}

def atList (outer inner : String) (before within : Table) (items : List Value) : Place :=
  fun finished header repeated =>
    ∃ l : Listing, l.Means outer inner before within items ∧ finished = l.entries ∧
      (∃ key key' : Key, header = [key, key'] ∧ key.name = outer ∧ key'.name = inner) ∧
      repeated = true

def Draft.Lists (outer inner : String) (before within : Table) (items : List Value)
    (d : Draft) : Prop :=
  ∀ place place' span : Span, ∃ l : Listing, l.Means outer inner before within items ∧
    d.openRepeated [⟨outer, place⟩, ⟨inner, place'⟩] ⟨inner, place'⟩ span =
      .ok (l.opened ⟨outer, place⟩ ⟨inner, place'⟩ span)

theorem closes_top (holds : d.Holds atTop table) : d.Closes table :=
  ⟨d.entries, d.close_top holds.place, holds.entries⟩

theorem closes_section (holds : d.Holds (atSection before name) table) :
    d.Closes (before ++ [(name, .table table)]) := by
  obtain ⟨⟨finished, ⟨key, header, rfl⟩, single⟩, entries⟩ := holds
  refine ⟨_, d.close_section header single, ?_⟩
  rw [entryValues_append, entryValues_singleton, Node.toValue, finished, entries]

theorem close_list (holds : d.Holds (atList outer inner before within items) table) :
    ∃ l : Listing, d.close = .ok l.entries ∧
      l.Means outer inner before within (items ++ [.table table]) := by
  obtain ⟨⟨l, means, finished, ⟨key, key', header, outerName, innerName⟩, repeated⟩, entries⟩ :=
    holds
  have closed := d.close_listing finished header repeated (outerName.trans means.outer.symm)
    (innerName.trans means.inner.symm)
  have pushed := means.push (.table .header d.entries d.span)
  rw [Node.toValue, entries] at pushed
  exact ⟨_, closed, pushed⟩

theorem closes_list (holds : d.Holds (atList outer inner before within items) table) :
    d.Closes (before ++
      [(outer, .table (within ++ [(inner, .array (items ++ [.table table]))]))]) := by
  obtain ⟨l, closed, means⟩ := close_list holds
  exact ⟨l.entries, closed, means.entries⟩

theorem lists_fresh (closes : d.Closes before) (lacks : before.Lacks outer) :
    d.Lists outer inner before [] [] := by
  obtain ⟨closed, closes, rfl⟩ := closes
  intro place place' span
  exact d.openRepeated_fresh ⟨outer, place⟩ ⟨inner, place'⟩ closes lacks span

theorem lists_section (holds : d.Holds (atSection before outer) within)
    (outerLacks : before.Lacks outer) (innerLacks : within.Lacks inner) :
    d.Lists outer inner before within [] := by
  obtain ⟨⟨rfl, ⟨key, header, rfl⟩, single⟩, rfl⟩ := holds
  intro place place' span
  exact Draft.openRepeated_section ⟨key.name, place⟩ ⟨inner, place'⟩
    (d.close_section header single) outerLacks rfl innerLacks span

theorem lists_list (holds : d.Holds (atList outer inner before within items) table) :
    d.Lists outer inner before within (items ++ [.table table]) := by
  obtain ⟨l, closed, means⟩ := close_list holds
  intro place place' span
  exact ⟨l, means, Draft.openRepeated_listing closed means.outer.symm means.inner.symm span⟩

end Lists

end ImageStock.Toml
