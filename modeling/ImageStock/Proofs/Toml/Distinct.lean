import Mathlib.Data.List.Nodup
import ImageStock.Proofs.Toml.Draft

/-! Keys of a document. Main statement: the table of a document that can be read has each of its
keys once. -/

namespace ImageStock.Toml

namespace Entries

def Once (entries : Entries) : Prop := (entries.map (·.1.name)).Nodup

variable {entries changed : Entries} {key : Key} {name : String}

theorem get?_eq_none_iff : entries.get? name = none ↔ name ∉ entries.map (·.1.name) := by
  rw [get?, Option.map_eq_none_iff, List.find?_eq_none]
  simp only [decide_eq_true_eq, List.mem_map, not_exists, not_and]

theorem map_name_replace (entries : Entries) (name : String) (node : Node) :
    (entries.replace name node).map (·.1.name) = entries.map (·.1.name) := by
  rw [replace, List.map_map]
  apply List.map_congr_left
  intro entry member
  show (if entry.1.name = name then (entry.1, node) else (entry.1, entry.2)).1.name = _
  split <;> rfl

theorem get?_remove (entries : Entries) (name : String) :
    (entries.remove name).get? name = none := by
  rw [get?_eq_none_iff]
  intro member
  obtain ⟨entry, kept, same⟩ := List.mem_map.mp member
  exact absurd same (by simpa using (List.mem_filter.mp kept).2)

theorem Once.append (once : entries.Once) (absent : entries.get? key.name = none) (node : Node) :
    Once (entries ++ [(key, node)]) := by
  rw [Once, List.map_append, List.nodup_append]
  refine ⟨once, List.nodup_singleton _, ?_⟩
  intro name earlier other last same
  rw [List.map_singleton, List.mem_singleton] at last
  rw [same, last] at earlier
  exact get?_eq_none_iff.mp absent earlier

theorem Once.replace (once : entries.Once) (name : String) (node : Node) :
    (entries.replace name node).Once := by
  rw [Once, map_name_replace]
  exact once

theorem Once.remove (once : entries.Once) (name : String) : (entries.remove name).Once :=
  once.sublist (List.filter_sublist.map _)

/-- Whatever changes the table at the end of a path, the table at its start keeps its names, or gets
one that it did not have. -/
theorem Once.descend {β : Type} {braced dotted : Bool} {before : List String} {form : Form}
    {path : List Key} {change : Form → Entries → Except Clash (Entries × β)} {result : β}
    (once : entries.Once)
    (changes : path = [] → ∀ changed result, change form entries = .ok (changed, result) →
      changed.Once)
    (done : descend braced dotted before form entries path change = .ok (changed, result)) :
    changed.Once := by
  cases path with
  | nil => exact changes rfl changed result done
  | cons key path =>
      rw [Entries.descend] at done
      split at done
      · next absent =>
          obtain ⟨⟨inner, result⟩, -, done⟩ := bind_eq_ok.mp done
          cases done
          exact once.append absent _
      · next form inner span found =>
          split at done
          · cases done
          · split at done
            · cases done
            · obtain ⟨⟨inner, result⟩, -, done⟩ := bind_eq_ok.mp done
              cases done
              exact once.replace _ _
      · next items span found =>
          split at done
          · obtain ⟨⟨inner, result⟩, -, done⟩ := bind_eq_ok.mp done
            cases done
            exact once.replace _ _
          · cases done
      · cases done

end Entries

/-- Each key of the document's own table is there once, and the open table can still be added to
it. -/
structure Draft.Once (d : Draft) : Prop where
  finished : d.finished.Once
  top : d.header = [] → d.entries.Once
  free : ∀ key, d.header = [key] → d.repeated = false → d.finished.get? key.name = none

namespace Draft.Once

variable {d opened : Draft} {entries changed : Entries} {path : List Key} {key : Key} {span : Span}

theorem atParent {β : Type} {header : List Key} {change : Entries → Except Clash (Entries × β)}
    {result : β} (once : entries.Once)
    (changes : header.dropLast = [] → ∀ changed result, change entries = .ok (changed, result) →
      changed.Once)
    (done : atParent entries header change = .ok (changed, result)) : changed.Once :=
  once.descend changes done

theorem close (once : d.Once) (closes : d.close = .ok entries) : entries.Once := by
  rw [Draft.close] at closes
  split at closes
  · next top =>
      cases closes
      exact once.top (List.getLast?_eq_none_iff.mp top)
  · next key last =>
      obtain ⟨⟨changed, result⟩, done, same⟩ := bind_eq_ok.mp closes
      cases same
      refine atParent once.finished ?_ done
      intro parent changed result placed
      have header : d.header = [key] := by
        rw [← List.dropLast_append_getLast? key last, parent, List.nil_append]
      split at placed
      · split at placed
        · next absent =>
            cases placed
            exact once.finished.append absent _
        · cases placed
          exact once.finished.replace _ _
        · cases placed
      · next single =>
          cases placed
          exact once.finished.append (once.free key header (by simpa using single)) _

theorem openTable (once : d.Once) (opens : d.openTable (path ++ [key]) key span = .ok opened) :
    opened.Once := by
  obtain ⟨closed, closes, rest⟩ := bind_eq_ok.mp opens
  obtain ⟨⟨finished, entries⟩, done, same⟩ := bind_eq_ok.mp rest
  cases same
  have start := once.close closes
  refine ⟨atParent start ?_ done, by simp, ?_⟩
  · intro _ changed result placed
    split at placed
    · cases placed
      exact start
    · cases placed
      exact start.remove _
    · cases placed
  · intro only header _
    obtain ⟨rfl, rfl⟩ : path = [] ∧ key = only := by
      cases path <;> simp_all
    rw [Draft.atParent, List.nil_append, List.dropLast_singleton, Entries.descend] at done
    split at done
    · next absent =>
        cases done
        exact absent
    · cases done
      exact Entries.get?_remove _ _
    · cases done

theorem openRepeated (once : d.Once)
    (opens : d.openRepeated (path ++ [key]) key span = .ok opened) : opened.Once := by
  obtain ⟨closed, closes, rest⟩ := bind_eq_ok.mp opens
  obtain ⟨⟨finished, result⟩, done, same⟩ := bind_eq_ok.mp rest
  cases same
  have start := once.close closes
  refine ⟨atParent start ?_ done, by simp, nofun⟩
  intro _ changed result placed
  split at placed
  · next absent =>
      cases placed
      exact start.append absent _
  · cases placed
    exact start
  · cases placed

theorem insert {value : Node} (once : d.Once) (inserts : d.insert path key value = .ok opened) :
    opened.Once := by
  obtain ⟨entries, inserted, same⟩ := bind_eq_ok.mp inserts
  cases same
  refine ⟨once.finished, ?_, once.free⟩
  intro top
  obtain ⟨⟨changed, result⟩, done, same⟩ := bind_eq_ok.mp inserted
  cases same
  refine (once.top top).descend ?_ done
  intro _ changed result placed
  split at placed
  · cases placed
  · split at placed
    · cases placed
    · next absent =>
        cases placed
        exact (once.top top).append (by simpa using absent) _

end Draft.Once

theorem orClash_eq_ok {α : Type} {cs : List Char} {r : Except Clash α} {a : α} :
    orClash cs r = .ok a ↔ r = .ok a := by
  cases r with
  | ok other => simp [orClash]
  | error clash => exact ⟨nofun, nofun⟩

section Statements

variable {d d' : Draft} {cs rest : List Char}

theorem Draft.Once.readHeader (once : d.Once) (read : readHeader d cs = .ok (d', rest)) :
    d'.Once := by
  have read := mapError_eq_ok.mp read
  split at read
  · obtain ⟨⟨⟨path, key⟩, _⟩, -, read⟩ := bind_eq_ok.mp read
    obtain ⟨_, -, read⟩ := bind_eq_ok.mp read
    obtain ⟨_, -, read⟩ := bind_eq_ok.mp read
    obtain ⟨opened, opens, same⟩ := bind_eq_ok.mp read
    cases same
    exact once.openRepeated (orClash_eq_ok.mp opens)
  · obtain ⟨⟨⟨path, key⟩, _⟩, -, read⟩ := bind_eq_ok.mp read
    obtain ⟨_, -, read⟩ := bind_eq_ok.mp read
    obtain ⟨_, -, read⟩ := bind_eq_ok.mp read
    obtain ⟨opened, opens, same⟩ := bind_eq_ok.mp read
    cases same
    exact once.openTable (orClash_eq_ok.mp opens)
  · cases read

theorem Draft.Once.readAssignment (once : d.Once) (read : readAssignment d cs = .ok (d', rest)) :
    d'.Once := by
  obtain ⟨⟨⟨path, key⟩, _⟩, -, read⟩ := bind_eq_ok.mp read
  obtain ⟨_, -, read⟩ := bind_eq_ok.mp read
  obtain ⟨⟨value, _⟩, -, read⟩ := bind_eq_ok.mp read
  obtain ⟨_, -, read⟩ := bind_eq_ok.mp read
  obtain ⟨inserted, inserts, same⟩ := bind_eq_ok.mp read
  cases same
  exact once.insert (orClash_eq_ok.mp inserts)

theorem Draft.Once.readStatement (once : d.Once) (read : readStatement d cs = .ok (d', rest)) :
    d'.Once := by
  unfold Toml.readStatement at read
  split at read
  · obtain ⟨_, -, same⟩ := bind_eq_ok.mp (mapError_eq_ok.mp read)
    cases same
    exact once
  · exact once.readHeader (mapError_eq_ok.mp read)
  · cases read
    exact once
  · cases read
    exact once
  · cases read
  · exact once.readAssignment (mapError_eq_ok.mp read)

theorem Draft.Once.readStatements {fuel : Nat} (once : d.Once)
    (read : readStatements fuel d cs = .ok d') : d'.Once := by
  induction fuel generalizing d cs with
  | zero =>
      cases cs with
      | nil =>
          cases read
          exact once
      | cons c cs => cases read
  | succ fuel ih =>
      cases cs with
      | nil =>
          cases read
          exact once
      | cons c cs =>
          obtain ⟨⟨next, rest⟩, first, later⟩ := bind_eq_ok.mp read
          exact ih (once.readStatement first) later

end Statements

theorem readDocument_once {document : List Char} {tree : Node}
    (read : readDocument document = .ok tree) :
    ∃ entries : Entries, tree = .table .header entries none ∧ entries.Once := by
  have empty : Draft.Once {} := ⟨List.nodup_nil, fun _ => List.nodup_nil, nofun⟩
  obtain ⟨d, statements, closed⟩ := bind_eq_ok.mp read
  obtain ⟨entries, closes, same⟩ := bind_eq_ok.mp closed
  cases same
  exact ⟨entries, rfl, (empty.readStatements statements).close (orClash_eq_ok.mp closes)⟩

end ImageStock.Toml
