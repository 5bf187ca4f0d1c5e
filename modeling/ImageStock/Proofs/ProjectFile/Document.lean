import ImageStock.ProjectFile.Parse
import ImageStock.ProjectFile.Render
import ImageStock.Proofs.ProjectFile.Table

/-! Project files as documents. Main statement: the text of a project file is parsed as this project
file, whatever its texts are and whichever of its parts are there, and no field is unknown. -/

namespace ImageStock.ProjectFile

open Toml

theorem textFields_lacks {fields : List (String × Option String)} {name : String}
    (absent : name ∉ fields.map (·.1)) : (textFields fields).Lacks name := by
  intro member
  obtain ⟨entry, inside, same⟩ := List.mem_map.mp member
  obtain ⟨field, listed, text⟩ := List.mem_filterMap.mp inside
  obtain ⟨s, present, rfl⟩ := Option.map_eq_some_iff.mp text
  exact absent (List.mem_map.mpr ⟨field, listed, same⟩)

theorem lacks_nil (name : String) : Table.Lacks [] name := List.not_mem_nil

theorem versionTable_lacks (version : Option UInt32) {name : String} (other : name ≠ "version") :
    (versionTable version).Lacks name := by
  cases version with
  | none => exact lacks_nil name
  | some v => exact lacks_singleton other _

theorem runtimeTable_lacks (runtime : Option Runtime) {name : String} (other : name ≠ "runtime") :
    (runtimeTable runtime).Lacks name := by
  cases runtime with
  | none => exact lacks_nil name
  | some r => exact lacks_singleton other _

theorem takes_version (version : Option UInt32) :
    Takes (Draft.Holds atTop [])
      (writeParts (version.map fun v => writeLine "version" (Nat.toDigits 10 v.toNat)).toList)
      (Draft.Closes (versionTable version)) := by
  cases version with
  | none => exact .nil fun d holds => closes_top holds
  | some v =>
      have small : v.toNat < 0x8000000000000000 := Nat.lt_trans v.toNat_lt (by decide)
      have bare : IsBare "version" := by decide
      have line : Takes (Draft.Holds atTop []) (writeLine "version" (Nat.toDigits 10 v.toNat)) _ :=
        takes_line bare (writes_integer small) (lacks_nil _)
      exact line.weaken fun d holds => closes_top holds

section Fields

variable {place : Place}

theorem takes_runtimeFields (r : Runtime) :
    Takes (Draft.Holds place []) (writeFields r.fields)
      (Draft.Holds place (textFields r.fields)) := by
  have keys : r.fields.map (·.1) = ["container_cli"] := rfl
  exact takes_allFields keys (by decide) (by decide)

theorem takes_imagesFields (s : Images) :
    Takes (Draft.Holds place []) (writeFields s.fields)
      (Draft.Holds place (textFields s.fields)) := by
  have keys : s.fields.map (·.1) = ["version_env", "default_version"] := rfl
  exact takes_allFields keys (by decide) (by decide)

theorem takes_entryFields (e : Entry) :
    Takes (Draft.Holds place []) (writeFields e.fields)
      (Draft.Holds place (textFields e.fields)) := by
  have keys : e.fields.map (·.1) = ["name", "env", "default", "base"] := rfl
  exact takes_allFields keys (by decide) (by decide)

end Fields

theorem takes_runtime {before : Table} (lacks : before.Lacks "runtime") (runtime : Option Runtime) :
    Takes (Draft.Closes before) (writeParts (runtime.map Runtime.render).toList)
      (Draft.Closes (before ++ runtimeTable runtime)) := by
  cases runtime with
  | none =>
      refine .nil fun d closes => ?_
      rwa [runtimeTable, Option.map_none, Option.toList_none, List.append_nil]
  | some r =>
      have bare : IsBare "runtime" := by decide
      have written : r.render = writeHeader "runtime" ++ writeFields r.fields := by
        simp [Runtime.render, writeFields, Runtime.fields]
      show Takes _ r.render _
      rw [written]
      exact ((takes_header bare lacks).append (takes_runtimeFields r)).weaken fun d holds =>
        closes_section holds

theorem takes_entry {before within : Table} (e : Entry) (items : List Value) :
    Takes (Draft.Lists "images" "entry" before within items) e.render
      (Draft.Holds (atList "images" "entry" before within items) (textFields e.fields)) := by
  have written : e.render =
      writeRepeatedHeader ("images" ++ "." ++ "entry") ++ writeFields e.fields := by
    simp [Entry.render, writeFields, Entry.fields]
  rw [written]
  exact (takes_repeatedHeader (by decide) (by decide)).append (takes_entryFields e)

theorem takes_entries {before within : Table} (entries : List Entry) (filled : entries ≠ [])
    (items : List Value) :
    Takes (Draft.Lists "images" "entry" before within items) (writeParts (entries.map Entry.render))
      (Draft.Closes (before ++
        [("images", .table (within ++ [("entry", .array (items ++ entryTables entries))]))])) := by
  induction entries generalizing items with
  | nil => exact absurd rfl filled
  | cons e later ih =>
      cases later with
      | nil => exact (takes_entry e items).weaken fun d holds => closes_list holds
      | cons next later =>
          have first : Takes (Draft.Lists "images" "entry" before within items)
              (writeParts [e.render]) (Draft.Lists "images" "entry" before within
                (items ++ [.table (textFields e.fields)])) :=
            (takes_entry e items).weaken fun d holds => lists_list holds
          have others := ih (List.cons_ne_nil next later) (items ++ [.table (textFields e.fields)])
          have both : Takes _ (writeParts ([e.render] ++ (next :: later).map Entry.render)) _ :=
            Takes.parts first others
          rw [List.append_assoc] at both
          exact both

section Images

variable {before : Table} (lacks : before.Lacks "images") (s : Images)

include lacks in
theorem takes_imagesHeader :
    Takes (Draft.Closes before) (writeHeader "images" ++ writeFields s.fields)
      (Draft.Holds (atSection before "images") (textFields s.fields)) :=
  (takes_header (by decide) lacks).append (takes_imagesFields s)

theorem parts_eq : s.parts =
    (if s.needsHeader then [writeHeader "images" ++ writeFields s.fields] else []) ++
      s.entries.map Entry.render := by
  rw [Images.parts]
  simp [writeFields, Images.fields]

theorem textFields_eq_nil (bare : s.needsHeader = false) : textFields s.fields = [] := by
  obtain ⟨versionKey, defaultVersion, entries⟩ := s
  cases versionKey with
  | some text => cases bare
  | none =>
      cases defaultVersion with
      | some text => cases bare
      | none => rfl

include lacks in
theorem takes_someImages :
    Takes (Draft.Closes before) (writeParts s.parts)
      (Draft.Closes (before ++ [("images", .table s.table)])) := by
  have opened := takes_imagesHeader lacks s
  have entryLacks : (textFields s.fields).Lacks "entry" :=
    textFields_lacks (by show "entry" ∉ ["version_env", "default_version"]; decide)
  rw [parts_eq, Images.table]
  by_cases empty : s.entries = []
  · have header : s.needsHeader = true := by
      rw [Images.needsHeader, empty]
      exact Bool.or_true _
    simp only [header, empty, ↓reduceIte, List.isEmpty_nil, List.map_nil, List.append_nil]
    exact opened.weaken fun d holds => closes_section holds
  · have filled : s.entries.isEmpty = false := List.isEmpty_eq_false_iff.mpr empty
    cases header : s.needsHeader with
    | true =>
        have first : Takes (Draft.Closes before)
            (writeParts [writeHeader "images" ++ writeFields s.fields])
            (Draft.Lists "images" "entry" before (textFields s.fields) []) :=
          opened.weaken fun d holds => lists_section holds lacks entryLacks
        simp only [filled, ↓reduceIte, Bool.false_eq_true]
        exact first.parts (takes_entries s.entries empty [])
    | false =>
        have first : Takes (Draft.Closes before) (writeParts [])
            (Draft.Lists "images" "entry" before [] []) :=
          .nil fun d closes => lists_fresh closes lacks
        simp only [filled, ↓reduceIte, Bool.false_eq_true, textFields_eq_nil s header]
        exact first.parts (takes_entries s.entries empty [])

include lacks in
theorem takes_images (images : Option Images) :
    Takes (Draft.Closes before) (writeParts ((images.map Images.parts).getD []))
      (Draft.Closes (before ++ imagesTable images)) := by
  cases images with
  | none =>
      refine .nil fun d closes => ?_
      rwa [imagesTable, Option.map_none, Option.toList_none, List.append_nil]
  | some s => exact takes_someImages lacks s

end Images

theorem takes_render (p : ProjectFile) :
    Takes (Draft.Holds atTop []) p.render (Draft.Closes p.table) := by
  have noRuntime : (versionTable p.version).Lacks "runtime" :=
    versionTable_lacks p.version (by decide)
  have noImages : (versionTable p.version ++ runtimeTable p.runtime).Lacks "images" :=
    lacks_append (versionTable_lacks p.version (by decide))
      (runtimeTable_lacks p.runtime (by decide))
  exact ((takes_version p.version).parts (takes_runtime noRuntime p.runtime)).parts
    (takes_images noImages p.images)

theorem parse_render (p : ProjectFile) : parse p.render = .ok ⟨p, []⟩ := by
  obtain ⟨entries, read, means⟩ := readDocument_of_takes (takes_render p)
  have root : rootTable (.table .header entries none) = p.table := by
    rw [rootTable, Node.toValue, means]
  rw [parse, readTree, read]
  show orUnfit _ _ (decode (rootTable (.table .header entries none))) = _
  rw [root, decode_table]
  rfl

end ImageStock.ProjectFile
