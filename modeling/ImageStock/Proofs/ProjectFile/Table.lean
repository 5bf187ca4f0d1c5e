import ImageStock.ProjectFile.Decode
import ImageStock.Proofs.Toml.Statement

/-! Project files as tables. Main statement: decoding the table of a project file gives the project
file again, and no field is unknown. -/

namespace ImageStock.ProjectFile

open Toml (Table Value textFields)

def Runtime.fields (r : Runtime) : List (String × Option String) :=
  [("container_cli", r.commandLine)]

def Entry.fields (e : Entry) : List (String × Option String) :=
  [("name", some e.name), ("env", e.overrideKey), ("default", e.reference), ("base", e.repository)]

def Images.fields (s : Images) : List (String × Option String) :=
  [("version_env", s.versionKey), ("default_version", s.defaultVersion)]

def entryTables (entries : List Entry) : List Value :=
  entries.map fun e => .table (textFields e.fields)

def Images.table (s : Images) : Table :=
  textFields s.fields ++
    if s.entries.isEmpty then [] else [("entry", .array (entryTables s.entries))]

def versionTable (version : Option UInt32) : Table :=
  (version.map fun v => ("version", .scalar (.integer v.toNat))).toList

def runtimeTable (runtime : Option Runtime) : Table :=
  (runtime.map fun r => ("runtime", .table (textFields r.fields))).toList

def imagesTable (images : Option Images) : Table :=
  (images.map fun s => ("images", .table s.table)).toList

def table (p : ProjectFile) : Table :=
  versionTable p.version ++ runtimeTable p.runtime ++ imagesTable p.images

section Fields

variable {α : Type} {reader : String → Option (Value → α → Except Misfit (Decoded α))}

theorem decodeFields_cons {name : String} {v : Value} {a b : α}
    {read : Value → α → Except Misfit (Decoded α)} (known : reader name = some read)
    (value : read v a = .ok ⟨b, []⟩) (place : String) (rest : Table) :
    decodeFields reader place ((name, v) :: rest) a = decodeFields reader place rest b := by
  rw [decodeFields, known]
  simp only [value]
  show (decodeFields reader place rest b >>= _) = decodeFields reader place rest b
  cases decodeFields reader place rest b <;> rfl

theorem decodeFields_text {name : String} {set : String → α → α}
    (known : reader name = some (textField set)) (place : String) (text : Option String)
    (more : List (String × Option String)) (rest : Table) (a : α) :
    decodeFields reader place (textFields ((name, text) :: more) ++ rest) a =
      decodeFields reader place (textFields more ++ rest) (text.elim a fun s => set s a) := by
  cases text with
  | none => rfl
  | some s => exact decodeFields_cons known rfl place _

theorem decodeFields_nil (place : String) (a : α) :
    decodeFields reader place (textFields [] ++ []) a = .ok ⟨a, []⟩ := rfl

theorem decodeSection_table (s : Section) (entries : Table)
    (ofFields : Table → Except Misfit (Decoded α))
    (ofItems : List Value → Except Misfit (Decoded α)) :
    decodeSection s (.table entries) ofFields ofItems = ofFields entries := rfl

end Fields

theorem decodeRuntime_fields (place : String) (r : Runtime) :
    decodeRuntime place (.table (textFields r.fields)) = .ok ⟨r, []⟩ := by
  rw [decodeRuntime, decodeSection_table]
  rw [← List.append_nil (textFields r.fields), Runtime.fields,
    decodeFields_text rfl, decodeFields_nil]
  cases r with
  | mk commandLine => cases commandLine <;> rfl

theorem decodeEntry_fields (place : String) (e : Entry) :
    decodeEntry place (.table (textFields e.fields)) = .ok ⟨e, []⟩ := by
  have named : (textFields e.fields).any (·.1 = "name") = true := rfl
  have fields : decodeFields entryField place (textFields e.fields) { name := "" } =
      .ok ⟨e, []⟩ := by
    rw [← List.append_nil (textFields e.fields), Entry.fields, decodeFields_text rfl,
      decodeFields_text rfl, decodeFields_text rfl, decodeFields_text rfl, decodeFields_nil]
    cases e with
    | mk name overrideKey reference repository =>
        cases overrideKey <;> cases reference <;> cases repository <;> rfl
  rw [decodeEntry, decodeSection_table]
  rw [fields, named]
  rfl

theorem decodeEntriesFrom_fields (place : String) (i : Nat) (entries : List Entry) :
    decodeEntriesFrom place i (entryTables entries) =
      .ok ⟨entries, []⟩ := by
  induction entries generalizing i with
  | nil => rfl
  | cons e entries ih =>
      rw [entryTables, List.map_cons, decodeEntriesFrom, decodeEntry_fields]
      show ((decodeEntriesFrom place (i + 1) (entryTables entries)) >>= _) = _
      rw [ih]
      rfl

theorem imagesField_entry (place : String) (entries : List Entry) :
    ∃ read, imagesField place "entry" = some read ∧ ∀ m : Images,
      read (.array (entryTables entries)) m =
        .ok ⟨{ m with entries }, []⟩ := by
  refine ⟨_, rfl, fun m => ?_⟩
  simp only [decodeEntries, decodeEntriesFrom_fields]
  rfl

theorem decodeImages_table (place : String) (s : Images) :
    decodeImages place (.table s.table) = .ok ⟨s, []⟩ := by
  rw [decodeImages, decodeSection_table]
  rw [Images.table, Images.fields, decodeFields_text rfl, decodeFields_text rfl]
  show decodeFields (imagesField place) place (if s.entries.isEmpty then [] else _) _ = _
  cases s with
  | mk versionKey defaultVersion entries =>
      cases entries with
      | nil => cases versionKey <;> cases defaultVersion <;> rfl
      | cons e entries =>
          obtain ⟨read, known, value⟩ := imagesField_entry place (e :: entries)
          show decodeFields (imagesField place) place [("entry", _)] _ = _
          rw [decodeFields_cons known (value _)]
          cases versionKey <;> cases defaultVersion <;> rfl

theorem decodeVersion_toNat (v : UInt32) : decodeVersion (.scalar (.integer v.toNat)) = .ok v := by
  have bound := v.toNat_lt
  rw [decodeVersion, if_pos (by omega), Int.toNat_natCast, Nat.toUInt32, UInt32.ofNat_toNat]

section Sections

variable (version : Option UInt32) (runtime : Option Runtime) (images : Option Images)
  (rest : Table)

theorem decodeFields_version :
    decodeFields rootField "" (versionTable version ++ rest) {} =
      decodeFields rootField "" rest { version } := by
  cases version with
  | none => rfl
  | some v =>
      refine decodeFields_cons rfl ?_ "" rest
      simp only [decodeVersion_toNat]
      rfl

theorem decodeFields_runtime :
    decodeFields rootField "" (runtimeTable runtime ++ rest) { version } =
      decodeFields rootField "" rest { version, runtime } := by
  cases runtime with
  | none => rfl
  | some r =>
      refine decodeFields_cons rfl ?_ "" rest
      simp only [decodeRuntime_fields]
      rfl

theorem decodeFields_images :
    decodeFields rootField "" (imagesTable images ++ rest) { version, runtime } =
      decodeFields rootField "" rest { version, runtime, images } := by
  cases images with
  | none => rfl
  | some s =>
      refine decodeFields_cons rfl ?_ "" rest
      simp only [decodeImages_table]
      rfl

end Sections

theorem decode_table (p : ProjectFile) : decode p.table = .ok ⟨p, []⟩ := by
  let images := imagesTable p.images ++ []
  have sections : p.table = versionTable p.version ++ (runtimeTable p.runtime ++ images) := by
    simp only [images, table, List.append_assoc, List.append_nil]
  calc
    decode p.table
      = decodeFields rootField "" (versionTable p.version ++ (runtimeTable p.runtime ++ images))
          {} := by rw [decode, sections]
    _ = decodeFields rootField "" (runtimeTable p.runtime ++ images) { version := p.version } :=
      decodeFields_version _ _
    _ = decodeFields rootField "" images { version := p.version, runtime := p.runtime } :=
      decodeFields_runtime _ _ _
    _ = decodeFields rootField "" [] p := decodeFields_images _ _ _ _
    _ = .ok ⟨p, []⟩ := rfl

end ImageStock.ProjectFile
