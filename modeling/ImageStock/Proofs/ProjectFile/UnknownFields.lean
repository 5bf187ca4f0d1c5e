import ImageStock.Proofs.ProjectFile.KnownFields
import ImageStock.Proofs.Toml.Distinct

/-! Unknown fields and the version of a project file. Main statement: while a file is loaded, there
is a warning for each of its unknown fields and no other one, also where the file is then refused
for its version; and the only version that is accepted is 1. -/

namespace ImageStock.ProjectFile

open Toml (Table Value)

/-- A part of a project file in a document: whether all in it that has fields is written as a table,
and the paths of the unknown fields then. -/
structure Part where
  asTables : Value → Bool
  unknown : Value → List String

namespace Part

def plain : Part := ⟨fun _ => true, fun _ => []⟩

def fields (parts : List (String × Part)) (front : String) : Part where
  asTables
    | .table entries => entries.all fun field =>
      match parts.lookup field.1 with
      | some part => part.asTables field.2
      | none => true
    | _ => false
  unknown
    | .table entries => entries.flatMap fun field =>
      match parts.lookup field.1 with
      | some part => part.unknown field.2
      | none => [front ++ field.1]
    | _ => []

def items (part : Nat → Part) : Part where
  asTables
    | .array vs => vs.zipIdx.all fun item => (part item.2).asTables item.1
    | _ => true
  unknown
    | .array vs => vs.zipIdx.flatMap fun item => (part item.2).unknown item.1
    | _ => []

def runtime : Part := fields [("container_cli", plain)] "runtime.?."

def entry (i : Nat) : Part :=
  fields [("name", plain), ("env", plain), ("default", plain), ("base", plain)]
    s!"images.?.entry.{i}."

def images : Part :=
  fields [("version_env", plain), ("default_version", plain), ("entry", items entry)] "images.?."

def project : Part :=
  fields [("version", plain), ("runtime", runtime), ("images", images)] ""

/-- A decoder tells the unknown fields of a part, wherever it comes to something. -/
def ToldBy {α : Type} (part : Part) (decodePart : Value → Except Misfit (Decoded α)) : Prop :=
  ∀ v, part.asTables v = true →
    ∀ decoded, decodePart v = .ok decoded → decoded.unknown = part.unknown v

end Part

/-- The readers of the fields of a table are those of its parts, and tell the unknown fields of
each. -/
structure Reports {α : Type} (reader : String → Option (Value → α → Except Misfit (Decoded α)))
    (parts : List (String × Part)) : Prop where
  known : ∀ field ∈ parts,
    ∃ read, reader field.1 = some read ∧ ∀ a, field.2.ToldBy fun v => read v a
  others : ∀ key, key ∉ parts.map (·.1) → reader key = none

variable {α β : Type} {part : Part} {place front : String}

theorem toldBy_text (set : String → α → α) (a : α) :
    Part.plain.ToldBy fun v => textField set v a := by
  intro v _ decoded decodes
  obtain ⟨s, -, same⟩ := bind_eq_ok.mp decodes
  cases same
  rfl

theorem toldBy_bind {decodePart : Value → Except Misfit (Decoded α)} (told : part.ToldBy decodePart)
    (make : Decoded α → β) :
    part.ToldBy fun v => decodePart v >>= fun decoded => pure ⟨make decoded, decoded.unknown⟩ := by
  intro v tables decoded decodes
  obtain ⟨inner, within, same⟩ := bind_eq_ok.mp decodes
  cases same
  exact told v tables inner within

theorem under_eq_ok {step : Toml.Step} {r : Except Misfit α} {a : α} :
    under step r = .ok a ↔ r = .ok a := mapError_eq_ok

theorem mem_of_lookup {parts : List (String × Part)} {key : String}
    (found : parts.lookup key = some part) : (key, part) ∈ parts := by
  obtain ⟨front, back, rfl, -⟩ := List.lookup_eq_some_iff.mp found
  simp

theorem notMem_of_lookup {parts : List (String × Part)} {key : String}
    (absent : parts.lookup key = none) : key ∉ parts.map (·.1) := by
  intro member
  obtain ⟨field, listed, rfl⟩ := List.mem_map.mp member
  simpa using List.lookup_eq_none_iff.mp absent field listed

theorem unknown_decodeFields {reader : String → Option (Value → α → Except Misfit (Decoded α))}
    {parts : List (String × Part)} (reports : Reports reader parts)
    (joins : ∀ key, join place key = front ++ key) {entries : Table}
    (tables : (Part.fields parts front).asTables (.table entries) = true) {a : α}
    {decoded : Decoded α}
    (decodes : decodeFields reader place entries a = .ok decoded) :
    decoded.unknown = (Part.fields parts front).unknown (.table entries) := by
  have each := List.all_eq_true.mp tables
  clear tables
  induction entries generalizing a decoded with
  | nil =>
      cases decodes
      rfl
  | cons field rest ih =>
      obtain ⟨key, v⟩ := field
      show _ = (match parts.lookup key with
        | some part => part.unknown v
        | none => [front ++ key]) ++ (Part.fields parts front).unknown (.table rest)
      cases known : parts.lookup key with
      | some part =>
          obtain ⟨read, found, told⟩ := reports.known (key, part) (mem_of_lookup known)
          rw [decodeFields, found] at decodes
          obtain ⟨first, reads, decodes⟩ := bind_eq_ok.mp decodes
          obtain ⟨others, follows, same⟩ := bind_eq_ok.mp decodes
          cases same
          have fits : part.asTables v = true := by
            have here := each (key, v) (by simp)
            simpa only [known] using here
          have here := told a v fits first (under_eq_ok.mp reads)
          have rest := ih follows fun field member => each field (by simp [member])
          rw [here, rest]
      | none =>
          rw [decodeFields, reports.others key (notMem_of_lookup known)] at decodes
          obtain ⟨others, follows, same⟩ := bind_eq_ok.mp decodes
          cases same
          have rest := ih follows fun field member => each field (by simp [member])
          rw [joins, rest]
          rfl

theorem toldBy_section {reader : String → Option (Value → α → Except Misfit (Decoded α))}
    {parts : List (String × Part)} (reports : Reports reader parts)
    (joins : ∀ key, join place key = front ++ key) (s : Section) (a : α)
    (ofItems : List Value → Except Misfit (Decoded α)) :
    (Part.fields parts front).ToldBy fun v =>
      decodeSection s v (fun entries => decodeFields reader place entries a) ofItems := by
  intro v tables decoded decodes
  cases v with
  | table entries => exact unknown_decodeFields reports joins tables decodes
  | scalar s => cases tables
  | array vs => cases tables

theorem reports_runtime : Reports runtimeField [("container_cli", .plain)] where
  known := by
    simp only [List.mem_singleton, forall_eq]
    exact ⟨_, rfl, toldBy_text _⟩
  others := reads_runtime.known

theorem toldBy_runtime : Part.runtime.ToldBy (decodeRuntime "runtime.?") :=
  toldBy_section reports_runtime (fun _ => rfl) _ _ _

theorem reports_entry : Reports entryField
    [("name", .plain), ("env", .plain), ("default", .plain), ("base", .plain)] where
  known := by
    simp only [List.mem_cons, List.not_mem_nil, or_false, forall_eq_or_imp, forall_eq]
    exact ⟨⟨_, rfl, toldBy_text _⟩, ⟨_, rfl, toldBy_text _⟩, ⟨_, rfl, toldBy_text _⟩,
      ⟨_, rfl, toldBy_text _⟩⟩
  others := reads_entry.known

theorem toldBy_entry (i : Nat) :
    (Part.entry i).ToldBy (decodeEntry (join "images.?.entry" (toString i))) := by
  intro v tables decoded decodes
  cases v with
  | table entries =>
      rw [decodeEntry, decodeSection_table] at decodes
      obtain ⟨fields, reads, named⟩ := bind_eq_ok.mp decodes
      split at named
      · cases named
        exact unknown_decodeFields reports_entry (fun _ => rfl) tables reads
      · cases named
  | scalar s => cases tables
  | array vs => cases tables

theorem unknown_decodeEntriesFrom {vs : List Value} {i : Nat}
    (tables : ∀ item ∈ vs.zipIdx i, (Part.entry item.2).asTables item.1 = true)
    {decoded : Decoded (List Entry)}
    (decodes : decodeEntriesFrom "images.?.entry" i vs = .ok decoded) :
    decoded.unknown = (vs.zipIdx i).flatMap fun item => (Part.entry item.2).unknown item.1 := by
  induction vs generalizing i decoded with
  | nil =>
      cases decodes
      rfl
  | cons v vs ih =>
      obtain ⟨first, reads, decodes⟩ := bind_eq_ok.mp decodes
      obtain ⟨others, follows, same⟩ := bind_eq_ok.mp decodes
      cases same
      have here := toldBy_entry i v (tables (v, i) (by simp)) first (under_eq_ok.mp reads)
      have later := ih (by intro item member; exact tables item (by simp [member])) follows
      rw [List.zipIdx_cons, List.flatMap_cons, here, later]

theorem toldBy_entries : (Part.items Part.entry).ToldBy (decodeEntries "images.?.entry") := by
  intro v tables decoded decodes
  cases v with
  | array vs => exact unknown_decodeEntriesFrom (List.all_eq_true.mp tables) decodes
  | scalar s => cases decodes
  | table entries => cases decodes

theorem reports_images : Reports (imagesField "images.?")
    [("version_env", .plain), ("default_version", .plain), ("entry", .items .entry)] where
  known := by
    simp only [List.mem_cons, List.not_mem_nil, or_false, forall_eq_or_imp, forall_eq]
    refine ⟨⟨_, rfl, toldBy_text _⟩, ⟨_, rfl, toldBy_text _⟩, _, rfl, fun m => ?_⟩
    exact toldBy_bind toldBy_entries fun decoded => { m with entries := decoded.value }
  others := (reads_images "images.?").known

theorem toldBy_images : Part.images.ToldBy (decodeImages "images.?") :=
  toldBy_section reports_images (fun _ => rfl) _ _ _

theorem reports_project : Reports rootField
    [("version", .plain), ("runtime", .runtime), ("images", .images)] where
  known := by
    simp only [List.mem_cons, List.not_mem_nil, or_false, forall_eq_or_imp, forall_eq]
    refine ⟨⟨_, rfl, fun p => ?_⟩, ⟨_, rfl, fun p => ?_⟩, _, rfl, fun p => ?_⟩
    · intro v _ decoded decodes
      obtain ⟨n, -, same⟩ := bind_eq_ok.mp decodes
      cases same
      rfl
    · exact toldBy_bind toldBy_runtime fun decoded => { p with runtime := some decoded.value }
    · exact toldBy_bind toldBy_images fun decoded => { p with images := some decoded.value }
  others := reads_root.known

theorem unknown_decode {entries : Table} (tables : Part.project.asTables (.table entries) = true)
    {decoded : Decoded ProjectFile} (decodes : decode entries = .ok decoded) :
    decoded.unknown = Part.project.unknown (.table entries) :=
  unknown_decodeFields reports_project (fun _ => rfl) tables decodes

theorem rootTable_once {document : List Char} {tree : Toml.Node}
    (read : readTree document = .ok tree) : ((rootTable tree).map (·.1)).Nodup := by
  rw [readTree] at read
  split at read
  · next other document =>
      cases read
      obtain ⟨entries, rfl, once⟩ := Toml.readDocument_once document
      rw [rootTable, Toml.Node.toValue]
      show ((Toml.entryValues entries).map (·.1)).Nodup
      rw [Toml.map_fst_entryValues]
      exact once
  · cases read

theorem decodeVersion_eq_ok_iff {v : Value} {version : UInt32} :
    decodeVersion v = .ok version ↔ v = .scalar (.integer version.toNat) := by
  constructor
  · intro fits
    unfold decodeVersion at fits
    split at fits
    · next n =>
        split at fits
        · next range =>
            cases fits
            have small : n.toNat < UInt32.size := by
              show n.toNat < 4294967296
              omega
            rw [Nat.toUInt32, UInt32.toNat_ofNat_of_lt' small, Int.toNat_of_nonneg range.1]
        · cases fits
    · cases fits
  · rintro rfl
    exact decodeVersion_toNat version

theorem version_of_readAt {key : String} {partOf : Value → Option α}
    {set : α → ProjectFile → ProjectFile} (sets : Sets rootField key partOf set)
    (keeps : ∀ a p, (set a p).version = p.version) {entries : Table} {p q : ProjectFile}
    (reads : readAt rootField entries p key = some q) : q.version = p.version := by
  rw [readAt] at reads
  split at reads
  · next v found =>
      rw [sets, Option.map_eq_some_iff] at reads
      obtain ⟨a, -, rfl⟩ := reads
      exact keeps a p
  · cases reads
    rfl

theorem version_of_decode {entries : Table} (once : (entries.map (·.1)).Nodup)
    {decoded : Decoded ProjectFile} (decodes : decode entries = .ok decoded) :
    entries.lookup "version" =
      decoded.value.version.map fun version => .scalar (.integer version.toNat) := by
  have turns : rootFields.map (·.1) = ["version", "runtime", "images"] := rfl
  have whole : outcome (decode entries) = some decoded.value := by
    rw [decodes]
    rfl
  rw [decode, outcome_decodeFields,
    foldlM_readField reads_root.known reads_root.distinct reads_root.commute once, turns] at whole
  obtain ⟨first, given, whole⟩ := Option.bind_eq_some_iff.mp whole
  obtain ⟨second, ran, whole⟩ := Option.bind_eq_some_iff.mp whole
  obtain ⟨third, imaged, same⟩ := Option.bind_eq_some_iff.mp whole
  cases same
  rw [version_of_readAt sets_images (fun _ _ => rfl) imaged,
    version_of_readAt sets_runtime (fun _ _ => rfl) ran]
  rw [readAt] at given
  split at given
  · next v found =>
      rw [sets_version, Option.map_eq_some_iff] at given
      obtain ⟨n, fits, rfl⟩ := given
      rw [found, decodeVersion_eq_ok_iff.mp (toOption_eq_some.mp fits)]
      rfl
  · next absent =>
      cases given
      exact absent

variable {I : Interface} {σ : Type}

theorem warnings_reports (decoded : Decoded ProjectFile) (path : String) :
    (reports decoded path).filter (·.level = .warn) =
      decoded.unknown.map (Notice.unknownField path) := by
  have warned : (decoded.unknown.map (Notice.unknownField path)).filter (·.level = .warn) =
      decoded.unknown.map (Notice.unknownField path) := by
    rw [List.filter_eq_self]
    intro notice member
    obtain ⟨field, -, rfl⟩ := List.mem_map.mp member
    rfl
  have quiet : (if decoded.value.version = none then [Notice.versionAssumed path] else []).filter
      (·.level = .warn) = [] := by
    split <;> rfl
  rw [reports, List.filter_cons_of_neg (by simp [Notice.level]), List.filter_append, warned, quiet,
    List.append_nil]

theorem version_accepted_iff {given : Option Value} {p : ProjectFile}
    (gives : given = p.version.map fun version => .scalar (.integer version.toNat)) :
    given = none ∨ given = some (.scalar (.integer 1)) ↔ p.version = none ∨ p.version = some 1 := by
  rw [gives]
  cases p.version with
  | none => simp
  | some v =>
      have same : ((v.toNat : Int) = 1) ↔ v = 1 := by
        rw [← UInt32.toNat_inj, UInt32.toNat_one]
        omega
      simp [same]

theorem reloaded_eq_ok_iff {p : ProjectFile} {path : String} :
    p.reloaded path = .ok p ↔ p.version = none ∨ p.version = some 1 := by
  refine ⟨?_, reloaded_known path⟩
  intro accepted
  cases version : p.version with
  | none => exact .inl rfl
  | some v =>
      by_cases first : v = 1
      · exact .inr (by rw [first])
      · rw [reloaded_other path version first] at accepted
        cases accepted

section Load

variable {m : Machine I σ} {s : σ} {path : String} {bytes : List UInt8} {document : List Char}
  {tree : Toml.Node} (text : textOf path bytes = .ok document) (read : readTree document = .ok tree)

include text read

theorem load_of_decodes {decoded : Decoded ProjectFile}
    (decodes : decode (rootTable tree) = .ok decoded) :
    (load path (.ok bytes)).run.run m s =
      .told (reports decoded path) (decoded.value.reloaded path) s := by
  rw [load_told text, parse, read, ok_bind, decodes]
  rfl

theorem load_of_misfits {misfit : Misfit} (misfits : decode (rootTable tree) = .error misfit) :
    ∃ place mismatch, (load path (.ok bytes)).run.run m s = .told [.loading path]
      (.error ((Failure.of (.unfit place mismatch)).within (.parsing path))) s := by
  rw [load_told text, parse, read, ok_bind, misfits]
  exact ⟨_, _, rfl⟩

end Load

/-- Loading a text warns of its unknown fields and of nothing else if the text fits, and of nothing
at all if it does not; and of the texts that fit, those without a version or with the version 1 are
accepted. -/
theorem load_warns_of_unknown_fields (m : Machine I σ) (s : σ) (path : String)
    {bytes : List UInt8} {document : List Char} {tree : Toml.Node}
    (text : textOf path bytes = .ok document) (read : readTree document = .ok tree)
    (tables : Part.project.asTables (.table (rootTable tree)) = true) :
    let run := (load path (.ok bytes)).run.run m s
    let warnings := run.notices.filter (·.level = .warn)
    let version := (rootTable tree).lookup "version"
    (∀ decoded, decode (rootTable tree) = .ok decoded →
      warnings = (Part.project.unknown (.table (rootTable tree))).map (.unknownField path) ∧
      warnings.map Notice.text = (Part.project.unknown (.table (rootTable tree))).map
        (fun field => "Unknown configuration field in " ++ path ++ ": " ++ field) ∧
      (run.value = .ok decoded.value ↔
        version = none ∨ version = some (.scalar (.integer 1))) ∧
      (¬ (version = none ∨ version = some (.scalar (.integer 1))) → ∃ other : UInt32,
        version = some (.scalar (.integer other.toNat)) ∧
          run.value = .error (.of (.unsupportedVersion path other)))) ∧
    (∀ misfit, decode (rootTable tree) = .error misfit → warnings = [] ∧
      ∃ place mismatch,
        run.value = .error ((Failure.of (.unfit place mismatch)).within (.parsing path))) ∧
    ∀ n : Int, version = some (.scalar (.integer n)) → n < 0 ∨ 4294967295 < n →
      ∃ misfit, decode (rootTable tree) = .error misfit := by
  intro run warnings version
  refine ⟨?_, ?_, ?_⟩
  · intro decoded decodes
    have told : run = .told (reports decoded path) (decoded.value.reloaded path) s :=
      load_of_decodes text read decodes
    have given := version_of_decode (rootTable_once read) decodes
    have accepted := version_accepted_iff given
    have warned : warnings =
        (Part.project.unknown (.table (rootTable tree))).map (.unknownField path) := by
      show run.notices.filter _ = _
      rw [told, Run.notices_told, warnings_reports, unknown_decode tables decodes]
    refine ⟨warned, ?_, ?_, ?_⟩
    · rw [warned, List.map_map]
      rfl
    · rw [told, accepted]
      exact reloaded_eq_ok_iff
    · rw [accepted, not_or]
      intro refused
      obtain ⟨other, held⟩ := Option.ne_none_iff_exists'.mp refused.1
      have different : other ≠ 1 := by
        intro first
        exact refused.2 (by rw [held, first])
      refine ⟨other, ?_, ?_⟩
      · rw [show version = _ from given, held, Option.map_some]
      · rw [told]
        exact reloaded_other path held different
  · intro misfit misfits
    obtain ⟨place, mismatch, told⟩ := load_of_misfits (m := m) (s := s) text read misfits
    refine ⟨?_, place, mismatch, congrArg Run.value told⟩
    show run.notices.filter _ = _
    rw [show run = _ from told, Run.notices_told]
    rfl
  · intro n given outside
    rw [exists_eq_error_iff]
    rintro ⟨decoded, decodes⟩
    have same := version_of_decode (rootTable_once read) decodes
    rw [show (rootTable tree).lookup "version" = _ from given, eq_comm, Option.map_eq_some_iff]
      at same
    obtain ⟨v, -, same⟩ := same
    cases same
    have bound := v.toNat_lt
    omega

theorem exists_decoded {entries : Table} (fits : (outcome (decode entries)).isSome = true) :
    ∃ decoded, decode entries = .ok decoded := by
  cases ended : decode entries with
  | ok decoded => exact ⟨decoded, rfl⟩
  | error misfit =>
      rw [ended] at fits
      cases fits

def strayText : List Char :=
  "color = 1\nversion = 2\n[runtime]\ntimeout = 5\n[images.more]\nx = 1\n".toList ++
    "[[images.entry]]\nname = \"db\"\n[[images.entry]]\nowner = [1]\nname = \"cache\"\n".toList

theorem load_warns_of_unknown_fields_stray :
    let w : Workspace := { host := Host.emptyDesk }
    let path := "provision.toml"
    let bytes := Text.Utf8.encode (String.ofList strayText)
    let run := (load path (.ok bytes)).run.run Workspace.machine w
    ∃ tree, readTree strayText = .ok tree ∧
      Part.project.asTables (.table (rootTable tree)) = true ∧
      run.notices.filter (·.level = .warn) =
        ["color", "runtime.?.timeout", "images.?.more", "images.?.entry.1.owner"].map
          (.unknownField path) ∧
      run.value = .error (.of (.unsupportedVersion path 2)) := by
  intro w path bytes run
  obtain ⟨tree, read, table⟩ : ∃ tree, readTree strayText = .ok tree ∧ rootTable tree = [
      ("color", .scalar (.integer 1)),
      ("version", .scalar (.integer 2)),
      ("runtime", .table [("timeout", .scalar (.integer 5))]),
      ("images", .table [
        ("more", .table [("x", .scalar (.integer 1))]),
        ("entry", .array [.table [("name", .scalar (.text "db"))], .table [
          ("owner", .array [.scalar (.integer 1)]), ("name", .scalar (.text "cache"))]])])] :=
    exists_tree (by decide +kernel)
  have tables : Part.project.asTables (.table (rootTable tree)) = true := by
    rw [table]
    decide +kernel
  obtain ⟨decoded, decodes⟩ : ∃ decoded, decode (rootTable tree) = .ok decoded := by
    rw [table]
    exact exists_decoded (by decide +kernel)
  have version : (rootTable tree).lookup "version" = some (.scalar (.integer 2)) := by
    rw [table]
    rfl
  obtain ⟨warned, -, -, refused⟩ := (load_warns_of_unknown_fields Workspace.machine w path
    (textOf_encode path strayText) read tables).1 decoded decodes
  obtain ⟨other, given, value⟩ := refused (by rw [version]; decide)
  obtain rfl : other = 2 := by
    simp only [version, Option.some.injEq, Value.scalar.injEq, Toml.Scalar.integer.injEq] at given
    rw [← UInt32.toNat_inj]
    show other.toNat = 2
    omega
  refine ⟨tree, read, tables, warned.trans ?_, value⟩
  rw [table]
  rfl

/-- A text that goes on with a section after a table of its own. -/
def reopenedText : List Char := "version = 1\n[images]\n[color]\n[images.more]\n".toList

theorem reopened_section_warned_of_first :
    let w : Workspace := { host := Host.emptyDesk }
    let path := "provision.toml"
    let bytes := Text.Utf8.encode (String.ofList reopenedText)
    let run := (load path (.ok bytes)).run.run Workspace.machine w
    ∃ tree color more, readTree reopenedText = .ok tree ∧
      Part.project.asTables (.table (rootTable tree)) = true ∧
      tree.spanAt? [.key "color"] = some color ∧
      tree.spanAt? [.key "images", .key "more"] = some more ∧
      -- places are numbers of characters left, so that `color` comes first in the text
      more.start < color.start ∧
      run.notices.filter (·.level = .warn) =
        [.unknownField path "images.?.more", .unknownField path "color"] := by
  intro w path bytes run
  have given : (readTree reopenedText).toOption.map (fun tree => (rootTable tree,
      tree.spanAt? [.key "color"], tree.spanAt? [.key "images", .key "more"])) =
      some ([("version", .scalar (.integer 1)), ("images", .table [("more", .table [])]),
        ("color", .table [])], some ⟨22, 15⟩, some ⟨14, 1⟩) := by
    decide +kernel
  obtain ⟨tree, read, shape⟩ := Option.map_eq_some_iff.mp given
  have read := toOption_eq_some.mp read
  simp only [Prod.mk.injEq] at shape
  obtain ⟨table, color, more⟩ := shape
  have tables : Part.project.asTables (.table (rootTable tree)) = true := by
    rw [table]
    decide +kernel
  obtain ⟨decoded, decodes⟩ : ∃ decoded, decode (rootTable tree) = .ok decoded := by
    rw [table]
    exact exists_decoded (by decide +kernel)
  have told : run = .told (reports decoded path) (decoded.value.reloaded path) w :=
    load_of_decodes (textOf_encode path reopenedText) read decodes
  refine ⟨tree, _, _, read, tables, color, more, by decide, ?_⟩
  rw [told, Run.notices_told, warnings_reports, unknown_decode tables decodes, table]
  rfl

end ImageStock.ProjectFile
