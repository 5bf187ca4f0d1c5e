import Mathlib.Data.List.Nodup
import ImageStock.Proofs.Exchange
import ImageStock.Proofs.ProjectFile.RoundTrip
import ImageStock.Proofs.Result

/-! What a table stands for as a project file. Main statement: the known fields alone decide, in
whatever order they come and whatever other fields stand between them; only which of several parts
that do not fit is reported depends on more. -/

namespace ImageStock

namespace ProjectFile

open Toml (Table Value)

abbrev Likeness := Value → Value → Prop

/-- Two tables give these fields alike, each of them once, whatever else they hold. -/
structure TablesAlike (fields : List (String × Likeness)) (a b : Table) : Prop where
  once : (a.map (·.1)).Nodup
  onceToo : (b.map (·.1)).Nodup
  alike : ∀ field ∈ fields, Option.Rel field.2 (a.lookup field.1) (b.lookup field.1)

def sectionsAlike (fields : List (String × Likeness)) : Likeness := fun v w =>
  v = w ∨ ∃ a b, v = .table a ∧ w = .table b ∧ TablesAlike fields a b

def listsAlike (likeness : Likeness) : Likeness := fun v w =>
  v = w ∨ ∃ vs ws, v = .array vs ∧ w = .array ws ∧ List.Forall₂ likeness vs ws

def runtimeFields : List (String × Likeness) := [("container_cli", Eq)]

def entryFields : List (String × Likeness) :=
  [("name", Eq), ("env", Eq), ("default", Eq), ("base", Eq)]

def imagesFields : List (String × Likeness) :=
  [("version_env", Eq), ("default_version", Eq), ("entry", listsAlike (sectionsAlike entryFields))]

def rootFields : List (String × Likeness) :=
  [("version", Eq), ("runtime", sectionsAlike runtimeFields),
    ("images", sectionsAlike imagesFields)]

/-- What a part comes to if it fits, without the unknown fields met on the way. -/
def outcome {α : Type} (r : Except Misfit (Decoded α)) : Option α := r.toOption.map (·.value)

variable {α : Type} {reader : String → Option (Value → α → Except Misfit (Decoded α))}

theorem outcome_under (step : Toml.Step) (r : Except Misfit (Decoded α)) :
    outcome (under step r) = outcome r := by
  cases r <;> rfl

theorem outcome_bind {β : Type} (r : Except Misfit (Decoded α))
    {next : Decoded α → Except Misfit (Decoded β)} {step : α → Option β}
    (each : ∀ decoded, outcome (next decoded) = step decoded.value) :
    outcome (r >>= next) = (outcome r).bind step := by
  cases r with
  | error m => rfl
  | ok decoded => exact each decoded

def readField (reader : String → Option (Value → α → Except Misfit (Decoded α))) (a : α)
    (field : String × Value) : Option α :=
  match reader field.1 with
  | some read => outcome (read field.2 a)
  | none => some a

def readAt (reader : String → Option (Value → α → Except Misfit (Decoded α))) (entries : Table)
    (a : α) (key : String) : Option α :=
  match entries.lookup key with
  | some v => readField reader a (key, v)
  | none => some a

theorem outcome_decodeFields (place : String) (entries : Table) (a : α) :
    outcome (decodeFields reader place entries a) = entries.foldlM (readField reader) a := by
  induction entries generalizing a with
  | nil => rfl
  | cons field rest ih =>
      obtain ⟨key, v⟩ := field
      have others (b : α) (paths : List String → List String) :
          outcome (decodeFields reader place rest b >>= fun decoded =>
            pure ⟨decoded.value, paths decoded.unknown⟩) = rest.foldlM (readField reader) b := by
        rw [← ih b]
        cases decodeFields reader place rest b <;> rfl
      rw [decodeFields, List.foldlM_cons, readField]
      cases reader key with
      | none => exact others a (join place key :: ·)
      | some read =>
          simp only
          rw [← outcome_under (.key key) (read v a)]
          exact outcome_bind _ fun decoded => others decoded.value (decoded.unknown ++ ·)

theorem readAt_of_lacks {entries : Table} {key : String} (lacks : entries.Lacks key) (a : α) :
    readAt reader entries a key = some a := by
  have absent : entries.lookup key = none := by
    rw [List.lookup_eq_none_iff]
    intro field member
    rw [bne_iff_ne]
    rintro rfl
    exact lacks (List.mem_map.mpr ⟨field, member, rfl⟩)
  rw [readAt, absent]

theorem readAt_cons_self (key : String) (v : Value) (rest : Table) (a : α) :
    readAt reader ((key, v) :: rest) a key = readField reader a (key, v) := by
  rw [readAt, List.lookup_cons, beq_self_eq_true]

theorem foldlM_congr {β : Type} {f g : α → β → Option α} {bs : List β}
    (same : ∀ b ∈ bs, ∀ a, f a b = g a b) (a : α) : bs.foldlM f a = bs.foldlM g a := by
  induction bs generalizing a with
  | nil => rfl
  | cons b bs ih =>
      have rest : bs.foldlM f = bs.foldlM g := by
        funext next
        exact ih (by intro later member; exact same later (by simp [member])) next
      rw [List.foldlM_cons, List.foldlM_cons, same b (by simp), rest]

theorem bind_foldlM {β : Type} {f : α → Option α} {g : α → β → Option α} {bs : List β}
    (commute : ∀ b ∈ bs, ∀ a, (f a >>= fun a => g a b) = g a b >>= f) (a : α) :
    (f a >>= bs.foldlM g) = bs.foldlM g a >>= f := by
  induction bs generalizing a with
  | nil => simp
  | cons b bs ih =>
      have rest := ih (by intro later member; exact commute later (by simp [member]))
      calc
        (f a >>= (b :: bs).foldlM g)
          = (f a >>= fun a => g a b) >>= bs.foldlM g := by
            simp only [List.foldlM_cons, bind_assoc]
        _ = g a b >>= fun a => f a >>= bs.foldlM g := by
            rw [commute b (by simp), bind_assoc]
        _ = (b :: bs).foldlM g a >>= f := by
            simp only [rest, List.foldlM_cons, bind_assoc]

theorem foldlM_readAt_cons {keys : List String} {key : String} (absent : key ∉ keys) (v : Value)
    (rest : Table) (a : α) :
    keys.foldlM (readAt reader ((key, v) :: rest)) a = keys.foldlM (readAt reader rest) a := by
  apply foldlM_congr
  intro other member a
  have differ : (other == key) = false := by
    rw [beq_eq_false_iff_ne]
    rintro rfl
    exact absent member
  rw [readAt, readAt, List.lookup_cons, differ]

def Commute (reader : String → Option (Value → α → Except Misfit (Decoded α)))
    (key other : String) : Prop :=
  ∀ v w a, (readField reader a (key, v) >>= fun a => readField reader a (other, w)) =
    readField reader a (other, w) >>= fun a => readField reader a (key, v)

theorem readField_in_turn {front back : List String} {key : String}
    (distinct : (front ++ key :: back).Nodup)
    (commute : (front ++ key :: back).Pairwise (Commute reader)) {rest : Table}
    (lacks : rest.Lacks key) (v : Value) (a : α) :
    (readField reader a (key, v) >>= (front ++ key :: back).foldlM (readAt reader rest)) =
      (front ++ key :: back).foldlM (readAt reader ((key, v) :: rest)) a := by
  obtain ⟨-, unique, apart⟩ := List.nodup_append.mp distinct
  have inFront : key ∉ front := fun again => apart key again key (by simp) rfl
  have inBack : key ∉ back := (List.nodup_cons.mp unique).1
  -- a field that the rest of the table lacks is no step at all, any other one commutes with `key`
  have moved : ∀ a, (readField reader a (key, v) >>= front.foldlM (readAt reader rest)) =
      front.foldlM (readAt reader rest) a >>= fun a => readField reader a (key, v) := by
    apply bind_foldlM
    intro other earlier a
    have swaps := (List.pairwise_append.mp commute).2.2 other earlier key (by simp)
    simp only [readAt]
    cases rest.lookup other with
    | none => simp
    | some w => exact (swaps w v a).symm
  calc
    (readField reader a (key, v) >>= (front ++ key :: back).foldlM (readAt reader rest))
      = (readField reader a (key, v) >>= front.foldlM (readAt reader rest)) >>=
          back.foldlM (readAt reader rest) := by
        simp only [List.foldlM_append, List.foldlM_cons, readAt_of_lacks lacks,
          Option.bind_eq_bind, Option.bind_some, Option.bind_assoc]
    _ = front.foldlM (readAt reader rest) a >>= fun a => readField reader a (key, v) >>=
          back.foldlM (readAt reader rest) := by
        rw [moved, bind_assoc]
    _ = (front ++ key :: back).foldlM (readAt reader ((key, v) :: rest)) a := by
        simp only [List.foldlM_append, List.foldlM_cons, foldlM_readAt_cons inFront,
          foldlM_readAt_cons inBack, readAt_cons_self]

/-- To read a table in its own order is to read the known fields in theirs. -/
theorem foldlM_readField {keys : List String} (known : ∀ key, key ∉ keys → reader key = none)
    (distinct : keys.Nodup) (commute : keys.Pairwise (Commute reader)) {entries : Table}
    (once : (entries.map (·.1)).Nodup) (a : α) :
    entries.foldlM (readField reader) a = keys.foldlM (readAt reader entries) a := by
  induction entries generalizing a with
  | nil =>
      have nothing : keys.foldlM (readAt reader []) a = pure (keys.foldl (fun a _ => a) a) :=
        List.foldlM_pure
      rw [nothing, List.foldl_fixed]
      rfl
  | cons field rest ih =>
      obtain ⟨key, v⟩ := field
      obtain ⟨lacks, once⟩ := List.nodup_cons.mp once
      have later : rest.foldlM (readField reader) = keys.foldlM (readAt reader rest) := by
        funext a
        exact ih once a
      rw [List.foldlM_cons, later]
      -- only a known field has a turn of its own among the keys; an unknown one changes nothing
      by_cases member : key ∈ keys
      · obtain ⟨front, back, rfl⟩ := List.append_of_mem member
        exact readField_in_turn distinct commute lacks v a
      · have skipped : readField reader a (key, v) = some a := by
          rw [readField, known key member]
        rw [skipped, foldlM_readAt_cons member]
        rfl

/-- A reader knows these fields and no others, does not tell alike values of a field apart, and
reads any two of the fields in either order. -/
structure Reads (reader : String → Option (Value → α → Except Misfit (Decoded α)))
    (fields : List (String × Likeness)) : Prop where
  known : ∀ key, key ∉ fields.map (·.1) → reader key = none
  respects : ∀ field ∈ fields, ∀ v w, field.2 v w → ∀ a,
    readField reader a (field.1, v) = readField reader a (field.1, w)
  distinct : (fields.map (·.1)).Nodup
  commute : (fields.map (·.1)).Pairwise (Commute reader)

theorem outcome_of_alike {fields : List (String × Likeness)} (reads : Reads reader fields)
    {a b : Table} (alike : TablesAlike fields a b) (place : String) (start : α) :
    outcome (decodeFields reader place a start) = outcome (decodeFields reader place b start) := by
  rw [outcome_decodeFields, outcome_decodeFields,
    foldlM_readField reads.known reads.distinct reads.commute alike.once,
    foldlM_readField reads.known reads.distinct reads.commute alike.onceToo]
  apply foldlM_congr
  intro key member start
  obtain ⟨field, listed, rfl⟩ := List.mem_map.mp member
  have related := alike.alike field listed
  simp only [readAt]
  generalize a.lookup field.1 = first, b.lookup field.1 = second at related
  cases related with
  | none => rfl
  | some same => exact reads.respects field listed _ _ same start

def Sets {β : Type} (reader : String → Option (Value → α → Except Misfit (Decoded α)))
    (key : String) (part : Value → Option β) (set : β → α → α) : Prop :=
  ∀ v a, readField reader a (key, v) = (part v).map fun b => set b a

theorem Sets.commute {β γ : Type} {key other : String} {part : Value → Option β}
    {part' : Value → Option γ} {set : β → α → α} {set' : γ → α → α}
    (first : Sets reader key part set) (second : Sets reader other part' set')
    (apart : ∀ b c a, set' c (set b a) = set b (set' c a)) : Commute reader key other := by
  intro v w a
  rw [first]
  simp only [second w, first v]
  cases part v with
  | none => cases part' w <;> rfl
  | some b =>
      cases part' w with
      | none => rfl
      | some c => exact congrArg some (apart b c a)

theorem Sets.respects {β : Type} {key : String} {part : Value → Option β} {set : β → α → α}
    (sets : Sets reader key part set) {v w : Value} (same : part v = part w) (a : α) :
    readField reader a (key, v) = readField reader a (key, w) := by
  rw [sets, sets, same]

theorem sets_plain {β : Type} {key : String} {decodePart : Value → Except Misfit β}
    {set : β → α → α}
    (known : reader key = some fun v a => decodePart v >>= fun b => pure ⟨set b a, []⟩) :
    Sets reader key (fun v => (decodePart v).toOption) set := by
  intro v a
  rw [readField, known]
  cases given : decodePart v <;> simp only [given] <;> rfl

theorem sets_section {β : Type} {key : String} {decodePart : Value → Except Misfit (Decoded β)}
    {set : β → α → α}
    (known : reader key = some fun v a =>
      decodePart v >>= fun decoded => pure ⟨set decoded.value a, decoded.unknown⟩) :
    Sets reader key (fun v => outcome (decodePart v)) set := by
  intro v a
  rw [readField, known]
  cases given : decodePart v <;> simp only [given] <;> rfl

def text? (v : Value) : Option String := (decodeText v).toOption

theorem sets_text {key : String} {set : String → α → α}
    (known : reader key = some (textField set)) : Sets reader key text? set :=
  sets_plain known

def runtimeField : String → Option (Value → Runtime → Except Misfit (Decoded Runtime))
  | "container_cli" => some (textField fun s r => { r with commandLine := some s })
  | _ => none

theorem reads_runtime : Reads runtimeField runtimeFields := by
  have commandLine : Sets runtimeField "container_cli" text? _ := sets_text rfl
  constructor
  case known =>
    intro key absent
    rw [runtimeField]
    intro same
    exact absent (by simp [runtimeFields, same])
  case respects =>
    intro field member v w same a
    rw [runtimeFields, List.mem_singleton] at member
    subst member
    exact commandLine.respects (congrArg text? same) a
  case distinct => decide
  case commute => exact List.pairwise_singleton _ _

theorem outcome_decodeRuntime (place : String) {v w : Value}
    (alike : sectionsAlike runtimeFields v w) :
    outcome (decodeRuntime place v) = outcome (decodeRuntime place w) := by
  obtain rfl | ⟨a, b, rfl, rfl, alike⟩ := alike
  · rfl
  · exact outcome_of_alike reads_runtime alike place {}

theorem reads_entry : Reads entryField entryFields := by
  have name : Sets entryField "name" text? _ := sets_text rfl
  have key : Sets entryField "env" text? _ := sets_text rfl
  have reference : Sets entryField "default" text? _ := sets_text rfl
  have repository : Sets entryField "base" text? _ := sets_text rfl
  constructor
  case known =>
    intro other absent
    simp only [entryFields, List.map_cons, List.map_nil, List.mem_cons, not_or] at absent
    rw [entryField] <;> simp [absent]
  case respects =>
    intro field member v w same a
    simp only [entryFields, List.mem_cons, List.not_mem_nil, or_false] at member
    rcases member with rfl | rfl | rfl | rfl
    · exact name.respects (congrArg text? same) a
    · exact key.respects (congrArg text? same) a
    · exact reference.respects (congrArg text? same) a
    · exact repository.respects (congrArg text? same) a
  case distinct => decide
  case commute =>
    simp only [entryFields, List.map_cons, List.map_nil, List.pairwise_cons, List.mem_cons,
      List.not_mem_nil, or_false, forall_eq_or_imp, forall_eq]
    exact ⟨⟨name.commute key fun _ _ _ => rfl, name.commute reference fun _ _ _ => rfl,
        name.commute repository fun _ _ _ => rfl⟩,
      ⟨key.commute reference fun _ _ _ => rfl, key.commute repository fun _ _ _ => rfl⟩,
      reference.commute repository fun _ _ _ => rfl, by simp⟩

theorem any_key_eq (entries : Table) (key : String) :
    (entries.any fun field => field.1 = key) = (entries.lookup key).isSome := by
  rw [Bool.eq_iff_iff, List.any_eq_true, List.lookup_isSome_iff]
  simp only [decide_eq_true_eq, beq_iff_eq, eq_comm (a := key)]

theorem outcome_decodeEntry (place : String) {v w : Value}
    (alike : sectionsAlike entryFields v w) :
    outcome (decodeEntry place v) = outcome (decodeEntry place w) := by
  obtain rfl | ⟨a, b, rfl, rfl, alike⟩ := alike
  · rfl
  · have fields := outcome_of_alike reads_entry alike place { name := "" }
    have named : (a.any fun field => field.1 = "name") = b.any fun field => field.1 = "name" := by
      rw [any_key_eq, any_key_eq]
      have name := alike.alike ("name", Eq) (by simp [entryFields])
      generalize a.lookup "name" = first, b.lookup "name" = second at name
      cases name <;> rfl
    have fitting (entries : Table) : outcome (decodeEntry place (.table entries)) =
        (outcome (decodeFields entryField place entries { name := "" })).bind fun e =>
          if entries.any fun field => field.1 = "name" then some e else none := by
      rw [decodeEntry, decodeSection_table, outcome_bind]
      intro decoded
      split <;> rfl
    rw [fitting, fitting, fields, named]

theorem outcome_decodeEntriesFrom (place : String) {vs ws : List Value}
    (alike : List.Forall₂ (sectionsAlike entryFields) vs ws) (i : Nat) :
    outcome (decodeEntriesFrom place i vs) = outcome (decodeEntriesFrom place i ws) := by
  have cons (i : Nat) (v : Value) (vs : List Value) :
      outcome (decodeEntriesFrom place i (v :: vs)) =
        (outcome (decodeEntry (join place (toString i)) v)).bind fun e =>
          (outcome (decodeEntriesFrom place (i + 1) vs)).bind fun es => some (e :: es) := by
    rw [decodeEntriesFrom, outcome_bind, outcome_under]
    intro decoded
    exact outcome_bind _ fun others => rfl
  induction alike generalizing i with
  | nil => rfl
  | cons first rest ih => rw [cons, cons, outcome_decodeEntry _ first, ih]

theorem outcome_decodeEntries (place : String) {v w : Value}
    (alike : listsAlike (sectionsAlike entryFields) v w) :
    outcome (decodeEntries place v) = outcome (decodeEntries place w) := by
  obtain rfl | ⟨vs, ws, rfl, rfl, alike⟩ := alike
  · rfl
  · exact outcome_decodeEntriesFrom place alike 0

theorem reads_images (place : String) : Reads (imagesField place) imagesFields := by
  have versionKey : Sets (imagesField place) "version_env" text? _ := sets_text rfl
  have defaultVersion : Sets (imagesField place) "default_version" text? _ := sets_text rfl
  have entries : Sets (imagesField place) "entry"
      (fun v => outcome (decodeEntries (join place "entry") v))
      (fun entries m => { m with entries }) := sets_section rfl
  constructor
  case known =>
    intro key absent
    simp only [imagesFields, List.map_cons, List.map_nil, List.mem_cons, not_or] at absent
    rw [imagesField] <;> simp [absent]
  case respects =>
    intro field member v w same a
    simp only [imagesFields, List.mem_cons, List.not_mem_nil, or_false] at member
    rcases member with rfl | rfl | rfl
    · exact versionKey.respects (congrArg text? same) a
    · exact defaultVersion.respects (congrArg text? same) a
    · exact entries.respects (outcome_decodeEntries _ same) a
  case distinct => decide
  case commute =>
    simp only [imagesFields, List.map_cons, List.map_nil, List.pairwise_cons, List.mem_cons,
      List.not_mem_nil, or_false, forall_eq_or_imp, forall_eq]
    exact ⟨⟨versionKey.commute defaultVersion fun _ _ _ => rfl,
        versionKey.commute entries fun _ _ _ => rfl⟩,
      defaultVersion.commute entries fun _ _ _ => rfl, by simp⟩

theorem outcome_decodeImages (place : String) {v w : Value}
    (alike : sectionsAlike imagesFields v w) :
    outcome (decodeImages place v) = outcome (decodeImages place w) := by
  obtain rfl | ⟨a, b, rfl, rfl, alike⟩ := alike
  · rfl
  · exact outcome_of_alike (reads_images place) alike place {}

theorem sets_version : Sets rootField "version" (fun v => (decodeVersion v).toOption)
    (fun n p => { p with version := some n }) := sets_plain rfl

theorem sets_runtime : Sets rootField "runtime" (fun v => outcome (decodeRuntime "runtime.?" v))
    (fun r p => { p with runtime := some r }) := sets_section rfl

theorem sets_images : Sets rootField "images" (fun v => outcome (decodeImages "images.?" v))
    (fun s p => { p with images := some s }) := sets_section rfl

theorem reads_root : Reads rootField rootFields := by
  constructor
  case known =>
    intro key absent
    simp only [rootFields, List.map_cons, List.map_nil, List.mem_cons, not_or] at absent
    rw [rootField] <;> simp [absent]
  case respects =>
    intro field member v w same a
    simp only [rootFields, List.mem_cons, List.not_mem_nil, or_false] at member
    rcases member with rfl | rfl | rfl
    · exact sets_version.respects (by rw [show v = w from same]) a
    · exact sets_runtime.respects (outcome_decodeRuntime _ same) a
    · exact sets_images.respects (outcome_decodeImages _ same) a
  case distinct => decide
  case commute =>
    simp only [rootFields, List.map_cons, List.map_nil, List.pairwise_cons, List.mem_cons,
      List.not_mem_nil, or_false, forall_eq_or_imp, forall_eq]
    exact ⟨⟨sets_version.commute sets_runtime fun _ _ _ => rfl,
        sets_version.commute sets_images fun _ _ _ => rfl⟩,
      sets_runtime.commute sets_images fun _ _ _ => rfl, by simp⟩

variable {I : Interface} {σ : Type}

def loaded (path : String) (document : List Char) : Except Failure ProjectFile := do
  let decoded ← (parse document).mapError fun cause => (Failure.of cause).within (.parsing path)
  decoded.value.reloaded path

theorem load_silent {path : String} {bytes : List UInt8} {document : List Char}
    (text : textOf path bytes = .ok document) (m : Machine I σ) (s : σ) :
    ((load path (.ok bytes)).run.run m s).silent = ([], loaded path document, s) := by
  rw [load_told text, loaded]
  cases parse document with
  | error cause => exact Run.silent_told _ _ s
  | ok decoded => exact Run.silent_told _ _ s

theorem exists_tree {document : List Char} {entries : Table}
    (given : (readTree document).toOption.map rootTable = some entries) :
    ∃ tree, readTree document = .ok tree ∧ rootTable tree = entries := by
  obtain ⟨tree, read, table⟩ := Option.map_eq_some_iff.mp given
  exact ⟨tree, toOption_eq_some.mp read, table⟩

theorem loaded_of_outcome {document : List Char} {tree : Toml.Node}
    (read : readTree document = .ok tree) (path : String) :
    (outcome (decode (rootTable tree)) = none → ∃ place mismatch, loaded path document =
      .error ((Failure.of (.unfit place mismatch)).within (.parsing path))) ∧
    ∀ p, outcome (decode (rootTable tree)) = some p → loaded path document = p.reloaded path := by
  rw [loaded, parse, read, ok_bind]
  cases decode (rootTable tree) with
  | error m =>
      constructor
      · intro _
        exact ⟨_, _, rfl⟩
      · rintro p ⟨⟩
  | ok decoded =>
      constructor
      · rintro ⟨⟩
      · rintro p ⟨⟩
        rfl

/-- Two files that are alike in their known fields come to the same project file, or neither of them
fits, or both are refused for the same version. -/
theorem load_of_known_fields (m : Machine I σ) (s : σ) (path : String) {bytes bytes' : List UInt8}
    {document document' : List Char} {tree tree' : Toml.Node}
    (text : textOf path bytes = .ok document) (text' : textOf path bytes' = .ok document')
    (read : readTree document = .ok tree) (read' : readTree document' = .ok tree')
    (alike : TablesAlike rootFields (rootTable tree) (rootTable tree')) :
    let result := ((load path (.ok bytes)).run.run m s).value
    let result' := ((load path (.ok bytes')).run.run m s).value
    (∃ p, result = .ok p ∧ result' = .ok p) ∨
      (∃ place place' mismatch mismatch',
        result = .error ((Failure.of (.unfit place mismatch)).within (.parsing path)) ∧
        result' = .error ((Failure.of (.unfit place' mismatch')).within (.parsing path))) ∨
      ∃ version, version ≠ 1 ∧ result = .error (.of (.unsupportedVersion path version)) ∧
        result' = .error (.of (.unsupportedVersion path version)) := by
  intro result result'
  have value : result = loaded path document := (Run.silent_eq (load_silent text m s)).2.1
  have value' : result' = loaded path document' := (Run.silent_eq (load_silent text' m s)).2.1
  have same : outcome (decode (rootTable tree)) = outcome (decode (rootTable tree')) :=
    outcome_of_alike reads_root alike "" {}
  obtain ⟨unfit, fits⟩ := loaded_of_outcome read path
  obtain ⟨unfit', fits'⟩ := loaded_of_outcome read' path
  rw [value, value']
  rw [← same] at unfit' fits'
  cases ended : outcome (decode (rootTable tree)) with
  | none =>
      obtain ⟨place, mismatch, failed⟩ := unfit ended
      obtain ⟨place', mismatch', failed'⟩ := unfit' ended
      exact .inr (.inl ⟨place, place', mismatch, mismatch', failed, failed'⟩)
  | some p =>
      rw [fits p ended, fits' p ended]
      cases version : p.version with
      | none =>
          have known := reloaded_known path (.inl version)
          exact .inl ⟨p, known, known⟩
      | some v =>
          by_cases first : v = 1
          · subst first
            have known := reloaded_known path (.inr version)
            exact .inl ⟨p, known, known⟩
          · have other := reloaded_other path version first
            exact .inr (.inr ⟨v, first, other, other⟩)

def plainText : List Char :=
  "version = 1\n[runtime]\ncontainer_cli = \"podman\"\n".toList ++
    "[[images.entry]]\nname = \"db\"\ndefault = \"db:1\"\n".toList

def mixedText : List Char :=
  "color = \"red\"\nversion = 1\n".toList ++
    "[[images.entry]]\ndefault = \"db:1\"\nowner = []\nname = \"db\"\n".toList ++
    "[images.more]\nx = 1\n[runtime]\ntimeout = 5\ncontainer_cli = \"podman\"\n".toList

theorem load_of_known_fields_mixed :
    let w : Workspace := { host := Host.emptyDesk }
    let bytes (document : List Char) := Text.Utf8.encode (String.ofList document)
    let result (document : List Char) :=
      ((load "provision.toml" (.ok (bytes document))).run.run Workspace.machine w).value
    ∃ tree tree', readTree plainText = .ok tree ∧ readTree mixedText = .ok tree' ∧
      TablesAlike rootFields (rootTable tree) (rootTable tree') ∧
      ∃ p, result plainText = .ok p ∧ result mixedText = .ok p := by
  intro w bytes result
  obtain ⟨plain, read, table⟩ : ∃ tree, readTree plainText = .ok tree ∧ rootTable tree = [
      ("version", .scalar (.integer 1)),
      ("runtime", .table [("container_cli", .scalar (.text "podman"))]),
      ("images", .table [("entry", .array [.table [
        ("name", .scalar (.text "db")), ("default", .scalar (.text "db:1"))]])])] :=
    exists_tree (by decide +kernel)
  obtain ⟨mixed, read', table'⟩ : ∃ tree, readTree mixedText = .ok tree ∧ rootTable tree = [
      ("color", .scalar (.text "red")),
      ("version", .scalar (.integer 1)),
      ("images", .table [
        ("entry", .array [.table [("default", .scalar (.text "db:1")), ("owner", .array []),
          ("name", .scalar (.text "db"))]]),
        ("more", .table [("x", .scalar (.integer 1))])]),
      ("runtime", .table [("timeout", .scalar (.integer 5)),
        ("container_cli", .scalar (.text "podman"))])] :=
    exists_tree (by decide +kernel)
  have alike : TablesAlike rootFields (rootTable plain) (rootTable mixed) := by
    rw [table, table']
    refine ⟨by decide, by decide, ?_⟩
    simp only [rootFields, List.mem_cons, List.not_mem_nil, or_false, forall_eq_or_imp, forall_eq]
    refine ⟨.some rfl, .some (.inr ⟨_, _, rfl, rfl, ?_⟩), .some (.inr ⟨_, _, rfl, rfl, ?_⟩)⟩
    · refine ⟨by decide, by decide, ?_⟩
      simp only [runtimeFields, List.mem_singleton, forall_eq]
      exact .some rfl
    · refine ⟨by decide, by decide, ?_⟩
      simp only [imagesFields, List.mem_cons, List.not_mem_nil, or_false, forall_eq_or_imp,
        forall_eq]
      refine ⟨.none, .none, .some (.inr ⟨_, _, rfl, rfl, .cons (.inr ⟨_, _, rfl, rfl, ?_⟩) .nil⟩)⟩
      refine ⟨by decide, by decide, ?_⟩
      simp only [entryFields, List.mem_cons, List.not_mem_nil, or_false, forall_eq_or_imp,
        forall_eq]
      exact ⟨.some rfl, .none, .some rfl, .none⟩
  -- what the first text comes to rules out that both are refused
  have ended : loaded "provision.toml" plainText = .ok {
      version := some 1
      runtime := some { commandLine := some "podman" }
      images := some { entries := [{ name := "db", reference := some "db:1" }] } } :=
    toOption_eq_some.mp (by decide +kernel)
  refine ⟨plain, mixed, read, read', alike, ?_⟩
  have value : result plainText = _ :=
    (Run.silent_eq (load_silent (textOf_encode "provision.toml" plainText) _ w)).2.1
  rcases load_of_known_fields Workspace.machine w "provision.toml" (textOf_encode _ plainText)
    (textOf_encode _ mixedText) read read' alike with
    accepted | ⟨_, _, _, _, refused, -⟩ | ⟨_, -, refused, -⟩
  · exact accepted
  · cases (value.trans ended).symm.trans refused
  · cases (value.trans ended).symm.trans refused

end ProjectFile

end ImageStock
