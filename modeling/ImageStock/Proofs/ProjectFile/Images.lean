import ImageStock.Proofs.Catalog
import ImageStock.Proofs.Environment

/-! Catalogs out of image sections. Main statement: a section stands for a catalog unless an entry
has no origin or two, and then the first such entry is named; entries take the place of the built-in
items together with their version, so that a repository among them needs a version from elsewhere.
-/

namespace ImageStock

namespace ProjectFile.Entry

/-- An entry with two origins or with none is no item; the cause says which, and of which entry. -/
inductive Rejects (e : Entry) : Cause → Prop where
  | both {reference repository : String} (complete : e.reference = some reference)
      (tagged : e.repository = some repository) : e.Rejects (.twoOrigins e.name)
  | neither (incomplete : e.reference = none) (untagged : e.repository = none) :
      e.Rejects (.noOrigin e.name)

/-- An item with the name, the setting and the one origin of an entry. -/
inductive Describes (e : Entry) : Item → Prop where
  | fixed {text : String} (complete : e.reference = some text) (untagged : e.repository = none) :
      e.Describes ⟨e.name, e.overrideKey, .fixed text⟩
  | versioned {text : String} (incomplete : e.reference = none)
      (tagged : e.repository = some text) : e.Describes ⟨e.name, e.overrideKey, .versioned text⟩

variable {e : Entry}

theorem toItem_of_rejects {cause : Cause} (rejected : e.Rejects cause) :
    e.toItem = .error (.of cause) := by
  cases rejected with
  | both complete tagged => simp only [toItem, complete, tagged]
  | neither incomplete untagged => simp only [toItem, incomplete, untagged]

theorem toItem_of_describes {item : Item} (described : e.Describes item) :
    e.toItem = .ok item := by
  cases described with
  | fixed complete untagged => simp only [toItem, complete, untagged]
  | versioned incomplete tagged => simp only [toItem, incomplete, tagged]

theorem rejects_or_describes (e : Entry) :
    (∃ cause, e.Rejects cause) ∨ ∃ item, e.Describes item := by
  cases complete : e.reference with
  | none =>
      cases tagged : e.repository with
      | none => exact .inl ⟨_, .neither complete tagged⟩
      | some repository => exact .inr ⟨_, .versioned complete tagged⟩
  | some reference =>
      cases tagged : e.repository with
      | none => exact .inr ⟨_, .fixed complete tagged⟩
      | some repository => exact .inl ⟨_, .both complete tagged⟩

theorem describes_of_toItem {item : Item} (read : e.toItem = .ok item) : e.Describes item := by
  rcases e.rejects_or_describes with ⟨cause, rejected⟩ | ⟨other, described⟩
  · rw [toItem_of_rejects rejected] at read
    cases read
  · rw [toItem_of_describes described] at read
    cases read
    exact described

theorem exists_toItem_eq_ok (sound : ∀ cause, ¬ e.Rejects cause) :
    ∃ item, e.toItem = .ok item := by
  rcases e.rejects_or_describes with ⟨cause, rejected⟩ | ⟨item, described⟩
  · exact absurd rejected (sound cause)
  · exact ⟨item, toItem_of_describes described⟩

theorem chain_twoOrigins (name : String) : (Failure.of (.twoOrigins name)).chain =
    "Image entry '" ++ name ++ "' sets both 'default' and 'base'; use exactly one" := rfl

theorem chain_noOrigin (name : String) : (Failure.of (.noOrigin name)).chain =
    "Image entry '" ++ name ++ "' needs either 'default' or 'base'" := rfl

/-- One message ends with a letter, the other with a quote. -/
theorem chain_twoOrigins_ne (name other : String) :
    (Failure.of (.twoOrigins name)).chain ≠ (Failure.of (.noOrigin other)).chain := by
  intro same
  have backwards := congrArg (fun text => text.toList.reverse) same
  simp [chain_twoOrigins, chain_noOrigin] at backwards

theorem Rejects.eq_of_chain {e' : Entry} {cause cause' : Cause} (first : e.Rejects cause)
    (second : e'.Rejects cause')
    (same : (Failure.of cause).chain = (Failure.of cause').chain) : cause = cause' := by
  cases first with
  | both complete tagged =>
      cases second with
      | both complete' tagged' =>
          have names : e.name = e'.name := by simpa [chain_twoOrigins] using same
          rw [names]
      | neither incomplete untagged => exact absurd same (chain_twoOrigins_ne _ _)
  | neither incomplete untagged =>
      cases second with
      | both complete tagged => exact absurd same.symm (chain_twoOrigins_ne _ _)
      | neither incomplete' untagged' =>
          have names : e.name = e'.name := by simpa [chain_noOrigin] using same
          rw [names]

end ProjectFile.Entry

namespace ProjectFile

variable {s : Images}

theorem toCatalog_of_entries (given : s.entries ≠ []) :
    s.toCatalog = (s.entries.mapM Entry.toItem).map fun items =>
      { items
        versionKey := s.versionKey.getD "APP_VERSION"
        defaultVersion := s.defaultVersion } := by
  have some : s.entries.isEmpty = false := List.isEmpty_eq_false_iff.mpr given
  rw [Images.toCatalog, some]
  cases s.entries.mapM Entry.toItem <;> rfl

theorem toCatalog_of_no_entries (empty : s.entries = []) :
    s.toCatalog = .ok {
      items := Catalog.builtIn.items
      versionKey := s.versionKey.getD "APP_VERSION"
      defaultVersion := some (s.defaultVersion.getD "latest") } := by
  rw [Images.toCatalog, empty]
  cases s.defaultVersion <;> rfl

theorem toCatalog_of_rejects {front back : List Entry} {e : Entry} {cause : Cause}
    (split : s.entries = front ++ e :: back)
    (sound : ∀ earlier ∈ front, ∀ other, ¬ earlier.Rejects other) (rejected : e.Rejects cause) :
    s.toCatalog = .error (.of cause) := by
  have given : s.entries ≠ [] := by simp [split]
  have failed : s.entries.mapM Entry.toItem = .error (.of cause) := by
    rw [split]
    apply mapM_eq_error
    · intro earlier member
      exact Entry.exists_toItem_eq_ok (sound earlier member)
    · exact Entry.toItem_of_rejects rejected
  rw [toCatalog_of_entries given, failed]
  rfl

theorem toCatalog_eq_error_iff :
    (∃ failure, s.toCatalog = .error failure) ↔ ∃ e ∈ s.entries, ∃ cause, e.Rejects cause := by
  by_cases given : s.entries = []
  · rw [toCatalog_of_no_entries given, given]
    exact iff_of_false nofun nofun
  · simp only [toCatalog_of_entries given, map_eq_error]
    constructor
    · rintro ⟨failure, failed⟩
      obtain ⟨e, member, unread⟩ := exists_of_mapM_eq_error failed
      rcases e.rejects_or_describes with rejected | ⟨item, described⟩
      · exact ⟨e, member, rejected⟩
      · rw [Entry.toItem_of_describes described] at unread
        cases unread
    · rintro ⟨e, member, cause, rejected⟩
      rw [exists_eq_error_iff]
      rintro ⟨items, read⟩
      obtain ⟨item, -, accepted⟩ := exists_mem_of_forall₂ (forall₂_of_mapM_eq_ok read) member
      rw [Entry.toItem_of_rejects rejected] at accepted
      cases accepted

theorem exists_items_of_toCatalog {catalog : Catalog} (given : s.entries ≠ [])
    (accepted : s.toCatalog = .ok catalog) :
    ∃ items, s.entries.mapM Entry.toItem = .ok items ∧ catalog = {
      items
      versionKey := s.versionKey.getD "APP_VERSION"
      defaultVersion := s.defaultVersion } := by
  rw [toCatalog_of_entries given] at accepted
  cases read : s.entries.mapM Entry.toItem with
  | error failure =>
      rw [read] at accepted
      cases accepted
  | ok items =>
      rw [read] at accepted
      exact ⟨items, rfl, (Except.ok.inj accepted).symm⟩

theorem describes_of_toCatalog {catalog : Catalog} (given : s.entries ≠ [])
    (accepted : s.toCatalog = .ok catalog) :
    List.Forall₂ Entry.Describes s.entries catalog.items ∧
      catalog.defaultVersion = s.defaultVersion := by
  obtain ⟨items, read, rfl⟩ := exists_items_of_toCatalog given accepted
  exact ⟨(forall₂_of_mapM_eq_ok read).imp fun e item => Entry.describes_of_toItem, rfl⟩

theorem versionKey_of_toCatalog {catalog : Catalog} (accepted : s.toCatalog = .ok catalog) :
    catalog.versionKey = s.versionKey.getD "APP_VERSION" := by
  by_cases given : s.entries = []
  · rw [toCatalog_of_no_entries given] at accepted
    cases accepted
    rfl
  · obtain ⟨items, -, rfl⟩ := exists_items_of_toCatalog given accepted
    rfl

theorem asksForVersion_of_describes {entries : List Entry} {catalog : Catalog}
    (described : List.Forall₂ Entry.Describes entries catalog.items) {e : Entry}
    (member : e ∈ entries) (tagged : e.repository ≠ none) : catalog.AsksForVersion := by
  obtain ⟨item, inside, same⟩ := exists_mem_of_forall₂ described member
  refine ⟨item, inside, ?_⟩
  cases same with
  | fixed complete untagged => exact absurd untagged tagged
  | versioned incomplete tagged => rfl

end ProjectFile

namespace Catalog

variable {catalog : Catalog} {env : Lookup}

theorem version?_of_no_default (none : catalog.defaultVersion = none) :
    catalog.version? env = env.nonempty? catalog.versionKey := by
  rw [version?, none]
  cases env.nonempty? catalog.versionKey <;> rfl

theorem resolve_of_asksForVersion (asks : catalog.AsksForVersion) :
    catalog.resolve env = match catalog.version? env with
      | some version => catalog.items.mapM (·.choose env version)
      | none => .error (.of (.noVersion catalog.versionKey)) := by
  have needed : catalog.needsVersion = true := needsVersion_iff.mpr asks
  cases found : catalog.version? env with
  | none => simp only [resolve, needed, found, if_true]
  | some version => simp only [resolve, needed, found, if_true]

end Catalog

theorem Lookup.nonempty?_of_unset {env : Lookup} {key : String}
    (unset : env key = none ∨ env key = some "") : env.nonempty? key = none := by
  rcases unset with absent | empty
  · rw [nonempty?, absent]
    rfl
  · rw [nonempty?, empty]
    rfl

namespace ProjectFile

/-- A section is a catalog unless an entry is no item, and then the first such entry is named. The
catalog has the items that the entries describe, or else the built-in ones; a version that neither
it nor its section has can come from nowhere but the setting. -/
theorem toCatalog_outcome (s : Images) :
    let key := s.versionKey.getD "APP_VERSION"
    ((∃ failure, s.toCatalog = .error failure) ↔ ∃ e ∈ s.entries, ∃ cause, e.Rejects cause) ∧
    (∀ front e back cause, s.entries = front ++ e :: back →
      (∀ earlier ∈ front, ∀ other, ¬ earlier.Rejects other) → e.Rejects cause →
      s.toCatalog = .error (.of cause)) ∧
    (∀ e e' cause cause', Entry.Rejects e cause → Entry.Rejects e' cause' →
      (Failure.of cause).chain = (Failure.of cause').chain → cause = cause') ∧
    ∀ catalog, s.toCatalog = .ok catalog →
      catalog.versionKey = key ∧
      (s.entries ≠ [] → List.Forall₂ Entry.Describes s.entries catalog.items ∧
        catalog.defaultVersion = s.defaultVersion) ∧
      (s.entries = [] → catalog.items = Catalog.builtIn.items ∧
        catalog.defaultVersion = some (s.defaultVersion.getD "latest")) ∧
      ∀ p : ProjectFile, p.images = some s → ∀ flag line user,
        ∃ settings, Settings.merge flag line (some p) user = .ok settings ∧
          settings.catalog = catalog ∧
          (s.defaultVersion = none → (∃ e ∈ s.entries, e.repository ≠ none) → ∀ env,
            (env key = none ∨ env key = some "" →
              settings.catalog.resolve env = .error (.of (.noVersion key))) ∧
            ∀ version, env.Gives key version →
              settings.catalog.resolve env = catalog.items.mapM (·.choose env version)) := by
  intro key
  refine ⟨toCatalog_eq_error_iff, fun _ _ _ _ => toCatalog_of_rejects,
    fun _ _ _ _ => Entry.Rejects.eq_of_chain, ?_⟩
  intro catalog accepted
  have named : catalog.versionKey = key := versionKey_of_toCatalog accepted
  refine ⟨named, fun given => describes_of_toCatalog given accepted, ?_, ?_⟩
  · intro empty
    rw [toCatalog_of_no_entries empty] at accepted
    cases accepted
    exact ⟨rfl, rfl⟩
  · intro p brought flag line user
    have own : Settings.catalogOf (some p) = .ok catalog := by
      rw [Settings.catalogOf, Option.getD_some, brought]
      exact accepted
    rw [Settings.merge_eq, own]
    refine ⟨_, rfl, rfl, ?_⟩
    rintro unset ⟨e, member, tagged⟩ env
    have given : s.entries ≠ [] := List.ne_nil_of_mem member
    obtain ⟨described, version⟩ := describes_of_toCatalog given accepted
    have asks := asksForVersion_of_describes described member tagged
    rw [unset] at version
    simp only [Catalog.resolve_of_asksForVersion asks, Catalog.version?_of_no_default version,
      named]
    constructor
    · intro missing
      rw [Lookup.nonempty?_of_unset missing]
    · intro version gives
      rw [(env.nonempty?_eq_some_iff key version).mpr gives]

def brokenImages : Images where
  entries := [
    { name := "db", reference := some "db:1" },
    { name := "cache", reference := some "", repository := some "" },
    { name := "app" }]

def taggedImages : Images where
  entries := [
    { name := "db", reference := some "db:1" },
    { name := "app", repository := some "team/app" }]

/-- The first entry that is no item is named, and the built-in version is not that of a repository
in a section. -/
theorem toCatalog_outcome_tagged :
    brokenImages.toCatalog = .error (.of (.twoOrigins "cache")) ∧
      ∃ settings, Settings.merge none none (some { images := some taggedImages }) {} =
          .ok settings ∧
        settings.catalog.resolve (fun _ => none) = .error (.of (.noVersion "APP_VERSION")) := by
  obtain ⟨-, first, -, -⟩ := toCatalog_outcome brokenImages
  obtain ⟨-, -, -, accepts⟩ := toCatalog_outcome taggedImages
  have sound : ∀ earlier ∈ [({ name := "db", reference := some "db:1" } : Entry)],
      ∀ other, ¬ earlier.Rejects other := by
    intro earlier member other rejected
    rw [List.mem_singleton.mp member] at rejected
    cases rejected with
    | both complete tagged => cases tagged
    | neither incomplete untagged => cases incomplete
  obtain ⟨-, -, -, merges⟩ := accepts _ rfl
  obtain ⟨settings, merged, -, resolves⟩ :=
    merges { images := some taggedImages } rfl none none {}
  obtain ⟨missing, -⟩ := resolves rfl ⟨_, List.mem_cons_of_mem _ List.mem_cons_self, by simp⟩
    fun _ => none
  exact ⟨first [_] _ [_] _ rfl sound (.both rfl rfl), settings, merged, missing (.inl rfl)⟩

end ProjectFile

end ImageStock
