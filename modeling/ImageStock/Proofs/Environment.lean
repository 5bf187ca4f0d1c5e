import Mathlib.Data.List.ReduceOption
import ImageStock.Proofs.Catalog
import ImageStock.Scripted
import ImageStock.Settings

/-! What of an environment matters to a plan. Main statement: a plan and a run of it are the same in
two environments that agree on the container command, on the settings that the catalog names and,
if an item asks for a version, on that of the version; and a single setting reaches only the
positions whose items name it. -/

namespace ImageStock

def Lookup.letters? (env : Lookup) (key : String) : Option String :=
  (env key).filter fun value => !Text.allBlank value

theorem Lookup.filter_nonempty? (env : Lookup) (key : String) :
    (env.nonempty? key).filter (fun value => !Text.allBlank value) = env.letters? key := by
  rw [nonempty?, letters?, Option.filter_filter]
  congr 1
  funext value
  by_cases empty : value = ""
  · subst empty
    rfl
  · simp [empty]

namespace Settings

def catalogOf (project : Option ProjectFile) : Except Failure Catalog :=
  match (project.getD {}).images with
  | some images => images.toCatalog
  | none => .ok .builtIn

theorem merge_eq (flag env : Option String) (project : Option ProjectFile) (user : UserFile) :
    merge flag env project user = (catalogOf project).map fun catalog =>
      { commandLine := chooseCommandLine
          [flag, env, (project.getD {}).runtime.bind (·.commandLine), user.commandLine]
        catalog } := by
  rw [merge, catalogOf]
  cases (project.getD {}).images with
  | none => rfl
  | some images => cases images.toCatalog <;> rfl

theorem chooseCommandLine_filter (front back : List (Option String)) (layer : Option String) :
    chooseCommandLine (front ++ layer :: back) =
      chooseCommandLine (front ++ layer.filter (fun line => !Text.allBlank line) :: back) := by
  have skipped : ((layer :: back).reduceOption).find? (fun line => !Text.allBlank line) =
      ((layer.filter (fun line => !Text.allBlank line) :: back).reduceOption).find?
        fun line => !Text.allBlank line := by
    cases layer with
    | none => rfl
    | some line =>
        cases blank : Text.allBlank line <;>
          simp [Option.filter, List.reduceOption, blank]
  simp only [chooseCommandLine, List.reduceOption_append, List.find?_append, skipped]

theorem chooseCommandLine_front {front : List (Option String)} {line : String}
    (given : some line ∈ front) (written : Text.allBlank line = false)
    (back back' : List (Option String)) :
    chooseCommandLine (front ++ back) = chooseCommandLine (front ++ back') := by
  have found : ((front.reduceOption).find? fun line => !Text.allBlank line).isSome := by
    rw [List.find?_isSome]
    exact ⟨line, List.reduceOption_mem_iff.mpr given, by rw [written]; rfl⟩
  obtain ⟨chosen, found⟩ := Option.isSome_iff_exists.mp found
  simp only [chooseCommandLine, List.reduceOption_append, List.find?_append, found, Option.some_or]

theorem merge_congr (flag : Option String) {env env' : Lookup} {key : String}
    (same : env.letters? key = env'.letters? key) (project : Option ProjectFile)
    (user : UserFile) :
    merge flag (env.nonempty? key) project user = merge flag (env'.nonempty? key) project user := by
  have chosen := chooseCommandLine_filter [flag]
    [(project.getD {}).runtime.bind (·.commandLine), user.commandLine]
  simp only [List.singleton_append] at chosen
  simp only [merge_eq, chosen (env.nonempty? key), chosen (env'.nonempty? key),
    Lookup.filter_nonempty?, same]

end Settings

namespace Catalog

/-- The version that the items are chosen for; where none asks for one it does not matter. -/
def requiredVersion (catalog : Catalog) (env : Lookup) : Except Failure String :=
  if catalog.needsVersion then
    match catalog.version? env with
    | some version => .ok version
    | none => .error (.of (.noVersion catalog.versionKey))
  else .ok ""

theorem resolve_eq_bind (catalog : Catalog) (env : Lookup) :
    catalog.resolve env =
      catalog.requiredVersion env >>= fun version => catalog.items.mapM (·.choose env version) := by
  rw [resolve, requiredVersion]
  split
  · cases catalog.version? env <;> rfl
  · rfl

/-- Two environments give the same for all settings that a catalog reads. -/
structure ReadsAlike (catalog : Catalog) (env env' : Lookup) : Prop where
  overrides : ∀ item ∈ catalog.items, ∀ key, item.overrideKey = some key →
    env.nonempty? key = env'.nonempty? key
  version : catalog.AsksForVersion →
    env.nonempty? catalog.versionKey = env'.nonempty? catalog.versionKey

variable {catalog : Catalog} {env env' : Lookup}

theorem requiredVersion_congr (same : catalog.AsksForVersion →
    env.nonempty? catalog.versionKey = env'.nonempty? catalog.versionKey) :
    catalog.requiredVersion env = catalog.requiredVersion env' := by
  rw [requiredVersion, requiredVersion]
  split
  · next asks => rw [version?, version?, same (needsVersion_iff.mp asks)]
  · rfl

end Catalog

theorem Item.choose_congr {item : Item} {env env' : Lookup}
    (same : ∀ key, item.overrideKey = some key → env.nonempty? key = env'.nonempty? key)
    (version : String) : item.choose env version = item.choose env' version := by
  have override : item.override? env = item.override? env' := by
    cases named : item.overrideKey with
    | none => simp only [Item.override?, named, Option.bind_none]
    | some key => simp only [Item.override?, named, Option.bind_some, same key named]
  simp only [Item.choose, Item.reference, override]

theorem Catalog.resolve_congr {catalog : Catalog} {env env' : Lookup}
    (same : catalog.ReadsAlike env env') : catalog.resolve env = catalog.resolve env' := by
  rw [resolve_eq_bind, resolve_eq_bind, requiredVersion_congr same.version]
  congr 1
  funext version
  exact mapM_congr fun item member => Item.choose_congr (same.overrides item member) version

theorem Catalog.choices_of_items {items : List Item} {env env' : Lookup} {key version : String}
    (differ : ∀ other, other ≠ key → env other = env' other) {choices choices' : List Choice}
    (first : List.Forall₂ (fun item choice => item.choose env version = .ok choice) items choices)
    (second : List.Forall₂ (fun item choice => item.choose env' version = .ok choice) items
      choices') :
    choices.map (·.name) = choices'.map (·.name) ∧
      ∀ (i : Nat) item, items[i]? = some item → item.overrideKey ≠ some key →
        choices[i]? = choices'[i]? := by
  induction first generalizing choices' with
  | nil =>
      cases second
      exact ⟨rfl, fun i item here => by simp at here⟩
  | @cons item choice items choices chosen rest ih =>
      rw [List.forall₂_cons_left_iff] at second
      obtain ⟨choice', choices', chosen', rest', rfl⟩ := second
      obtain ⟨names, positions⟩ := ih rest'
      constructor
      · rw [List.map_cons, List.map_cons, names, (Item.choose_eq_ok chosen).1,
          (Item.choose_eq_ok chosen').1]
      · intro i other here apart
        cases i with
        | succ i => exact positions i other here apart
        | zero =>
            cases Option.some.inj here
            have same : item.choose env version = item.choose env' version := by
              apply Item.choose_congr
              intro own named
              have elsewhere : own ≠ key := by
                rintro rfl
                exact apart named
              rw [Lookup.nonempty?, Lookup.nonempty?, differ own elsewhere]
            rw [chosen, chosen', Except.ok.injEq] at same
            rw [List.getElem?_cons_zero, List.getElem?_cons_zero, same]

def Settings.planIn (flag : Option String) (project : Option ProjectFile) (user : UserFile)
    (env : Lookup) : Except Failure Plan := do
  let settings ← merge flag (env.nonempty? "CONTAINER_CLI") project user
  settings.plan env

def Scripted.rehearsePlan (plan : Except Failure Plan) (s : State) : Rehearsal Tally :=
  rehearse plan (fun p => ImageStock.provide p.engine.program p.images) s

/-- A plan depends on nothing in the environment but what it reads, and a single setting that is
not the version changes at most the images of the items that name it. -/
theorem plan_reads_only_named_settings (flag : Option String) (project : Option ProjectFile)
    (user : UserFile) (env env' : Lookup) :
    let merged (env : Lookup) := Settings.merge flag (env.nonempty? "CONTAINER_CLI") project user
    let plan (env : Lookup) := Settings.planIn flag project user env
    (env.letters? "CONTAINER_CLI" = env'.letters? "CONTAINER_CLI" →
      (∀ settings, merged env = .ok settings → settings.catalog.ReadsAlike env env') →
      merged env = merged env' ∧ plan env = plan env' ∧
        ∀ s, Scripted.rehearsePlan (plan env) s = Scripted.rehearsePlan (plan env') s) ∧
    ∀ key, (∀ other, other ≠ key → env other = env' other) →
      ∀ settings settings', merged env = .ok settings → merged env' = .ok settings' →
        key ≠ settings.catalog.versionKey → ∀ choices choices',
        settings.catalog.resolve env = .ok choices →
        settings'.catalog.resolve env' = .ok choices' →
        choices.map (·.name) = choices'.map (·.name) ∧
          ∀ (i : Nat) item, settings.catalog.items[i]? = some item →
            item.overrideKey ≠ some key → choices[i]? = choices'[i]? := by
  intro merged plan
  constructor
  · intro command reads
    have layers : merged env = merged env' := Settings.merge_congr flag command project user
    have same : plan env = plan env' := by
      show merged env >>= (·.plan env) = merged env' >>= (·.plan env')
      rw [← layers]
      cases ended : merged env with
      | error failure => rfl
      | ok settings =>
          have resolved := Catalog.resolve_congr (reads settings ended)
          rw [ok_bind, ok_bind, Settings.plan, Settings.plan, resolved]
    exact ⟨layers, same, fun s => by rw [same]⟩
  · intro key differ settings settings' first second other choices choices' resolved resolved'
    have catalogs : settings'.catalog = settings.catalog := by
      simp only [merged, Settings.merge_eq] at first second
      cases brought : Settings.catalogOf project with
      | error failure =>
          rw [brought] at first
          cases first
      | ok catalog =>
          rw [brought] at first second
          cases first
          cases second
          rfl
    have version :
        settings.catalog.requiredVersion env = settings.catalog.requiredVersion env' := by
      apply Catalog.requiredVersion_congr
      intro _
      rw [Lookup.nonempty?, Lookup.nonempty?, differ _ other.symm]
    rw [catalogs] at resolved'
    rw [Catalog.resolve_eq_bind, bind_eq_ok] at resolved resolved'
    obtain ⟨v, required, mapped⟩ := resolved
    obtain ⟨v', required', mapped'⟩ := resolved'
    rw [← version, required, Except.ok.injEq] at required'
    subst required'
    exact Catalog.choices_of_items differ (forall₂_of_mapM_eq_ok mapped)
      (forall₂_of_mapM_eq_ok mapped')

def twoImages : ProjectFile where
  images := some {
    entries := [
      { name := "db", overrideKey := some "DB", reference := some "db:1" },
      { name := "cache", reference := some "cache:1" }] }

/-- Blank and empty values make no difference, nor does a version that no item asks for; another
reference for the first image leaves the second one alone. -/
theorem plan_reads_only_named_settings_two :
    let plan := Settings.planIn none (some twoImages) {}
    let bare : Lookup := fun _ => none
    let idle : Lookup := fun key =>
      if key = "CONTAINER_CLI" then some " " else if key = "DB" then some ""
      else if key = "APP_VERSION" then some "2" else none
    let moved : Lookup := fun key => if key = "DB" then some "db:2" else none
    let references (choices : List Choice) := choices.map (·.image.reference)
    (plan idle = plan bare ∧
        (plan bare).map (fun p => references p.choices) = .ok ["db:1", "cache:1"]) ∧
      ∃ choices choices', (plan bare).map (·.choices) = .ok choices ∧
        (plan moved).map (·.choices) = .ok choices' ∧ references choices' = ["db:2", "cache:1"] ∧
        choices.map (·.name) = choices'.map (·.name) ∧ choices[1]? = choices'[1]? := by
  intro plan bare idle moved references
  obtain ⟨alike, -⟩ := plan_reads_only_named_settings none (some twoImages) {} idle bare
  obtain ⟨-, apart⟩ := plan_reads_only_named_settings none (some twoImages) {} bare moved
  have reads : ∀ settings,
      Settings.merge none (idle.nonempty? "CONTAINER_CLI") (some twoImages) {} = .ok settings →
        settings.catalog.ReadsAlike idle bare := by
    intro settings merged
    cases merged
    constructor
    · intro item member key named
      obtain rfl | rfl : item = ⟨"db", some "DB", .fixed "db:1"⟩ ∨
          item = ⟨"cache", none, .fixed "cache:1"⟩ := by
        simpa using member
      · cases named
        rfl
      · cases named
    · intro asks
      exact absurd (Catalog.needsVersion_iff.mpr asks) (by decide)
  obtain ⟨-, same, -⟩ := alike (by decide) reads
  have differ : ∀ other, other ≠ "DB" → bare other = moved other := by
    intro other elsewhere
    simp [bare, moved, elsewhere]
  obtain ⟨names, positions⟩ := apart "DB" differ _ _ rfl rfl (by decide)
    [⟨"db", "db:1", by decide⟩, ⟨"cache", "cache:1", by decide⟩]
    [⟨"db", "db:2", by decide⟩, ⟨"cache", "cache:1", by decide⟩]
    (toOption_eq_some.mp (by decide +kernel)) (toOption_eq_some.mp (by decide +kernel))
  exact ⟨⟨same, toOption_eq_some.mp (by decide +kernel)⟩, _, _,
    toOption_eq_some.mp (by decide +kernel), toOption_eq_some.mp (by decide +kernel), rfl, names,
    positions 1 _ rfl (by decide)⟩

end ImageStock
