import ImageStock.Catalog
import ImageStock.Provision

/-!
Runtimes that follow a script: a local store, and rules by which calls fail. With them a plan can
be rehearsed without an engine.
-/

namespace ImageStock

/-- The references in a local store, in ascending order and without repetition. -/
structure Store where
  references : List String := []
  deriving DecidableEq, Repr

namespace Store

def contains (s : Store) (reference : String) : Bool := s.references.contains reference

def insertInto (reference : String) : List String → List String
  | [] => [reference]
  | r :: rest =>
    if reference < r then reference :: r :: rest
    else if reference = r then r :: rest
    else r :: insertInto reference rest

def insert (s : Store) (reference : String) : Store := ⟨insertInto reference s.references⟩

def erase (s : Store) (reference : String) : Store := ⟨s.references.filter (· ≠ reference)⟩

def ofList (references : List String) : Store := references.foldl insert {}

theorem mem_insertInto {a b : String} {l : List String} :
    a ∈ insertInto b l ↔ a = b ∨ a ∈ l := by
  induction l with
  | nil => simp [insertInto]
  | cons r rest ih =>
    simp only [insertInto]
    split
    · simp
    · split
      · next h => subst h; simp
      · simp only [List.mem_cons, ih]
        constructor
        · rintro (h | h | h) <;> simp [h]
        · rintro (h | h | h) <;> simp [h]

@[simp] theorem contains_insert (s : Store) (a b : String) :
    (s.insert b).contains a = (a == b || s.contains a) := by
  simp [contains, insert, mem_insertInto, Bool.beq_eq_decide_eq, Bool.decide_or]

@[simp] theorem contains_erase (s : Store) (a b : String) :
    (s.erase b).contains a = (a != b && s.contains a) := by
  by_cases h : a = b <;> simp [contains, erase, h]

end Store

namespace Scripted

/-- How a reference is treated: the fault of each query and of each pull, and whether a pull that
succeeds puts the image into the store. -/
structure Rule where
  queryFault : Option Fault := none
  pullFault : Option Fault := none
  keeps : Bool := true
  deriving DecidableEq, Repr

structure State where
  present : Store := {}
  rules : List (String × Rule) := []
  deriving DecidableEq, Repr

namespace State

def rule (s : State) (reference : String) : Rule := (s.rules.lookup reference).getD {}

def setRule (s : State) (reference : String) (rule : Rule) : State :=
  { s with rules := (reference, rule) :: s.rules }

end State

def query (image : Image) (s : State) : Except Fault Bool :=
  match (s.rule image.reference).queryFault with
  | some fault => .error fault
  | none => .ok (s.present.contains image.reference)

def pull (image : Image) (s : State) : Except Fault Unit × State :=
  let rule := s.rule image.reference
  match rule.pullFault with
  | some fault => (.error fault, s)
  | none =>
    (.ok (), if rule.keeps then { s with present := s.present.insert image.reference } else s)

def machine : Machine runtime State where
  answer
    | .query image, s => (query image s, s)
    | .pull image, s => pull image s

inductive Step where
  | ensure (reference : String)
  | provide (references : List String)
  | provideCatalog (catalog : Catalog) (env : Lookup)
  | remove (reference : String)
  | setRule (reference : String) (rule : Rule)

inductive Report where
  | outcome (o : Outcome)
  | tally (t : Tally)
  | removed (wasPresent : Bool)
  | ruleSet
  deriving DecidableEq, Repr

abbrev Rehearsal (α : Type) := Run runtime State (Except Failure α)

def imageOf (reference : String) : Except Failure Image :=
  match Image.ofString? reference with
  | some image => .ok image
  | none => .error (.ofFault .emptyReference)

/-- A dialogue on images that may have failed to be images. No call is made if one is missing. -/
def rehearse {α β : Type} (images : Except Failure α) (d : α → Attempt runtime Fault β)
    (s : State) : Rehearsal β :=
  match images with
  | .error failure => ⟨[], .error failure, s⟩
  | .ok images => ((d images).mapError Failure.ofFault).run.run machine s

def Rehearsal.map {α β : Type} (f : α → β) (r : Rehearsal α) : Rehearsal β :=
  { r with value := r.value.map f }

def Step.perform (name : String) (s : State) : Step → Rehearsal Report
  | ensure reference => (rehearse (imageOf reference) (ImageStock.ensure name) s).map .outcome
  | provide references =>
    (rehearse (references.mapM imageOf) (ImageStock.provide name) s).map .tally
  | provideCatalog catalog env =>
    (rehearse ((catalog.resolve env).map (·.map (·.image))) (ImageStock.provide name) s).map
      .tally
  | remove reference =>
    ⟨[], .ok (.removed (s.present.contains reference)),
      { s with present := s.present.erase reference }⟩
  | setRule reference rule => ⟨[], .ok .ruleSet, s.setRule reference rule⟩

def performEach (name : String) (s : State) : List Step → List (Rehearsal Report)
  | [] => []
  | step :: steps =>
    let r := step.perform name s
    r :: performEach name r.state steps

end Scripted

end ImageStock
