import Mathlib.Data.List.TakeWhile
import ImageStock.Proofs.Provision.Segment
import ImageStock.Scripted

/-! Runs on a scripted runtime in closed form. Whether an image can be provided depends on the
store before the run alone, though the store changes while the run goes on: what a run pulls for
one image never stands in the way of another. -/

namespace ImageStock.Scripted

/-- A run gets past an image: it can be asked for, and it is present or can be pulled. -/
def State.Passable (s : State) (image : Image) : Prop :=
  (s.rule image.reference).queryFault = none ∧
    (s.present.contains image.reference = true ∨ (s.rule image.reference).pullFault = none)

def State.fault? (s : State) (image : Image) : Option Fault :=
  (s.rule image.reference).queryFault.or
    (if s.present.contains image.reference then none else (s.rule image.reference).pullFault)

def State.settle (s : State) (image : Image) : State :=
  if s.present.contains image.reference || !(s.rule image.reference).keeps then s
  else { s with present := s.present.insert image.reference }

namespace State

@[simp] theorem rules_settle (s : State) (image : Image) : (s.settle image).rules = s.rules := by
  unfold settle
  split <;> rfl

@[simp] theorem rule_settle (s : State) (image : Image) (reference : String) :
    (s.settle image).rule reference = s.rule reference := by
  rw [rule, rules_settle, rule]

theorem contains_settle (s : State) (image : Image) (reference : String) :
    (s.settle image).present.contains reference = true ↔
      s.present.contains reference = true ∨
        image.reference = reference ∧ (s.rule reference).keeps = true := by
  unfold settle
  by_cases same : image.reference = reference
  · subst same
    split
    · next unchanged =>
        rw [Bool.or_eq_true, Bool.not_eq_true'] at unchanged
        rcases unchanged with present | dropped
        · simp [present]
        · simp [dropped]
    · next changed =>
        rw [Bool.or_eq_true, Bool.not_eq_true', not_or, Bool.not_eq_false] at changed
        simp [changed.2]
  · have other : ¬ reference = image.reference := fun eq => same eq.symm
    split <;> simp [same, other]

theorem fault?_eq_none_iff (s : State) (image : Image) :
    s.fault? image = none ↔ s.Passable image := by
  cases present : s.present.contains image.reference <;> simp [fault?, Passable, present]

theorem fault?_of_not_passable {s : State} {image : Image} (blocked : ¬ s.Passable image) :
    s.fault? image =
      (s.rule image.reference).queryFault.or (s.rule image.reference).pullFault := by
  cases asked : (s.rule image.reference).queryFault with
  | some fault => simp [fault?, asked]
  | none =>
      have absent : s.present.contains image.reference ≠ true :=
        fun present => blocked ⟨asked, .inl present⟩
      simp [fault?, asked, absent]

/-- Getting past one image makes no other image passable and blocks none. -/
theorem fault?_settle {s : State} {image : Image} (passed : s.fault? image = none)
    (other : Image) : (s.settle image).fault? other = s.fault? other := by
  by_cases same : image.reference = other.reference
  · have before : s.fault? other = none := by rwa [fault?, ← same]
    rw [before, fault?_eq_none_iff, Passable, rule_settle, contains_settle]
    obtain ⟨asked, present | pulled⟩ := (fault?_eq_none_iff s other).mp before
    · exact ⟨asked, .inl (.inl present)⟩
    · exact ⟨asked, .inr pulled⟩
  · have unchanged : (s.settle image).present.contains other.reference =
        s.present.contains other.reference := by
      rw [Bool.eq_iff_iff, contains_settle]
      simp [same]
    rw [fault?, rule_settle, unchanged, fault?]

theorem contains_foldl_settle (images : List Image) (s : State) (reference : String) :
    (images.foldl settle s).present.contains reference = true ↔
      s.present.contains reference = true ∨
        ∃ image ∈ images, image.reference = reference ∧ (s.rule reference).keeps = true := by
  induction images generalizing s with
  | nil => simp
  | cons head tail ih =>
      rw [List.foldl_cons, ih, contains_settle, rule_settle, or_assoc]
      simp [or_and_right, exists_or]

theorem rules_foldl_settle (images : List Image) (s : State) :
    (images.foldl settle s).rules = s.rules := by
  induction images generalizing s with
  | nil => rfl
  | cons head tail ih => rw [List.foldl_cons, ih, rules_settle]

end State

theorem of_machine (image : Image) (s : State) :
    (Segment.of machine image s).1.fault? = s.fault? image ∧
      (Segment.of machine image s).2 = if s.fault? image = none then s.settle image else s := by
  cases asked : (s.rule image.reference).queryFault with
  | some fault => simp [Segment.of, machine, query, asked, Segment.fault?, State.fault?]
  | none =>
      cases present : s.present.contains image.reference with
      | true =>
          simp [Segment.of, machine, query, asked, present, Segment.fault?, State.fault?,
            State.settle]
      | false =>
          cases pulled : (s.rule image.reference).pullFault with
          | some fault =>
              simp [Segment.of, machine, query, pull, asked, present, pulled, Segment.fault?,
                State.fault?]
          | none =>
              cases kept : (s.rule image.reference).keeps <;>
                simp [Segment.of, machine, query, pull, asked, present, pulled, kept,
                  Segment.fault?, State.fault?, State.settle]

theorem ofEach_machine (images : List Image) (s : State) :
    (Segment.ofEach machine images s).1.findSome? Segment.fault? = images.findSome? s.fault? ∧
      (Segment.ofEach machine images s).2 =
        (images.takeWhile fun image => (s.fault? image).isNone).foldl State.settle s := by
  induction images generalizing s with
  | nil => exact ⟨rfl, rfl⟩
  | cons head tail ih =>
      obtain ⟨fault, state⟩ := of_machine head s
      cases met : s.fault? head with
      | some other =>
          rw [met] at fault state
          simp [Segment.ofEach, fault, state, met]
      | none =>
          rw [met] at fault state
          obtain ⟨first, settled⟩ := ih (s.settle head)
          -- The induction is about the state that the head leaves, the statement about `s`.
          have same : (s.settle head).fault? = s.fault? := funext (State.fault?_settle met)
          rw [same] at first settled
          simp [Segment.ofEach, fault, state, met, first, settled]

theorem provide_outcome (name : String) (images : List Image) (s : State) :
    let run := (provide name images).run.run machine s
    let added (listed : List Image) (reference : String) : Prop :=
      ∃ image ∈ listed, image.reference = reference ∧ (s.rule reference).keeps = true
    ((∃ t, run.value = .ok t) ↔ ∀ image ∈ images, s.Passable image) ∧
      ((∃ t, run.value = .ok t) → ∀ reference, run.state.present.contains reference = true ↔
        s.present.contains reference = true ∨ added images reference) ∧
      (∀ front image back, images = front ++ image :: back →
        (∀ earlier ∈ front, s.Passable earlier) → ¬ s.Passable image →
        (∃ fault, run.value = .error fault ∧
          (s.rule image.reference).queryFault.or (s.rule image.reference).pullFault =
            some fault) ∧
        ∀ reference, run.state.present.contains reference = true ↔
          s.present.contains reference = true ∨ added front reference) ∧
      run.state.rules = s.rules := by
  intro run added
  obtain ⟨-, value, state⟩ := Run.silent_eq (provide_silent machine name images s)
  obtain ⟨first, settled⟩ := ofEach_machine images s
  have value : run.value = _ := value
  have state : run.state = _ := state.trans settled
  have succeeds : (∃ t, run.value = .ok t) ↔ ∀ image ∈ images, s.Passable image := by
    rw [value, Segment.exists_tally_iff, ← List.findSome?_eq_none_iff, first,
      List.findSome?_eq_none_iff]
    simp only [State.fault?_eq_none_iff]
  refine ⟨succeeds, ?_, ?_, ?_⟩
  · intro ok reference
    have passed := succeeds.mp ok
    have whole : images.takeWhile (fun image => (s.fault? image).isNone) = images := by
      rw [List.takeWhile_eq_self_iff]
      intro image member
      rw [(s.fault?_eq_none_iff image).mpr (passed image member)]
      rfl
    rw [state, whole, State.contains_foldl_settle]
  · intro front image back split passed blocked
    have sound : ∀ earlier ∈ front, s.fault? earlier = none :=
      fun earlier member => (s.fault?_eq_none_iff earlier).mpr (passed earlier member)
    obtain ⟨fault, met⟩ := Option.ne_none_iff_exists'.mp
      (mt (s.fault?_eq_none_iff image).mp blocked)
    constructor
    · refine ⟨fault, ?_, ?_⟩
      · rw [value, Segment.tally_eq_error_iff, first, split, List.findSome?_append,
          List.findSome?_eq_none_iff.mpr sound]
        simp [met]
      · rw [← State.fault?_of_not_passable blocked, met]
    · intro reference
      have before : images.takeWhile (fun image => (s.fault? image).isNone) = front := by
        rw [split, List.takeWhile_append_of_pos (by simpa using sound),
          List.takeWhile_cons_of_neg (by simp [met]), List.append_nil]
      rw [state, before, State.contains_foldl_settle]
  · rw [state, State.rules_foldl_settle]

end ImageStock.Scripted
