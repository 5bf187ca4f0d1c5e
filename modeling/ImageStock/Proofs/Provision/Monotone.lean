import Mathlib.Data.List.Basic
import ImageStock.Proofs.Provision.Account
import ImageStock.Proofs.Result

/-! Runs from a smaller and from a larger store. Main statement: where a run succeeds it also
succeeds with more images in the store, pulls no image that it did not pull before and ends with no
less in the store; and where it fails with more images, it fails with fewer, and no later. -/

namespace ImageStock

def queried? : Exchange runtime → Option Image
  | ⟨.query image, _⟩ => some image
  | ⟨.pull _, _⟩ => none

/-- A run over some images fails at a position: it asks for the images up to that one, each in its
turn, and comes to a fault. -/
structure FailsAt {σ : Type} (run : Run runtime σ (Except Fault Tally)) (images : List Image)
    (k : Nat) : Prop where
  fault : ∃ fault, run.value = .error fault
  inside : k < images.length
  queried : run.exchanges.filterMap queried? = images.take (k + 1)

theorem Segment.filterMap_queried? (segments : List Segment) :
    (segments.flatMap exchanges).filterMap queried? = segments.map image := by
  induction segments with
  | nil => rfl
  | cons head tail ih =>
      rw [List.flatMap_cons, List.filterMap_append, ih]
      cases head <;> rfl

namespace Scripted

def State.passed (s : State) (images : List Image) : List Image :=
  images.takeWhile fun image => (s.fault? image).isNone

theorem State.passed_prefix (s : State) (images : List Image) : s.passed images <+: images :=
  List.takeWhile_prefix _

theorem map_image_ofEach (images : List Image) (s : State) :
    (Segment.ofEach machine images s).1.map Segment.image =
      images.take ((s.passed images).length + 1) := by
  induction images generalizing s with
  | nil => rfl
  | cons head tail ih =>
      obtain ⟨fault, state⟩ := of_machine head s
      cases met : s.fault? head with
      | some other =>
          rw [met] at fault
          simp [Segment.ofEach, Segment.image_of, State.passed, fault, met]
      | none =>
          rw [met] at fault state
          have rest := ih (s.settle head)
          -- the induction is about the state that the head leaves, the statement about `s`
          have same : (s.settle head).fault? = s.fault? := funext (State.fault?_settle met)
          rw [State.passed, same] at rest
          simp [Segment.ofEach, Segment.image_of, State.passed, fault, state, met, rest]

theorem provide_passed (name : String) (images : List Image) (s : State) :
    let run := (provide name images).run.run machine s
    ((∃ t, run.value = .ok t) ↔ s.passed images = images) ∧
      run.exchanges.filterMap queried? = images.take ((s.passed images).length + 1) ∧
      run.state = (s.passed images).foldl State.settle s := by
  intro run
  obtain ⟨exchanges, value, state⟩ := Run.silent_eq (provide_silent machine name images s)
  obtain ⟨first, settled⟩ := ofEach_machine images s
  refine ⟨?_, ?_, state.trans settled⟩
  · rw [show run.value = _ from value, Segment.exists_tally_iff, ← List.findSome?_eq_none_iff,
      first, List.findSome?_eq_none_iff, State.passed, List.takeWhile_eq_self_iff]
    simp only [Option.isNone_iff_eq_none]
  · rw [show run.exchanges = _ from exchanges, Segment.filterMap_queried?, map_image_ofEach]

theorem failsAt_iff (name : String) (images : List Image) (s : State) (k : Nat) :
    FailsAt ((provide name images).run.run machine s) images k ↔
      k < images.length ∧ k = (s.passed images).length := by
  obtain ⟨succeeds, queried, -⟩ := provide_passed name images s
  have part := s.passed_prefix images
  constructor
  · rintro ⟨fault, inside, asked⟩
    rw [exists_eq_error_iff, succeeds] at fault
    have short : (s.passed images).length ≠ images.length := mt part.eq_of_length fault
    have bound := part.length_le
    have lengths := congrArg List.length (queried.symm.trans asked)
    rw [List.length_take, List.length_take] at lengths
    exact ⟨inside, by omega⟩
  · rintro ⟨inside, rfl⟩
    refine ⟨?_, inside, queried⟩
    rw [exists_eq_error_iff, succeeds]
    intro whole
    rw [whole] at inside
    exact absurd inside (Nat.lt_irrefl _)

theorem exists_failsAt_iff (name : String) (images : List Image) (s : State) :
    (∃ k, FailsAt ((provide name images).run.run machine s) images k) ↔
      ∃ fault, ((provide name images).run.run machine s).value = .error fault := by
  constructor
  · rintro ⟨k, failed⟩
    exact failed.fault
  · intro fault
    rw [exists_eq_error_iff, (provide_passed name images s).1] at fault
    have part := s.passed_prefix images
    have short : (s.passed images).length < images.length :=
      Nat.lt_of_le_of_ne part.length_le (mt part.eq_of_length fault)
    exact ⟨_, (failsAt_iff ..).mpr ⟨short, rfl⟩⟩

/-- A state with the rules of another one and all that is in its store. -/
structure State.Extends (t s : State) : Prop where
  rules : t.rules = s.rules
  present : ∀ reference,
    s.present.contains reference = true → t.present.contains reference = true

namespace State.Extends

variable {s t : State}

theorem rule (more : t.Extends s) (reference : String) : t.rule reference = s.rule reference := by
  rw [State.rule, more.rules, State.rule]

theorem passable (more : t.Extends s) {image : Image} (passed : s.Passable image) :
    t.Passable image := by
  obtain ⟨asked, available⟩ := passed
  rw [State.Passable, more.rule]
  exact ⟨asked, available.imp_left (more.present _)⟩

theorem passed (more : t.Extends s) (images : List Image) :
    s.passed images <+: t.passed images := by
  have within : s.passed images =
      (t.passed images).takeWhile fun image => (s.fault? image).isNone := by
    rw [State.passed, State.passed, List.takeWhile_takeWhile]
    congr 1
    funext image
    have both : s.fault? image = none → t.fault? image = none := by
      rw [State.fault?_eq_none_iff, State.fault?_eq_none_iff]
      exact more.passable
    rw [Bool.eq_iff_iff]
    simpa [Option.isNone_iff_eq_none] using both
  rw [within]
  exact List.takeWhile_prefix _

theorem fresh (more : t.Extends s) (images : List Image) (position : Image × Nat)
    (new : ImageStock.fresh (fun image => t.present.contains image.reference)
      (fun image => (t.rule image.reference).keeps) images position = true) :
    ImageStock.fresh (fun image => s.present.contains image.reference)
      (fun image => (s.rule image.reference).keeps) images position = true := by
  rw [ImageStock.fresh, Bool.and_eq_true, Bool.not_eq_true', more.rule] at new
  rw [ImageStock.fresh, Bool.and_eq_true, Bool.not_eq_true']
  obtain ⟨absent, unmet⟩ := new
  refine ⟨?_, unmet⟩
  rw [Bool.eq_false_iff] at absent ⊢
  exact mt (more.present _) absent

theorem foldl_settle (more : t.Extends s) {front images : List Image} (part : front <+: images) :
    (images.foldl State.settle t).Extends (front.foldl State.settle s) where
  rules := by rw [State.rules_foldl_settle, State.rules_foldl_settle, more.rules]
  present reference := by
    rw [State.contains_foldl_settle, State.contains_foldl_settle, more.rule]
    rintro (before | ⟨image, member, same, kept⟩)
    · exact .inl (more.present reference before)
    · exact .inr ⟨image, part.subset member, same, kept⟩

end State.Extends

/-- More images in the store never hurt: what succeeds still succeeds, with no other pulls and no
less in the store at the end, and what fails fails no earlier. -/
theorem provide_mono (name : String) (images : List Image) (rules : List (String × Rule))
    (few many : Store)
    (more : ∀ reference, few.contains reference = true → many.contains reference = true) :
    let run (store : Store) := (provide name images).run.run machine { present := store, rules }
    (∀ t, (run few).value = .ok t →
      ∃ u, (run many).value = .ok u ∧ u.pulled.Sublist t.pulled) ∧
    (∀ reference, (run few).state.present.contains reference = true →
      (run many).state.present.contains reference = true) ∧
    (∀ store, (∃ k, FailsAt (run store) images k) ↔
      ∃ fault, (run store).value = .error fault) ∧
    ∀ k, FailsAt (run many) images k → ∃ j ≤ k, FailsAt (run few) images j := by
  intro run
  have larger : State.Extends { present := many, rules } { present := few, rules } := ⟨rfl, more⟩
  have further := larger.passed images
  refine ⟨?_, ?_, fun store => exists_failsAt_iff name images _, ?_⟩
  · intro t ended
    have whole := (provide_passed name images _).1.mp ⟨t, ended⟩
    rw [whole] at further
    have part := State.passed_prefix { present := many, rules } images
    have whole' := part.eq_of_length_le further.length_le
    obtain ⟨u, result⟩ := (provide_passed name images _).1.mpr whole'
    obtain ⟨pulled, -⟩ := (machine_fills _).provide_eq_ok (fun _ _ => trivial) rfl ended
    obtain ⟨pulled', -⟩ := (machine_fills _).provide_eq_ok (fun _ _ => trivial) rfl result
    refine ⟨u, result, ?_⟩
    rw [pulled, pulled']
    exact (List.monotone_filter_right _ (larger.fresh images)).map _
  · intro reference
    obtain ⟨-, -, final⟩ := provide_passed name images { present := few, rules }
    obtain ⟨-, -, final'⟩ := provide_passed name images { present := many, rules }
    rw [show (run few).state = _ from final, show (run many).state = _ from final']
    exact (larger.foldl_settle further).present reference
  · intro k failed
    obtain ⟨inside, rfl⟩ := (failsAt_iff ..).mp failed
    have earlier := further.length_le
    exact ⟨_, earlier, (failsAt_iff ..).mpr ⟨Nat.lt_of_le_of_lt earlier inside, rfl⟩⟩

theorem provide_mono_three :
    let a : Image := ⟨"a", by decide⟩
    let b : Image := ⟨"b", by decide⟩
    let c : Image := ⟨"c", by decide⟩
    let d : Image := ⟨"d", by decide⟩
    let rules : List (String × Rule) := [("a", { keeps := false }),
      ("c", { pullFault := some (.pullFailed "c" (some 1)) }),
      ("d", { queryFault := some (.pullFailed "d" none) })]
    let few : Store := {}
    let many : Store := ⟨["b", "c"]⟩
    let run (images : List Image) (store : Store) :=
      (provide "docker" images).run.run machine { present := store, rules }
    (∀ reference, few.contains reference = true → many.contains reference = true) ∧
      (run [a, b, a] few).value = .ok ⟨[], [a, b, a]⟩ ∧
      (∃ u, (run [a, b, a] many).value = .ok u ∧ u.pulled.Sublist [a, b, a]) ∧
      FailsAt (run [b, c, d] many) [b, c, d] 2 ∧
      ∃ j ≤ 2, FailsAt (run [b, c, d] few) [b, c, d] j := by
  intro a b c d rules few many run
  have more : ∀ reference, few.contains reference = true → many.contains reference = true := by
    intro reference nothing
    cases nothing
  obtain ⟨succeeds, -, -, -⟩ := provide_mono "docker" [a, b, a] rules few many more
  obtain ⟨-, -, -, fails⟩ := provide_mono "docker" [b, c, d] rules few many more
  have ended : (run [a, b, a] few).value = .ok ⟨[], [a, b, a]⟩ := by decide +kernel
  have failed : FailsAt (run [b, c, d] many) [b, c, d] 2 := by
    refine ⟨⟨.pullFailed "d" none, ?_⟩, by decide, ?_⟩
    · decide +kernel
    · decide +kernel
  exact ⟨more, ended, succeeds _ ended, failed, fails 2 failed⟩

end Scripted

end ImageStock
