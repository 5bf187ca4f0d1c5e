import ImageStock.Proofs.Provision.Segment
import ImageStock.Scripted

/-! Order and end of the calls of a run, on any runtime whatever it answers. The images are dealt
with in order, a pull only ever follows the answer that its image is absent, and the first failure
is the end. A run can fail at its last image, so that every image has its calls does not make it
succeed. -/

namespace ImageStock

open Segment (fault? tally)

variable {σ : Type}

theorem provide_calls_fail_fast (m : Machine runtime σ) (name : String) (images : List Image)
    (s : σ) :
    let run := (provide name images).run.run m s
    (∃ segments : List Segment,
      run.exchanges = segments.flatMap Segment.exchanges ∧
      segments.map Segment.image <+: images ∧
      (∀ segment ∈ segments.dropLast, segment.fault? = none) ∧
      ((∃ t, run.value = .ok t) ↔
        segments.map Segment.image = images ∧ ∀ segment ∈ segments, segment.fault? = none) ∧
      ∀ fault, run.value = .error fault ↔ segments.getLast?.bind fault? = some fault) ∧
    (∀ front image answer back, run.exchanges = front ++ ⟨.pull image, answer⟩ :: back →
      ∃ earlier, front = earlier ++ [⟨.query image, .ok false⟩]) ∧
    ∀ image, run.requests.count (.pull image) ≤ images.count image := by
  intro run
  obtain ⟨exchanges, value, -⟩ := Run.silent_eq (provide_silent m name images s)
  obtain ⟨part, front, whole⟩ := Segment.ofEach_spec m images s
  refine ⟨⟨(Segment.ofEach m images s).1, exchanges, part, front, ?_, ?_⟩, ?_, ?_⟩
  · rw [show run.value = _ from value, Segment.exists_tally_iff]
    exact ⟨fun sound => ⟨whole sound, sound⟩, fun ended => ended.2⟩
  · intro fault
    rw [show run.value = _ from value, Segment.tally_eq_error_iff,
      Segment.findSome?_eq_of_last front]
  · intro front image answer back split
    rw [show run.exchanges = _ from exchanges] at split
    exact Segment.query_before_pull split
  · intro image
    rw [Run.requests_eq_map_exchanges, show run.exchanges = _ from exchanges]
    exact Nat.le_trans (Segment.count_pull_le _ image) (part.sublist.count_le image)

/-- Where the pull of the only image fails, that image has its calls and the run fails all the
same. -/
theorem whole_prefix_without_success :
    let image : Image := ⟨"a", by decide⟩
    let s : Scripted.State := { rules := [("a", { pullFault := some (.pullFailed "a" (some 1)) })] }
    let run := (provide "docker" [image]).run.run Scripted.machine s
    ¬ ∃ segments : List Segment,
      run.exchanges = segments.flatMap Segment.exchanges ∧
      segments.map Segment.image <+: [image] ∧
      (segments.map Segment.image = [image] ↔ ∃ t, run.value = .ok t) := by
  intro image s run
  have exchanges : run.exchanges =
      [⟨.query image, .ok false⟩, ⟨.pull image, .error (.pullFailed "a" (some 1))⟩] := rfl
  have value : run.value = .error (.pullFailed "a" (some 1)) := rfl
  rintro ⟨segments, calls, part, whole⟩
  rw [exchanges] at calls
  rw [value] at whole
  cases segments with
  | nil => simp at calls
  | cons head tail =>
      rw [List.map_cons, List.cons_prefix_cons, List.prefix_nil] at part
      obtain ⟨t, impossible⟩ := whole.mp (by rw [List.map_cons, part.1, part.2])
      cases impossible

end ImageStock
