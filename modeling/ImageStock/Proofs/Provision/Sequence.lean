import ImageStock.Proofs.Provision.Segment
import ImageStock.Proofs.Result

/-! Runs one after another. Main statement: to provide two lists of images as one is to provide the
first and then, if that succeeds, the second from the state reached. -/

namespace ImageStock

namespace Tally

def append (t u : Tally) : Tally where
  alreadyPresent := t.alreadyPresent ++ u.alreadyPresent
  pulled := t.pulled ++ u.pulled

theorem record_append (image : Image) (outcome : Outcome) (t u : Tally) :
    (t.record image outcome).append u = (t.append u).record image outcome := by
  cases outcome <;> rfl

end Tally

namespace Segment

variable {σ : Type} {front : List Segment} {t : Tally}

theorem ofEach_append (m : Machine runtime σ) (xs ys : List Image) (s : σ) :
    ofEach m (xs ++ ys) s =
      if ∀ segment ∈ (ofEach m xs s).1, segment.fault? = none then
        ((ofEach m xs s).1 ++ (ofEach m ys (ofEach m xs s).2).1, (ofEach m ys (ofEach m xs s).2).2)
      else ofEach m xs s := by
  induction xs generalizing s with
  | nil => simp [ofEach]
  | cons image xs ih =>
      rw [List.cons_append]
      cases ended : (of m image s).1.fault? with
      | some fault => simp [ofEach, ended]
      | none =>
          simp only [ofEach, ended, ih, List.forall_mem_cons, true_and]
          split <;> rfl

theorem tally_append (begins : tally front = .ok t) (back : List Segment) :
    tally (front ++ back) = (tally back).map t.append := by
  induction front generalizing t with
  | nil =>
      cases begins
      show tally back = _
      cases tally back <;> rfl
  | cons segment front ih =>
      simp only [tally] at begins
      split at begins
      · next outcome u ended rest =>
          cases begins
          simp only [List.cons_append, tally, ended, ih rest]
          cases tally back with
          | error fault => rfl
          | ok v =>
              simp only [Except.map, Tally.record_append]
      · cases begins
      · cases begins

end Segment

variable {σ : Type}

theorem provide_append_silent (m : Machine runtime σ) (name : String) (xs ys : List Image) (s : σ) :
    let first := (provide name xs).run.run m s
    let second := (provide name ys).run.run m first.state
    ((provide name (xs ++ ys)).run.run m s).silent =
      match first.value with
      | .error _ => first.silent
      | .ok t =>
        (first.exchanges ++ second.exchanges, second.value.map t.append, second.state) := by
  intro first second
  have begins : first.silent = _ := provide_silent m name xs s
  obtain ⟨exchanges, value, state⟩ := Run.silent_eq begins
  obtain ⟨later, result, final⟩ := Run.silent_eq (provide_silent m name ys first.state)
  rw [provide_silent, Segment.ofEach_append]
  cases ended : first.value with
  | error fault =>
      have failed := value.symm.trans ended
      rw [if_neg, begins]
      rw [← Segment.exists_tally_iff, failed]
      rintro ⟨t, impossible⟩
      cases impossible
  | ok t =>
      have sound := value.symm.trans ended
      rw [if_pos ((Segment.exists_tally_iff _).mp ⟨t, sound⟩)]
      simp only
      rw [List.flatMap_append, Segment.tally_append sound]
      rw [exchanges, show second.exchanges = _ from later, show second.value = _ from result,
        show second.state = _ from final, state]

/-- A list of images in two parts: where the first part fails the second is not begun, and else both
have their calls, and the tallies are put together. -/
theorem provide_append (m : Machine runtime σ) (name : String) (xs ys : List Image) (s : σ) :
    let first := (provide name xs).run.run m s
    let whole := (provide name (xs ++ ys)).run.run m s
    (∀ fault, first.value = .error fault →
      whole.value = .error fault ∧ whole.exchanges = first.exchanges ∧
      whole.state = first.state) ∧
    ∀ t, first.value = .ok t →
      let second := (provide name ys).run.run m first.state
      whole.exchanges = first.exchanges ++ second.exchanges ∧ whole.state = second.state ∧
      (∀ fault, whole.value = .error fault ↔ second.value = .error fault) ∧
      ∀ u, second.value = .ok u → whole.value = .ok {
        alreadyPresent := t.alreadyPresent ++ u.alreadyPresent
        pulled := t.pulled ++ u.pulled } := by
  intro first whole
  have both : whole.silent = _ := provide_append_silent m name xs ys s
  constructor
  · intro fault failed
    rw [show ((provide name xs).run.run m s).value = _ from failed] at both
    obtain ⟨exchanges, value, state⟩ := Run.silent_eq both
    exact ⟨value.trans failed, exchanges, state⟩
  · intro t ended second
    rw [show ((provide name xs).run.run m s).value = _ from ended] at both
    obtain ⟨exchanges, value, state⟩ := Run.silent_eq both
    refine ⟨exchanges, state, ?_, ?_⟩
    · intro fault
      rw [value, map_eq_error]
    · intro u result
      rw [value, show ((provide name ys).run.run m first.state).value = _ from result]
      rfl

end ImageStock
