import ImageStock.Proofs.Exchange

/-! Machines that stand in for one another. Main statements: a dialogue whose requests are passed on
runs as one with the machine that passes them on, a run on a machine is a run on any other that
gives the same answers to the requests of that run, and so is a run from a state that no requests
tell apart from another. -/

namespace ImageStock

variable {I J : Interface} {σ τ α : Type}

namespace Machine

/-- The machine that finds each answer by a dialogue with another one. -/
def via (m : Machine J σ) (answer : (q : I.Request) → Dialogue J (I.Answer q)) : Machine I σ where
  answer q s := (((answer q).run m s).value, ((answer q).run m s).state)

/-- One machine answers as another one does, as long as their states are related and the requests
are of a kind. -/
structure Simulates (m : Machine I σ) (n : Machine I τ) (related : σ → τ → Prop)
    (allowed : I.Request → Prop) : Prop where
  answer : ∀ q s t, allowed q → related s t → (m.answer q s).1 = (n.answer q t).1
  state : ∀ q s t, allowed q → related s t → related (m.answer q s).2 (n.answer q t).2

theorem Simulates.after {m : Machine I σ} {n : Machine I τ} {related : σ → τ → Prop}
    {allowed : I.Request → Prop} (simulates : m.Simulates n related allowed) {s : σ} {t : τ}
    (start : related s t) {requests : List I.Request} (within : ∀ q ∈ requests, allowed q) :
    related (m.after s requests) (n.after t requests) := by
  induction requests generalizing s t with
  | nil => exact start
  | cons q requests ih =>
      have next := simulates.state q s t (within q List.mem_cons_self) start
      exact ih next fun later member => within later (List.mem_cons_of_mem q member)

/-- States that no requests tell apart: whatever is requested first, every answer is the same. -/
def Alike (m : Machine I σ) (s t : σ) : Prop :=
  ∀ requests q, (m.answer q (m.after s requests)).1 = (m.answer q (m.after t requests)).1

theorem Alike.refl (m : Machine I σ) (s : σ) : m.Alike s s := fun _ _ => rfl

theorem Alike.trans {m : Machine I σ} {s t u : σ} (first : m.Alike s t) (second : m.Alike t u) :
    m.Alike s u :=
  fun requests q => (first requests q).trans (second requests q)

theorem Alike.answer {m : Machine I σ} {s t : σ} (alike : m.Alike s t) (q : I.Request) :
    m.Alike (m.answer q s).2 (m.answer q t).2 :=
  fun requests => alike (q :: requests)

theorem simulates_alike (m : Machine I σ) : m.Simulates m m.Alike fun _ => True where
  answer q _ _ _ alike := alike [] q
  state q _ _ _ alike := alike.answer q

end Machine

namespace Dialogue

theorem run_through (m : Machine J σ) (answer : (q : I.Request) → Dialogue J (I.Answer q))
    (d : Dialogue I α) (s : σ) :
    ((d.through answer).run m s).value = (d.run (m.via answer) s).value ∧
      ((d.through answer).run m s).state = (d.run (m.via answer) s).state := by
  induction d generalizing s with
  | done a => exact ⟨rfl, rfl⟩
  | tell u d ih => exact ih s
  | ask q k ih =>
      rw [through, run_bind]
      exact ih _ _

theorem run_simulates {m : Machine I σ} {n : Machine I τ} {related : σ → τ → Prop}
    {allowed : I.Request → Prop} (simulates : m.Simulates n related allowed) (d : Dialogue I α)
    {s : σ} {t : τ} (start : related s t) (within : ∀ q ∈ (d.run n t).requests, allowed q) :
    (d.run m s).value = (d.run n t).value ∧
      (d.run m s).exchanges = (d.run n t).exchanges ∧
      related (d.run m s).state (d.run n t).state := by
  induction d generalizing s t with
  | done a => exact ⟨rfl, rfl, start⟩
  | tell u d ih => exact ih start within
  | ask q k ih =>
      have first : allowed q := within q (by simp [run, Run.requests])
      have same := simulates.answer q s t first start
      have next := simulates.state q s t first start
      have rest : ∀ later ∈ ((k (n.answer q t).1).run n (n.answer q t).2).requests,
          allowed later := by
        intro later member
        exact within later (List.mem_cons_of_mem q member)
      obtain ⟨value, exchanges, last⟩ := ih _ next rest
      rw [← same] at value exchanges last
      refine ⟨?_, ?_, ?_⟩
      · rw [value_ask, value_ask, ← same, value]
      · rw [exchanges_ask, exchanges_ask, ← same, exchanges]
      · rw [state_ask, state_ask, ← same]
        exact last

theorem run_alike {m : Machine I σ} {s t : σ} (alike : m.Alike s t) (d : Dialogue I α) :
    (d.run m s).value = (d.run m t).value ∧ (d.run m s).exchanges = (d.run m t).exchanges ∧
      m.Alike (d.run m s).state (d.run m t).state :=
  run_simulates m.simulates_alike d alike fun _ _ => trivial

end Dialogue

end ImageStock
