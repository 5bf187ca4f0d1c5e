import ImageStock.Dialogue

/-! Requests of a run together with their answers, and the states a machine goes through while it
answers them. Main statements: the machine's state depends on the requests alone, and each recorded
answer is the one the machine gives in the state of that moment. -/

namespace ImageStock

abbrev Exchange (I : Interface) := (q : I.Request) × I.Answer q

def Event.exchange? {I : Interface} : Event I → Option (Exchange I)
  | .told _ => none
  | .asked q a => some ⟨q, a⟩

namespace Run

variable {I : Interface} {σ α : Type}

def exchanges (r : Run I σ α) : List (Exchange I) := r.events.filterMap Event.exchange?

theorem requests_eq_map_exchanges (r : Run I σ α) : r.requests = r.exchanges.map Sigma.fst := by
  rw [requests, exchanges, List.map_filterMap]
  congr 1
  funext event
  cases event <;> rfl

/-- A run without what was told: the exchanges, the value and the last state. -/
def silent (r : Run I σ α) : List (Exchange I) × α × σ := (r.exchanges, r.value, r.state)

theorem silent_eq {r : Run I σ α} {xs : List (Exchange I)} {a : α} {s : σ}
    (eq : r.silent = (xs, a, s)) : r.exchanges = xs ∧ r.value = a ∧ r.state = s := by
  cases eq
  exact ⟨rfl, rfl, rfl⟩

end Run

namespace Machine

variable {I : Interface} {σ : Type}

def after (m : Machine I σ) (s : σ) (requests : List I.Request) : σ :=
  requests.foldl (fun s q => (m.answer q s).2) s

@[simp] theorem after_nil (m : Machine I σ) (s : σ) : m.after s [] = s := rfl

@[simp] theorem after_cons (m : Machine I σ) (s : σ) (q : I.Request) (qs : List I.Request) :
    m.after s (q :: qs) = m.after (m.answer q s).2 qs := rfl

theorem after_append (m : Machine I σ) (s : σ) (front back : List I.Request) :
    m.after s (front ++ back) = m.after (m.after s front) back :=
  List.foldl_append

/-- What every single answer keeps, a machine keeps over any number of requests. -/
theorem after_induction (m : Machine I σ) (P : σ → Prop)
    (step : ∀ q s, P s → P (m.answer q s).2) (s : σ) (start : P s) (qs : List I.Request) :
    P (m.after s qs) := by
  induction qs generalizing s with
  | nil => exact start
  | cons q qs ih => exact ih _ (step q s start)

end Machine

namespace Dialogue

variable {I : Interface} {σ α β : Type}

@[simp] theorem exchanges_ask (m : Machine I σ) (q : I.Request)
    (k : I.Answer q → Dialogue I α) (s : σ) :
    ((ask q k).run m s).exchanges =
      ⟨q, (m.answer q s).1⟩ :: ((k (m.answer q s).1).run m (m.answer q s).2).exchanges := rfl

theorem value_ask (m : Machine I σ) (q : I.Request) (k : I.Answer q → Dialogue I α) (s : σ) :
    ((ask q k).run m s).value = ((k (m.answer q s).1).run m (m.answer q s).2).value := rfl

theorem state_ask (m : Machine I σ) (q : I.Request) (k : I.Answer q → Dialogue I α) (s : σ) :
    ((ask q k).run m s).state = ((k (m.answer q s).1).run m (m.answer q s).2).state := rfl

theorem silent_bind (m : Machine I σ) {d : Dialogue I α} {f : α → Dialogue I β} {s t : σ}
    {xs ys : List (Exchange I)} {a : α} {result : β × σ} (first : (d.run m s).silent = (xs, a, t))
    (second : ((f a).run m t).silent = (ys, result)) :
    ((d.bind f).run m s).silent = (xs ++ ys, result) := by
  obtain ⟨rfl, rfl, rfl⟩ := Run.silent_eq first
  obtain ⟨b, u⟩ := result
  obtain ⟨rfl, rfl, rfl⟩ := Run.silent_eq second
  simp [run_bind, Run.silent, Run.exchanges]

theorem state_eq_after (m : Machine I σ) (d : Dialogue I α) (s : σ) :
    (d.run m s).state = m.after s ((d.run m s).exchanges.map Sigma.fst) := by
  induction d generalizing s with
  | done a => rfl
  | tell u d ih => exact ih s
  | ask q k ih => exact ih _ _

/-- An answer within a run is the machine's answer after the requests made before it. -/
theorem answer_of_exchanges_eq (m : Machine I σ) (d : Dialogue I α) (s : σ)
    {front back : List (Exchange I)} {q : I.Request} {a : I.Answer q}
    (split : (d.run m s).exchanges = front ++ ⟨q, a⟩ :: back) :
    a = (m.answer q (m.after s (front.map Sigma.fst))).1 := by
  induction d generalizing s front with
  | done value => exact absurd split (by simp [run, Run.exchanges])
  | tell u d ih => exact ih s split
  | ask request k ih =>
      rw [exchanges_ask] at split
      cases front with
      | nil =>
          obtain ⟨head, -⟩ := List.cons.inj split
          cases head
          rfl
      | cons first front =>
          obtain ⟨rfl, tail⟩ := List.cons.inj split
          have given := ih _ _ tail
          exact given

end Dialogue

namespace Attempt

variable {I : Interface} {ε ε' σ α β : Type}

theorem run_bind (d : Attempt I ε α) (f : α → Attempt I ε β) :
    (d >>= f).run = d.run.bind fun
      | .ok a => (f a).run
      | .error e => .done (.error e) := by
  show Dialogue.bind d.run _ = _
  congr 1

theorem silent_bind_error (m : Machine I σ) {d : Attempt I ε α} {f : α → Attempt I ε β} {s t : σ}
    {xs : List (Exchange I)} {e : ε} (first : (d.run.run m s).silent = (xs, .error e, t)) :
    ((d >>= f).run.run m s).silent = (xs, .error e, t) := by
  rw [run_bind, ← List.append_nil xs]
  exact Dialogue.silent_bind m first rfl

theorem silent_bind_ok (m : Machine I σ) {d : Attempt I ε α} {f : α → Attempt I ε β} {s t : σ}
    {xs ys : List (Exchange I)} {a : α} {result : Except ε β × σ}
    (first : (d.run.run m s).silent = (xs, .ok a, t))
    (second : ((f a).run.run m t).silent = (ys, result)) :
    ((d >>= f).run.run m s).silent = (xs ++ ys, result) := by
  rw [run_bind]
  exact Dialogue.silent_bind m first second

theorem silent_ofExcept (m : Machine I σ) (r : Except ε α) (s : σ) :
    ((ofExcept r : Attempt I ε α).run.run m s).silent = ([], r, s) := rfl

theorem silent_pure (m : Machine I σ) (a : α) (s : σ) :
    ((pure a : Attempt I ε α).run.run m s).silent = ([], .ok a, s) := rfl

theorem silent_notice (m : Machine I σ) (n : Notice) (s : σ) :
    ((notice n : Attempt I ε Unit).run.run m s).silent = ([], .ok (), s) := rfl

theorem silent_forM_notice (m : Machine I σ) (as : List α) (n : α → Notice) (s : σ) :
    ((as.forM fun a => notice (n a) : Attempt I ε PUnit).run.run m s).silent = ([], .ok ⟨⟩, s) := by
  induction as with
  | nil => rfl
  | cons a as ih => exact silent_bind_ok m (silent_notice m (n a) s) ih

theorem silent_mapError (m : Machine I σ) (g : ε → ε') {d : Attempt I ε α} {s t : σ}
    {xs : List (Exchange I)} {r : Except ε α} (eq : (d.run.run m s).silent = (xs, r, t)) :
    ((d.mapError g).run.run m s).silent = (xs, r.mapError g, t) := by
  rw [← List.append_nil xs]
  exact Dialogue.silent_bind m eq rfl

end Attempt

end ImageStock
