import ImageStock.Proofs.Exchange

/-! What a dialogue may say and ask, whatever it is answered. Main statement: what is allowed to a
dialogue holds of all that is said and asked in each of its runs. -/

namespace ImageStock

/-- What is said beside the output of a run. -/
def Utterance.IsAside : Utterance → Prop
  | notice _ | warned _ => True
  | printed _ => False

namespace Run

variable {I : Interface} {σ α : Type}

def printed (r : Run I σ α) : List String :=
  r.utterances.filterMap fun
    | .printed text => some text
    | .notice _ | .warned _ => none

def following (r : Run I σ α) (events : List (Event I)) : Run I σ α :=
  { r with events := events ++ r.events }

theorem exchanges_following (r : Run I σ α) (events : List (Event I)) :
    (r.following events).exchanges = events.filterMap Event.exchange? ++ r.exchanges :=
  List.filterMap_append

theorem printed_following {β : Type} (r : Run I σ α) (first : Run I σ β) :
    (r.following first.events).printed = first.printed ++ r.printed := by
  rw [printed, printed, printed, ← List.filterMap_append]
  congr 1
  exact List.filterMap_append

theorem printed_eq_nil {r : Run I σ α} (asides : ∀ u ∈ r.utterances, u.IsAside) :
    r.printed = [] := by
  rw [printed, List.filterMap_eq_nil_iff]
  intro u member
  have aside := asides u member
  cases u with
  | notice n | warned text => rfl
  | printed text => cases aside

theorem exchanges_eq_nil {r : Run I σ α} (nothing : ∀ q ∈ r.requests, False) :
    r.exchanges = [] := by
  have requests : r.requests = [] := List.eq_nil_iff_forall_not_mem.mpr nothing
  rw [requests_eq_map_exchanges, List.map_eq_nil_iff] at requests
  exact requests

end Run

namespace Dialogue

variable {I J : Interface} {σ α β : Type} {tells : Utterance → Prop} {asks : I.Request → Prop}
  {d : Dialogue I α}

def Within (tells : Utterance → Prop) (asks : I.Request → Prop) : Dialogue I α → Prop
  | done _ => True
  | tell u d => tells u ∧ d.Within tells asks
  | ask q k => asks q ∧ ∀ a, (k a).Within tells asks

theorem within_bind {f : α → Dialogue I β} (first : d.Within tells asks)
    (rest : ∀ a, (f a).Within tells asks) : (d.bind f).Within tells asks := by
  induction d with
  | done a => exact rest a
  | tell u d ih => exact ⟨first.1, ih first.2⟩
  | ask q k ih => exact ⟨first.1, fun a => ih a (first.2 a)⟩

theorem within_forM {as : List β} {g : β → Dialogue I PUnit}
    (each : ∀ a ∈ as, (g a).Within tells asks) : (as.forM g).Within tells asks := by
  induction as with
  | nil => trivial
  | cons a as ih =>
      apply within_bind (each a (by simp))
      intro _
      exact ih (by intro later member; exact each later (by simp [member]))

theorem within_through {asked : J.Request → Prop}
    {answer : (q : I.Request) → Dialogue J (I.Answer q)} (outer : d.Within tells asks)
    (inner : ∀ q, asks q → (answer q).Within tells asked) :
    (d.through answer).Within tells asked := by
  induction d with
  | done a => trivial
  | tell u d ih => exact ⟨outer.1, ih outer.2⟩
  | ask q k ih => exact within_bind (inner q outer.1) fun a => ih a (outer.2 a)

theorem run_within (m : Machine I σ) (within : d.Within tells asks) (s : σ) :
    (∀ u ∈ (d.run m s).utterances, tells u) ∧ ∀ q ∈ (d.run m s).requests, asks q := by
  induction d generalizing s with
  | done a => simp [run, Run.utterances, Run.requests]
  | tell u d ih =>
      obtain ⟨said, asked⟩ := ih within.2 s
      refine ⟨?_, asked⟩
      intro utterance member
      rcases List.mem_cons.mp member with rfl | later
      · exact within.1
      · exact said utterance later
  | ask q k ih =>
      obtain ⟨said, asked⟩ := ih (m.answer q s).1 (within.2 _) (m.answer q s).2
      refine ⟨said, ?_⟩
      intro request member
      rcases List.mem_cons.mp member with rfl | later
      · exact within.1
      · exact asked request later

/-- Asides leave no trace but the value that they come to. -/
theorem run_aside (m : Machine I σ) (aside : d.Within Utterance.IsAside fun _ => False) (s : σ) :
    (d.run m s).exchanges = [] ∧ (d.run m s).printed = [] ∧ (d.run m s).state = s := by
  obtain ⟨said, asked⟩ := run_within m aside s
  have nothing := Run.exchanges_eq_nil asked
  refine ⟨nothing, Run.printed_eq_nil said, ?_⟩
  rw [state_eq_after, nothing]
  rfl

theorem run_bind_following (m : Machine I σ) (d : Dialogue I α) (f : α → Dialogue I β) (s : σ) :
    (d.bind f).run m s =
      ((f (d.run m s).value).run m (d.run m s).state).following (d.run m s).events :=
  run_bind m d f s

theorem run_aside_bind (m : Machine I σ) (aside : d.Within Utterance.IsAside fun _ => False)
    (f : α → Dialogue I β) (s : σ) :
    let rest := (f (d.run m s).value).run m s
    ((d.bind f).run m s).exchanges = rest.exchanges ∧
      ((d.bind f).run m s).printed = rest.printed ∧ ((d.bind f).run m s).value = rest.value := by
  intro rest
  obtain ⟨nothing, unprinted, same⟩ := run_aside m aside s
  rw [Run.exchanges] at nothing
  rw [run_bind_following, same, Run.exchanges_following, Run.printed_following, nothing, unprinted]
  exact ⟨rfl, rfl, rfl⟩

theorem run_bind_aside (m : Machine I σ) (d : Dialogue I α) {f : α → Dialogue I β}
    (aside : ∀ a, (f a).Within Utterance.IsAside fun _ => False) (s : σ) :
    ((d.bind f).run m s).exchanges = (d.run m s).exchanges ∧
      ((d.bind f).run m s).printed = (d.run m s).printed ∧
      ((d.bind f).run m s).value =
        ((f (d.run m s).value).run m (d.run m s).state).value := by
  obtain ⟨nothing, unprinted, -⟩ := run_aside m (aside (d.run m s).value) (d.run m s).state
  rw [run_bind_following, Run.exchanges_following, Run.printed_following, nothing, unprinted]
  exact ⟨List.append_nil _, List.append_nil _, rfl⟩

end Dialogue

namespace Attempt

variable {I : Interface} {ε ε' σ α β : Type} {tells : Utterance → Prop} {asks : I.Request → Prop}
  {d : Attempt I ε α} {f : α → Attempt I ε β}

theorem within_bind (first : d.run.Within tells asks) (rest : ∀ a, (f a).run.Within tells asks) :
    (d >>= f).run.Within tells asks := by
  rw [run_bind]
  apply Dialogue.within_bind first
  intro result
  cases result with
  | error e => trivial
  | ok a => exact rest a

theorem within_pure (a : α) : (pure a : Attempt I ε α).run.Within tells asks := trivial

theorem within_ofExcept (r : Except ε α) : (ofExcept r : Attempt I ε α).run.Within tells asks :=
  trivial

theorem within_notice {n : Notice} (allowed : tells (.notice n)) :
    (notice n : Attempt I ε Unit).run.Within tells asks :=
  ⟨allowed, trivial⟩

theorem within_mapError (g : ε → ε') (within : d.run.Within tells asks) :
    (d.mapError g).run.Within tells asks :=
  Dialogue.within_bind within fun _ => trivial

theorem within_forM {as : List α} {g : α → Attempt I ε Unit}
    (each : ∀ a ∈ as, (g a).run.Within tells asks) : (as.forM g).run.Within tells asks := by
  induction as with
  | nil => trivial
  | cons a as ih =>
      apply within_bind (each a (by simp))
      intro _
      exact ih (by intro later member; exact each later (by simp [member]))

theorem run_bind_ok (m : Machine I σ) {s : σ} {a : α} (ended : (d.run.run m s).value = .ok a) :
    (d >>= f).run.run m s =
      ((f a).run.run m (d.run.run m s).state).following (d.run.run m s).events := by
  simp only [run_bind, Dialogue.run_bind, ended]
  rfl

theorem run_bind_error (m : Machine I σ) {s : σ} {e : ε}
    (ended : (d.run.run m s).value = .error e) :
    (d >>= f).run.run m s = ⟨(d.run.run m s).events, .error e, (d.run.run m s).state⟩ := by
  simp only [run_bind, Dialogue.run_bind, ended, Dialogue.run, List.append_nil]

theorem run_aside_bind (m : Machine I σ) (aside : d.run.Within Utterance.IsAside fun _ => False)
    {s : σ} {a : α} (ended : (d.run.run m s).value = .ok a) (f : α → Attempt I ε β) :
    ((d >>= f).run.run m s).exchanges = ((f a).run.run m s).exchanges ∧
      ((d >>= f).run.run m s).printed = ((f a).run.run m s).printed ∧
      ((d >>= f).run.run m s).value = ((f a).run.run m s).value := by
  obtain ⟨nothing, unprinted, same⟩ := Dialogue.run_aside m aside s
  rw [Run.exchanges] at nothing
  rw [run_bind_ok m ended, same, Run.exchanges_following, Run.printed_following, nothing,
    unprinted]
  exact ⟨rfl, rfl, rfl⟩

theorem run_bind_pure (m : Machine I σ) (d : Attempt I ε α) (g : α → β) (s : σ) :
    ((d >>= fun a => pure (g a)).run.run m s).exchanges = (d.run.run m s).exchanges ∧
      ((d >>= fun a => pure (g a)).run.run m s).printed = (d.run.run m s).printed ∧
      ((d >>= fun a => pure (g a)).run.run m s).value = (d.run.run m s).value.map g := by
  cases ended : (d.run.run m s).value with
  | error e =>
      rw [run_bind_error m ended]
      exact ⟨rfl, rfl, rfl⟩
  | ok a =>
      rw [run_bind_ok m ended, Run.exchanges_following, Run.printed_following]
      exact ⟨List.append_nil _, List.append_nil _, rfl⟩

theorem value_lift (m : Machine I σ) (d : Dialogue I α) (s : σ) :
    ((ExceptT.lift d : Attempt I ε α).run.run m s).value = .ok (d.run m s).value := by
  show ((d.bind _).run m s).value = _
  rw [Dialogue.run_bind]
  rfl

theorem value_bind_eq_ok {m : Machine I σ} {s : σ} {b : β}
    (ended : ((d >>= f).run.run m s).value = .ok b) :
    ∃ a, (d.run.run m s).value = .ok a ∧
      ((f a).run.run m (d.run.run m s).state).value = .ok b := by
  cases first : (d.run.run m s).value with
  | error e =>
      rw [run_bind_error m first] at ended
      cases ended
  | ok a =>
      rw [run_bind_ok m first] at ended
      exact ⟨a, rfl, ended⟩

theorem value_bind_eq_error {m : Machine I σ} {s : σ} {e : ε}
    (ended : ((d >>= f).run.run m s).value = .error e) :
    (d.run.run m s).value = .error e ∨ ∃ a, (d.run.run m s).value = .ok a ∧
      ((f a).run.run m (d.run.run m s).state).value = .error e := by
  cases first : (d.run.run m s).value with
  | error other =>
      rw [run_bind_error m first] at ended
      cases ended
      exact .inl rfl
  | ok a =>
      rw [run_bind_ok m first] at ended
      exact .inr ⟨a, rfl, ended⟩

end Attempt

end ImageStock
