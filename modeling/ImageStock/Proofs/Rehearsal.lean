import ImageStock.Proofs.Provision.Segment
import ImageStock.Scripted

/-! Whole rehearsals on a scripted runtime: steps of all kinds in any order, some of which fail.
The store is a replay of the pulls and removals so far, no image is pulled while it is present, and
so what one run fetched no later run fetches again unless it was removed in between. -/

namespace ImageStock.Scripted

inductive Act where
  | called (exchange : Exchange runtime)
  | removed (reference : String)
  | ruled (reference : String) (rule : Rule)

/-- A state after an act. Only a pull that succeeds under a rule that keeps the image, a removal
and a new rule change it. -/
def Act.replay (s : State) : Act → State
  | called ⟨.query _, _⟩ => s
  | called ⟨.pull _, .error _⟩ => s
  | called ⟨.pull image, .ok _⟩ =>
    if (s.rule image.reference).keeps then { s with present := s.present.insert image.reference }
    else s
  | removed reference => { s with present := s.present.erase reference }
  | ruled reference rule => s.setRule reference rule

def replay (s : State) (acts : List Act) : State := acts.foldl Act.replay s

def Step.acts (step : Step) (exchanges : List (Exchange runtime)) : List Act :=
  match step with
  | remove reference => [.removed reference]
  | setRule reference rule => [.ruled reference rule]
  | ensure _ | provide _ | provideCatalog .. => exchanges.map .called

def history (name : String) (s : State) (steps : List Step) : List Act :=
  (steps.zip (performEach name s steps)).flatMap fun (step, r) => step.acts r.exchanges

/-- A step reports that it removed a reference which was present. -/
def Removes (steps : List Step) (reports : List (Rehearsal Report)) (k : Nat)
    (reference : String) : Prop :=
  steps[k]? = some (.remove reference) ∧
    (reports[k]?.map fun r => r.value) = some (.ok (.removed true))

/-- No rule, at the start or later, lets a pull succeed without keeping the image. -/
def AlwaysKeeps (s : State) (steps : List Step) : Prop :=
  (∀ reference, (s.rule reference).keeps = true) ∧
    ∀ reference rule, Step.setRule reference rule ∈ steps → rule.keeps = true

theorem AlwaysKeeps.take {s : State} {steps : List Step} (kept : AlwaysKeeps s steps) (i : Nat) :
    AlwaysKeeps s (steps.take i) :=
  ⟨kept.1, fun reference rule member => kept.2 reference rule (List.mem_of_mem_take member)⟩

theorem contains_answer (q : Call) (s : State) {reference : String}
    (present : s.present.contains reference = true) :
    (machine.answer q s).2.present.contains reference = true := by
  cases q with
  | query image => exact present
  | pull image =>
      simp only [machine, pull]
      split
      · exact present
      · split
        · simp [present]
        · exact present

theorem rules_answer (q : Call) (s : State) : (machine.answer q s).2.rules = s.rules := by
  cases q with
  | query image => rfl
  | pull image =>
      simp only [machine, pull]
      split
      · rfl
      · split <;> rfl

theorem contains_after (calls : List Call) (s : State) {reference : String}
    (present : s.present.contains reference = true) :
    (machine.after s calls).present.contains reference = true :=
  machine.after_induction (fun s => s.present.contains reference = true)
    (fun q s => contains_answer q s) s present calls

theorem rules_after (calls : List Call) (s : State) : (machine.after s calls).rules = s.rules :=
  machine.after_induction (fun t => t.rules = s.rules)
    (fun q t same => (rules_answer q t).trans same) s rfl calls

theorem present_after_pull {s : State} {image : Image}
    (pulled : (machine.answer (.pull image) s).1 = .ok ())
    (keeps : (s.rule image.reference).keeps = true) :
    (machine.answer (.pull image) s).2.present.contains image.reference = true := by
  simp only [machine, pull] at pulled ⊢
  split at pulled
  · cases pulled
  · simp [keeps]

theorem absent_of_query {s : State} {image : Image}
    (answered : (machine.answer (.query image) s).1 = .ok false) :
    s.present.contains image.reference = false := by
  simp only [machine, query] at answered
  split at answered
  · cases answered
  · exact Except.ok.inj answered

theorem replay_exchange (q : Call) (s : State) :
    Act.replay s (.called ⟨q, (machine.answer q s).1⟩) = (machine.answer q s).2 := by
  cases q with
  | query image => rfl
  | pull image =>
      simp only [machine, pull]
      cases (s.rule image.reference).pullFault <;> rfl

theorem replay_called {α : Type} (d : Dialogue runtime α) (s : State) :
    replay s ((d.run machine s).exchanges.map .called) = (d.run machine s).state := by
  induction d generalizing s with
  | done a => rfl
  | tell u d ih => exact ih s
  | ask q k ih =>
      rw [Dialogue.exchanges_ask, List.map_cons, replay, List.foldl_cons, replay_exchange]
      exact ih _ _

def Step.images : Step → List Image
  | ensure reference => (imageOf reference).toOption.toList
  | provide references => ((references.mapM imageOf).toOption).getD []
  | provideCatalog catalog env =>
    (((catalog.resolve env).map (·.map (·.image))).toOption).getD []
  | remove _ | setRule .. => []

theorem exchanges_rehearse_provide (name : String) (images : Except Failure (List Image))
    (s : State) :
    (rehearse images (ImageStock.provide name) s).exchanges =
      (Segment.ofEach machine (images.toOption.getD []) s).1.flatMap Segment.exchanges := by
  cases images with
  | error failure => rfl
  | ok images =>
      have run := Attempt.silent_mapError machine Failure.ofFault
        (provide_silent machine name images s)
      exact (Run.silent_eq run).1

theorem exchanges_rehearse_ensure (name : String) (image : Except Failure Image) (s : State) :
    (rehearse image (ImageStock.ensure name) s).exchanges =
      (Segment.ofEach machine image.toOption.toList s).1.flatMap Segment.exchanges := by
  cases image with
  | error failure => rfl
  | ok image =>
      have run := Attempt.silent_mapError machine Failure.ofFault
        (ensure_silent machine name image s)
      have alone : (Segment.ofEach machine [image] s).1 = [(Segment.of machine image s).1] := by
        simp only [Segment.ofEach]
        split <;> rfl
      rw [show (rehearse (.ok image) (ImageStock.ensure name) s).exchanges = _ from
        (Run.silent_eq run).1]
      simp [Except.toOption, alone]

/-- The calls of any step are those of a run over its images. -/
theorem exchanges_perform (name : String) (s : State) (step : Step) :
    (step.perform name s).exchanges =
      (Segment.ofEach machine step.images s).1.flatMap Segment.exchanges := by
  cases step with
  | ensure reference => exact exchanges_rehearse_ensure name _ s
  | provide references => exact exchanges_rehearse_provide name _ s
  | provideCatalog catalog env => exact exchanges_rehearse_provide name _ s
  | remove reference => rfl
  | setRule reference rule => rfl

theorem replay_rehearse {α β : Type} (images : Except Failure α)
    (d : α → Attempt runtime Fault β) (s : State) :
    replay s ((rehearse images d s).exchanges.map .called) = (rehearse images d s).state := by
  cases images with
  | error failure => rfl
  | ok images => exact replay_called _ s

theorem replay_acts (name : String) (s : State) (step : Step) :
    replay s (step.acts (step.perform name s).exchanges) = (step.perform name s).state := by
  cases step with
  | ensure reference => exact replay_rehearse (imageOf reference) (ImageStock.ensure name) s
  | provide references =>
      exact replay_rehearse (references.mapM imageOf) (ImageStock.provide name) s
  | provideCatalog catalog env =>
      exact replay_rehearse ((catalog.resolve env).map (·.map (·.image)))
        (ImageStock.provide name) s
  | remove reference => rfl
  | setRule reference rule => rfl

theorem state_rehearse {α β : Type} (images : Except Failure α)
    (d : α → Attempt runtime Fault β) (s : State) :
    (rehearse images d s).state =
      machine.after s ((rehearse images d s).exchanges.map Sigma.fst) := by
  cases images with
  | error failure => rfl
  | ok images => exact Dialogue.state_eq_after machine _ s

theorem state_perform (name : String) (s : State) (step : Step) :
    (step.perform name s).state =
      match step with
      | .remove reference => { s with present := s.present.erase reference }
      | .setRule reference rule => s.setRule reference rule
      | step => machine.after s ((step.perform name s).exchanges.map Sigma.fst) := by
  cases step with
  | ensure reference => exact state_rehearse (imageOf reference) (ImageStock.ensure name) s
  | provide references =>
      exact state_rehearse (references.mapM imageOf) (ImageStock.provide name) s
  | provideCatalog catalog env =>
      exact state_rehearse ((catalog.resolve env).map (·.map (·.image)))
        (ImageStock.provide name) s
  | remove reference => rfl
  | setRule reference rule => rfl

theorem state_perform_of_exchanges {name : String} {s : State} {step : Step}
    (called : (step.perform name s).exchanges ≠ []) :
    (step.perform name s).state =
      machine.after s ((step.perform name s).exchanges.map Sigma.fst) := by
  rw [state_perform]
  cases step with
  | ensure | provide | provideCatalog => rfl
  | remove | setRule => exact absurd rfl called

theorem contains_perform {s : State} {reference : String} (name : String) (step : Step)
    (present : s.present.contains reference = true) (stays : step ≠ .remove reference) :
    (step.perform name s).state.present.contains reference = true := by
  rw [state_perform]
  cases step with
  | ensure | provide | provideCatalog => exact contains_after _ s present
  | remove other =>
      have different : reference ≠ other := fun eq => stays (by rw [eq])
      simp [different, present]
  | setRule other rule => exact present

theorem keeps_perform {s : State} (name : String) {step : Step}
    (keeps : ∀ reference, (s.rule reference).keeps = true)
    (next : ∀ reference rule, step = .setRule reference rule → rule.keeps = true) :
    ∀ reference, ((step.perform name s).state.rule reference).keeps = true := by
  intro reference
  rw [state_perform]
  cases step with
  | ensure | provide | provideCatalog =>
      rw [State.rule, rules_after]
      exact keeps reference
  | remove other => exact keeps reference
  | setRule other rule =>
      by_cases same : reference = other
      · simpa [State.rule, State.setRule, List.lookup_cons, same] using next other rule rfl
      · have differ : (reference == other) = false := by simpa using same
        simpa [State.rule, State.setRule, List.lookup_cons, differ] using keeps reference

section Perform

variable {name : String} {s : State} {step : Step} {image : Image} {answer : Except Fault Unit}
  {front back : List (Exchange runtime)}

theorem answer_of_exchanges_perform {q : Call} {a : q.Answer}
    (split : (step.perform name s).exchanges = front ++ ⟨q, a⟩ :: back) :
    a = (machine.answer q (machine.after s (front.map Sigma.fst))).1 := by
  have run := (Run.silent_eq (provide_silent machine name step.images s)).1
  rw [exchanges_perform, ← run] at split
  exact Dialogue.answer_of_exchanges_eq machine _ s split

theorem absent_at_pull
    (split : (step.perform name s).exchanges = front ++ ⟨.pull image, answer⟩ :: back) :
    (machine.after s (front.map Sigma.fst)).present.contains image.reference = false := by
  have calls := split
  rw [exchanges_perform] at calls
  obtain ⟨earlier, rfl⟩ := Segment.query_before_pull calls
  rw [List.append_assoc, List.singleton_append] at split
  have answered := answer_of_exchanges_perform split
  rw [List.map_append, Machine.after_append]
  exact absent_of_query answered.symm

theorem absent_before_pull
    (split : (step.perform name s).exchanges = front ++ ⟨.pull image, answer⟩ :: back) :
    s.present.contains image.reference = false := by
  have absent := absent_at_pull split
  rw [Bool.eq_false_iff] at absent ⊢
  exact fun present => absent (contains_after _ s present)

theorem present_after_fetch (keeps : (s.rule image.reference).keeps = true)
    (split : (step.perform name s).exchanges = front ++ ⟨.pull image, .ok ()⟩ :: back)
    (later : List Call) :
    (machine.after s (front.map Sigma.fst ++ .pull image :: later)).present.contains
      image.reference = true := by
  have pulled := answer_of_exchanges_perform split
  rw [Machine.after_append, Machine.after_cons]
  refine contains_after later _ (present_after_pull pulled.symm ?_)
  rwa [State.rule, rules_after]

end Perform

def stateAfter (name : String) (s : State) (steps : List Step) : State :=
  steps.foldl (fun s step => (step.perform name s).state) s

@[simp] theorem stateAfter_cons (name : String) (s : State) (step : Step) (steps : List Step) :
    stateAfter name s (step :: steps) = stateAfter name (step.perform name s).state steps := rfl

theorem getElem?_performEach (name : String) (s : State) (steps : List Step) (i : Nat) :
    (performEach name s steps)[i]? =
      steps[i]?.map fun step => step.perform name (stateAfter name s (steps.take i)) := by
  induction steps generalizing s i with
  | nil => simp [performEach]
  | cons step steps ih =>
      cases i with
      | zero => rfl
      | succ i => simpa [performEach] using ih (step.perform name s).state i

theorem replay_history (name : String) (s : State) (steps : List Step) :
    replay s (history name s steps) = stateAfter name s steps := by
  induction steps generalizing s with
  | nil => rfl
  | cons step steps ih =>
      have first := replay_acts name s step
      simp only [history, performEach, List.zip_cons_cons, List.flatMap_cons, replay,
        List.foldl_append] at first ih ⊢
      rw [first, ih, stateAfter_cons]

theorem keeps_stateAfter (name : String) {s : State} {steps : List Step}
    (kept : AlwaysKeeps s steps) (reference : String) :
    ((stateAfter name s steps).rule reference).keeps = true := by
  induction steps generalizing s with
  | nil => exact kept.1 reference
  | cons step steps ih =>
      refine ih ⟨keeps_perform name kept.1 ?_, ?_⟩
      · intro other rule eq
        exact kept.2 other rule (by simp [eq])
      · intro other rule member
        exact kept.2 other rule (by simp [member])

theorem exists_removes_of_lost (name : String) {s : State} {steps : List Step}
    {reference : String} (present : s.present.contains reference = true)
    (lost : (stateAfter name s steps).present.contains reference = false) :
    ∃ k, k < steps.length ∧ Removes steps (performEach name s steps) k reference := by
  induction steps generalizing s with
  | nil =>
      rw [stateAfter, List.foldl_nil, present] at lost
      cases lost
  | cons step steps ih =>
      by_cases removal : step = .remove reference
      · subst removal
        exact ⟨0, by simp, rfl, by simp [performEach, Step.perform, present]⟩
      · obtain ⟨k, bound, removed⟩ := ih (contains_perform name step present removal) lost
        exact ⟨k + 1, by simpa using bound, by simpa [Removes, performEach] using removed⟩

theorem performEach_drop (name : String) (s : State) (steps : List Step) (i : Nat) :
    (performEach name s steps).drop i =
      performEach name (stateAfter name s (steps.take i)) (steps.drop i) := by
  induction steps generalizing s i with
  | nil => simp [performEach]
  | cons step steps ih =>
      cases i with
      | zero => rfl
      | succ i => exact ih _ i

theorem performEach_take (name : String) (s : State) (steps : List Step) (i : Nat) :
    (performEach name s steps).take i = performEach name s (steps.take i) := by
  induction steps generalizing s i with
  | nil => simp [performEach]
  | cons step steps ih =>
      cases i with
      | zero => rfl
      | succ i => simp [performEach, ih]

theorem stateAfter_append (name : String) (s : State) (front back : List Step) :
    stateAfter name s (front ++ back) = stateAfter name (stateAfter name s front) back :=
  List.foldl_append

theorem exists_removes_between (name : String) {s : State} {steps : List Step} {i j : Nat}
    {reference : String} (order : i ≤ j)
    (present : (stateAfter name s (steps.take i)).present.contains reference = true)
    (lost : (stateAfter name s (steps.take j)).present.contains reference = false) :
    ∃ k, i ≤ k ∧ k < j ∧ Removes steps (performEach name s steps) k reference := by
  have between : steps.take j = steps.take i ++ (steps.drop i).take (j - i) := by
    rw [← List.take_add, Nat.add_sub_cancel' order]
  rw [between, stateAfter_append] at lost
  obtain ⟨k, bound, removed⟩ := exists_removes_of_lost name present lost
  have inside : k < j - i := by
    rw [List.length_take] at bound
    omega
  refine ⟨i + k, by omega, by omega, ?_⟩
  rw [Removes, ← performEach_take, ← performEach_drop] at removed
  simpa [Removes, List.getElem?_take_of_lt inside, List.getElem?_drop] using removed

theorem eq_perform_of_getElem? {name : String} {s : State} {steps : List Step} {i : Nat}
    {r : Rehearsal Report} (report : (performEach name s steps)[i]? = some r) :
    ∃ step, steps[i]? = some step ∧ r = step.perform name (stateAfter name s (steps.take i)) := by
  rw [getElem?_performEach, Option.map_eq_some_iff] at report
  obtain ⟨step, here, rfl⟩ := report
  exact ⟨step, here, rfl⟩

theorem stateAfter_take_succ {name : String} {s : State} {steps : List Step} {i : Nat}
    {step : Step} (here : steps[i]? = some step) :
    stateAfter name s (steps.take (i + 1)) =
      (step.perform name (stateAfter name s (steps.take i))).state := by
  rw [List.take_add_one, here, stateAfter_append]
  rfl

theorem present_after_fetching_step {name : String} {s : State} {steps : List Step} {i : Nat}
    {r : Rehearsal Report} {image : Image} (kept : AlwaysKeeps s steps)
    (report : (performEach name s steps)[i]? = some r)
    (fetched : (⟨.pull image, .ok ()⟩ : Exchange runtime) ∈ r.exchanges) :
    (stateAfter name s (steps.take (i + 1))).present.contains image.reference = true := by
  obtain ⟨step, here, rfl⟩ := eq_perform_of_getElem? report
  obtain ⟨front, back, split⟩ := List.append_of_mem fetched
  rw [stateAfter_take_succ here, state_perform_of_exchanges (List.ne_nil_of_mem fetched), split,
    List.map_append, List.map_cons]
  exact present_after_fetch (keeps_stateAfter name (kept.take i) image.reference) split _

theorem absent_before_pulling_step {name : String} {s : State} {steps : List Step} {j : Nat}
    {r : Rehearsal Report} {image : Image} {answer : Except Fault Unit}
    (report : (performEach name s steps)[j]? = some r)
    (pulled : (⟨.pull image, answer⟩ : Exchange runtime) ∈ r.exchanges) :
    (stateAfter name s (steps.take j)).present.contains image.reference = false := by
  obtain ⟨step, -, rfl⟩ := eq_perform_of_getElem? report
  obtain ⟨front, back, split⟩ := List.append_of_mem pulled
  exact absent_before_pull split

/-- Between a pull that succeeds and any other pull of the same image, within one run or later, the
image was removed; in particular a run that is repeated after a failure pulls nothing again that the
aborted one fetched. -/
theorem performEach_pulls_only_absent (name : String) (s : State) (steps : List Step) :
    let reports := performEach name s steps
    let start (i : Nat) := replay s (history name s (steps.take i))
    (∀ (i : Nat) (r : Rehearsal Report) front image answer back, reports[i]? = some r →
      r.exchanges = front ++ ⟨.pull image, answer⟩ :: back →
      (machine.after (start i) (front.map Sigma.fst)).present.contains image.reference = false) ∧
    (∀ (i : Nat) (r : Rehearsal Report), reports[i]? = some r →
      r.state = replay s (history name s (steps.take (i + 1)))) ∧
    (AlwaysKeeps s steps →
      (∀ (i : Nat) (r : Rehearsal Report) front image back answer, reports[i]? = some r →
        r.exchanges = front ++ ⟨.pull image, .ok ()⟩ :: back → ⟨.pull image, answer⟩ ∉ back) ∧
      (∀ (i j : Nat) (r r' : Rehearsal Report) image answer, i < j → reports[i]? = some r →
        reports[j]? = some r' → ⟨.pull image, .ok ()⟩ ∈ r.exchanges →
        ⟨.pull image, answer⟩ ∈ r'.exchanges →
        ∃ k, i < k ∧ k < j ∧ Removes steps reports k image.reference) ∧
      ∀ (j : Nat) (r : Rehearsal Report) image answer,
        s.present.contains image.reference = true → reports[j]? = some r →
        ⟨.pull image, answer⟩ ∈ r.exchanges →
        ∃ k, k < j ∧ Removes steps reports k image.reference) := by
  intro reports start
  simp only [start, replay_history]
  refine ⟨?_, ?_, fun kept => ⟨?_, ?_, ?_⟩⟩
  · intro i r front image answer back report split
    obtain ⟨step, -, rfl⟩ := eq_perform_of_getElem? report
    exact absent_at_pull split
  · intro i r report
    obtain ⟨step, here, rfl⟩ := eq_perform_of_getElem? report
    exact (stateAfter_take_succ here).symm
  · intro i r front image back answer report split again
    obtain ⟨step, here, rfl⟩ := eq_perform_of_getElem? report
    obtain ⟨middle, rest, rfl⟩ := List.append_of_mem again
    have keeps := keeps_stateAfter name (kept.take i) image.reference
    have present := present_after_fetch keeps split (middle.map Sigma.fst)
    rw [← List.cons_append, ← List.append_assoc] at split
    have absent := absent_at_pull split
    rw [List.map_append, List.map_cons, present] at absent
    cases absent
  · intro i j r r' image answer order first second fetched pulled
    obtain ⟨k, low, high, removed⟩ := exists_removes_between name order
      (present_after_fetching_step kept first fetched) (absent_before_pulling_step second pulled)
    exact ⟨k, low, high, removed⟩
  · intro j r image answer present report pulled
    obtain ⟨k, -, bound, removed⟩ := exists_removes_between name (Nat.zero_le j) present
      (absent_before_pulling_step report pulled)
    exact ⟨k, bound, removed⟩

end ImageStock.Scripted
