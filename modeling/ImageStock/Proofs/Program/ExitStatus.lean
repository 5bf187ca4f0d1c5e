import ImageStock.Proofs.Program.Commands
import ImageStock.Proofs.ProjectFile.RoundTrip

/-! The status that a call ends with. Main statement: a call that pulls images ends with the status
of success exactly if each of them was present or has been pulled, with the status of a pull where
it stopped at one, and with 1 if it stopped for another reason. -/

namespace ImageStock

def Failure.IsPlain (failure : Failure) : Prop := failure.exitCode = 1

theorem textOf_plain {path : String} {bytes : List UInt8} {failure : Failure}
    (failed : textOf path bytes = .error failure) : failure.IsPlain := by
  rw [textOf] at failed
  split at failed
  · cases failed
  · cases failed
    rfl

theorem ProjectFile.parse_plain {document : List Char} {cause : Cause}
    (failed : ProjectFile.parse document = .error cause) : (Failure.of cause).IsPlain := by
  rcases bind_eq_error.mp failed with unread | ⟨tree, -, unfit⟩
  · rw [readTree] at unread
    split at unread
    · cases unread
    · cases unread
      rfl
  · obtain ⟨misfit, -, rfl⟩ := mapError_eq_error.mp unfit
    rfl

theorem Host.read_plain {h : Host} {path : String} {failure : Failure}
    (failed : h.read path = .error failure) : failure.IsPlain := by
  obtain ⟨error, -, rfl⟩ := mapError_eq_error.mp failed
  rfl

theorem Catalog.resolve_plain {catalog : Catalog} {env : Lookup} {failure : Failure}
    (failed : catalog.resolve env = .error failure) : failure.IsPlain := by
  have chosen : ∀ version, catalog.items.mapM (·.choose env version) = .error failure →
      failure.IsPlain := by
    intro version failed
    obtain ⟨item, -, failed⟩ := exists_of_mapM_eq_error failed
    rw [Item.choose] at failed
    split at failed
    · cases failed
    · cases failed
      rfl
  rw [resolve] at failed
  split at failed
  · split at failed
    · exact chosen _ failed
    · cases failed
      rfl
  · exact chosen _ failed

theorem ProjectFile.toItem_plain {e : ProjectFile.Entry} {failure : Failure}
    (failed : e.toItem = .error failure) : failure.IsPlain := by
  rw [Entry.toItem] at failed
  split at failed
  · cases failed
  · cases failed
  · cases failed
    rfl
  · cases failed
    rfl

theorem ProjectFile.toCatalog_plain {images : ProjectFile.Images} {failure : Failure}
    (failed : images.toCatalog = .error failure) : failure.IsPlain := by
  rw [Images.toCatalog] at failed
  split at failed
  · cases failed
  · rcases bind_eq_error.mp failed with unfit | ⟨items, -, impossible⟩
    · obtain ⟨e, -, failed⟩ := exists_of_mapM_eq_error unfit
      exact toItem_plain failed
    · cases impossible

theorem Settings.merge_plain {flag env : Option String} {project : Option ProjectFile}
    {user : UserFile} {failure : Failure}
    (failed : Settings.merge flag env project user = .error failure) : failure.IsPlain := by
  cases images : (project.getD {}).images with
  | none =>
      simp only [merge, images] at failed
      cases failed
  | some given =>
      simp only [merge, images] at failed
      rcases bind_eq_error.mp failed with unfit | ⟨catalog, -, impossible⟩
      · exact ProjectFile.toCatalog_plain unfit
      · cases impossible

variable {I : Interface} {σ : Type} {m : Machine I σ} {s : σ} {failure : Failure}

theorem ProjectFile.load_plain {path : String} {bytes : Except Failure (List UInt8)}
    (unread : ∀ failure, bytes = .error failure → failure.IsPlain)
    (failed : ((ProjectFile.load path bytes).run.run m s).value = .error failure) :
    failure.IsPlain := by
  rcases Attempt.value_bind_eq_error failed with impossible | ⟨_, -, failed⟩
  · cases impossible
  rcases Attempt.value_bind_eq_error failed with ended | ⟨document, -, failed⟩
  · rcases bind_eq_error.mp ended with ended | ⟨bytes, -, ended⟩
    · exact unread failure ended
    · exact textOf_plain ended
  rcases Attempt.value_bind_eq_error failed with ended | ⟨⟨project, unknown⟩, -, failed⟩
  · obtain ⟨cause, unparsed, rfl⟩ := mapError_eq_error.mp ended
    exact ProjectFile.parse_plain unparsed
  rcases Attempt.value_bind_eq_error failed with ended | ⟨_, -, failed⟩
  · obtain ⟨-, noticed, -⟩ :=
      Run.silent_eq (Attempt.silent_forM_notice m unknown (Notice.unknownField path) _)
    rw [noticed] at ended
    cases ended
  split at failed
  · cases failed
  · cases failed
  · cases failed
    rfl

namespace Host

theorem loadProject_plain {h : Host} {explicit : Option String} {dir : String}
    (failed : ((h.loadProject explicit dir).run.run m s).value = .error failure) :
    failure.IsPlain := by
  have unloaded : ∀ (path : String) (t : σ),
      ((ProjectFile.load path (h.read path) >>= fun project => pure (some project) :
        Attempt I Failure (Option ProjectFile)).run.run m t).value = .error failure →
      failure.IsPlain := by
    intro path t failed
    rcases Attempt.value_bind_eq_error failed with ended | ⟨_, -, impossible⟩
    · exact ProjectFile.load_plain (fun _ => read_plain) ended
    · cases impossible
  cases explicit with
  | some path =>
      simp only [loadProject] at failed
      split at failed
      · exact unloaded path s failed
      · cases failed
        rfl
  | none =>
      rcases Attempt.value_bind_eq_error failed with ended | ⟨found, -, failed⟩
      · rw [Attempt.value_lift] at ended
        cases ended
      · cases found with
        | none => cases failed
        | some path => exact unloaded path _ failed

theorem loadSettings_plain {h : Host} {config flag : Option String}
    (failed : ((h.loadSettings config flag).run.run m s).value = .error failure) :
    failure.IsPlain := by
  rcases Attempt.value_bind_eq_error failed with ended | ⟨project, -, failed⟩
  · exact loadProject_plain ended
  have unmerged : ∀ (user : UserFile) (t : σ),
      ((Settings.mergeAloud flag (h.env.nonempty? "CONTAINER_CLI") project user).run.run m
        t).value = .error failure → failure.IsPlain := by
    intro user t ended
    rcases Attempt.value_bind_eq_error ended with ended | ⟨settings, -, later⟩
    · exact Settings.merge_plain ended
    · rcases Attempt.value_bind_eq_error later with impossible | ⟨_, -, impossible⟩
      · cases impossible
      · cases impossible
  cases user : h.loadUser with
  | ok user =>
      simp only [user] at failed
      exact unmerged _ _ failed
  | error ignored =>
      simp only [user] at failed
      rcases Attempt.value_bind_eq_error failed with impossible | ⟨_, -, failed⟩
      · cases impossible
      · exact unmerged _ _ failed

end Host

theorem Status.exited_ne_success {n : Fin 256} (failed : n ≠ 0) : exited n ≠ exited 0 := by
  intro same
  exact failed (exited.inj same)

theorem Status.signalled_ne_success (signal : Nat) : signalled signal ≠ exited 0 := by
  intro same
  cases same

theorem processStatus_val (n : Fin 256) : processStatus n.val = .exited n := by
  rw [processStatus]
  congr 1
  apply Fin.ext
  have small := n.isLt
  simp only
  omega

namespace Failure

theorem exitCode_foldr_within (contexts : List Context) (cause : Cause) :
    (contexts.foldr within (of cause)).exitCode = (of cause).exitCode := by
  induction contexts with
  | nil => rfl
  | cons context contexts ih => exact ih

theorem exitCode_pullFailed (reference : String) {code : Int} (failed : code ≠ 0) :
    (ofFault (.pullFailed reference (some code))).exitCode = code :=
  if_neg failed

theorem exitCode_other {cause : Cause} (other : ∀ reference code, code ≠ 0 →
    cause ≠ .fault (.pullFailed reference (some code))) : (of cause).IsPlain := by
  cases cause with
  | fault f =>
      cases f with
      | pullFailed reference code =>
          cases code with
          | none => rfl
          | some code =>
              by_cases zero : code = 0
              · rw [zero]
                rfl
              · exact absurd rfl (other reference code zero)
      | unavailable program error => rfl
      | notStarted command error => rfl
      | emptyReference => rfl
  | _ => rfl

theorem exitCode_ne_zero (failure : Failure) : failure.exitCode ≠ 0 := by
  show (of failure.cause).exitCode ≠ 0
  by_cases pull : ∃ reference code, code ≠ 0 ∧
      failure.cause = .fault (.pullFailed reference (some code))
  · obtain ⟨reference, code, failed, cause⟩ := pull
    have own := exitCode_pullFailed reference failed
    rw [ofFault] at own
    rw [cause, own]
    exact failed
  · have plain : (of failure.cause).IsPlain := by
      apply exitCode_other
      intro reference code failed cause
      exact pull ⟨reference, code, failed, cause⟩
    rw [IsPlain] at plain
    omega

end Failure

theorem Engine.answer_of_provides {e : Engine} {images : List Image}
    {parts : List (List (Exchange shell))} (provided : List.Forall₂ e.Provides images parts)
    {x : Exchange shell} (member : x ∈ parts.flatten) :
    ∃ ending, x.2 = .ok ending ∧ (x.1.audible = true → ending.status = .exited 0) := by
  induction provided with
  | nil => cases member
  | cons first rest ih =>
      rw [List.flatten_cons, List.mem_append] at member
      rcases member with inside | later
      · cases first with
        | present ending shows =>
            rw [List.mem_singleton] at inside
            rw [inside]
            exact ⟨ending, rfl, fun audible => by cases audible⟩
        | pulled query pull lacks success =>
            rw [List.mem_cons, List.mem_singleton] at inside
            rcases inside with rfl | rfl
            · exact ⟨query, rfl, fun audible => by cases audible⟩
            · exact ⟨pull, rfl, fun _ => success⟩
      · exact ih later

namespace Plan

variable {p : Plan} {m : Machine shell σ}

theorem exchanges_of_pull_eq_ok {tally : Tally} (ended : (p.pull.run.run m s).value = .ok tally) :
    ∃ parts, (p.pull.run.run m s).exchanges = parts.flatten ∧
      List.Forall₂ p.engine.Provides p.images parts := by
  obtain ⟨exchanges, value, -⟩ := Run.silent_eq (p.pull_silent m s)
  rw [value, mapError_eq_ok] at ended
  rw [exchanges]
  exact Engine.exchanges_of_serve_provide_eq_ok ended

theorem exchanges_of_pull_eq_error (failed : (p.pull.run.run m s).value = .error failure) :
    ∃ image ∈ p.images, ∃ earlier last fault, failure = .ofFault fault ∧
      p.engine.FailsWith image last fault ∧
      (p.pull.run.run m s).exchanges = earlier ++ [last] := by
  obtain ⟨exchanges, value, -⟩ := Run.silent_eq (p.pull_silent m s)
  rw [value, mapError_eq_error] at failed
  obtain ⟨fault, failed, rfl⟩ := failed
  obtain ⟨image, given, earlier, last, fails, split⟩ :=
    Engine.exchanges_of_serve_provide_eq_error failed
  exact ⟨image, given, earlier, last, fault, rfl, fails, exchanges.trans split⟩

end Plan

namespace Host

variable {h : Host} {i : Invocation} {m : Machine shell σ} {exchanges : List (Exchange shell)}

/-- Every stage of a run succeeded, and each image in turn was present or has been pulled. -/
def Supplies (h : Host) (i : Invocation) (m : Machine shell σ) (s : σ)
    (exchanges : List (Exchange shell)) : Prop :=
  ∃ settings plan ending parts, h.loaded i m s = .ok settings ∧
    settings.plan h.env = .ok plan ∧
    exchanges = ⟨plan.engine.versionCommand, .ok ending⟩ :: parts.flatten ∧
    List.Forall₂ plan.engine.Provides plan.images parts

/-- The last command of a run is the pull of one of its images, which ended with a status. -/
def StopsAtPull (h : Host) (i : Invocation) (m : Machine shell σ) (s : σ)
    (exchanges : List (Exchange shell)) (status : Status) : Prop :=
  ∃ settings plan ending, h.loaded i m s = .ok settings ∧ settings.plan h.env = .ok plan ∧
    ending.status = status ∧
    ∃ image ∈ plan.images, exchanges.getLast? = some ⟨plan.engine.pullCommand image, .ok ending⟩

theorem answer_of_supplies (supplies : h.Supplies i m s exchanges) {x : Exchange shell}
    (member : x ∈ exchanges) :
    ∃ ending, x.2 = .ok ending ∧ (x.1.audible = true → ending.status = .exited 0) := by
  obtain ⟨settings, plan, ending, parts, -, -, rfl, provided⟩ := supplies
  rcases List.mem_cons.mp member with rfl | inside
  · exact ⟨ending, rfl, fun audible => by cases audible⟩
  · exact Engine.answer_of_provides provided inside

theorem stopsAtPull_unique {status other : Status} (stops : h.StopsAtPull i m s exchanges status)
    (again : h.StopsAtPull i m s exchanges other) : status = other := by
  obtain ⟨_, plan, ending, -, -, rfl, image, -, last⟩ := stops
  obtain ⟨_, plan', same, -, -, rfl, image', -, repeated⟩ := again
  rw [last, Option.some.injEq] at repeated
  have answers : (.ok ending : Except SystemError Ending) = .ok same :=
    congrArg (fun x : Exchange shell => (x.2 : Except SystemError Ending)) repeated
  cases answers
  rfl

/-- Of all commands only pulls are audible, so that none can be taken for another one. -/
theorem not_supplies_of_stopsAtPull {status : Status} (failed : status ≠ .exited 0)
    (stops : h.StopsAtPull i m s exchanges status) : ¬ h.Supplies i m s exchanges := by
  intro supplies
  obtain ⟨_, plan, ending, -, -, rfl, image, -, last⟩ := stops
  obtain ⟨same, answer, success⟩ := answer_of_supplies supplies (List.mem_of_getLast? last)
  cases answer
  exact failed (success rfl)

theorem not_supplies_of_refused {c : Command} {error : SystemError}
    (last : exchanges.getLast? = some ⟨c, .error error⟩) :
    ¬ h.Supplies i m s exchanges ∧ ∀ status, ¬ h.StopsAtPull i m s exchanges status := by
  constructor
  · intro supplies
    obtain ⟨ending, answer, -⟩ := answer_of_supplies supplies (List.mem_of_getLast? last)
    cases answer
  · rintro status ⟨_, plan, ending, -, -, -, image, -, pull⟩
    rw [last, Option.some.injEq] at pull
    cases pull

theorem not_supplies_nil :
    ¬ h.Supplies i m s [] ∧ ∀ status, ¬ h.StopsAtPull i m s [] status := by
  constructor
  · rintro ⟨_, plan, ending, parts, -, -, impossible, -⟩
    cases impossible
  · rintro status ⟨_, plan, ending, -, -, -, image, -, impossible⟩
    cases impossible

/-- How a run fails: at a pull, with the status of the pull if it has one, or elsewhere. -/
inductive Fails (h : Host) (i : Invocation) (m : Machine shell σ) (s : σ)
    (exchanges : List (Exchange shell)) (failure : Failure) : Prop
  | elsewhere (plain : failure.IsPlain) (lacks : ¬ h.Supplies i m s exchanges)
      (apart : ∀ status, ¬ h.StopsAtPull i m s exchanges status)
  | exited (n : Fin 256) (failed : n ≠ 0) (own : failure.exitCode = n.val)
      (stops : h.StopsAtPull i m s exchanges (.exited n))
  | signalled (signal : Nat) (plain : failure.IsPlain)
      (stops : h.StopsAtPull i m s exchanges (.signalled signal))

theorem fails_of_failsWith {settings : Settings} {plan : Plan} {image : Image}
    {last : Exchange shell} {fault : Fault} (loads : h.loaded i m s = .ok settings)
    (planned : settings.plan h.env = .ok plan) (given : image ∈ plan.images)
    (fails : plan.engine.FailsWith image last fault) (ends : exchanges.getLast? = some last) :
    h.Fails i m s exchanges (.ofFault fault) := by
  cases fails with
  | query error =>
      obtain ⟨lacks, apart⟩ := not_supplies_of_refused (h := h) (i := i) (m := m) (s := s) ends
      exact .elsewhere rfl lacks apart
  | pull error =>
      obtain ⟨lacks, apart⟩ := not_supplies_of_refused (h := h) (i := i) (m := m) (s := s) ends
      exact .elsewhere rfl lacks apart
  | status ending failed =>
      have stops : h.StopsAtPull i m s exchanges ending.status :=
        ⟨settings, plan, ending, loads, planned, rfl, image, given, ends⟩
      cases ended : ending.status with
      | exited n =>
          rw [ended] at stops failed
          have nonzero : n ≠ 0 := by
            rintro rfl
            cases failed
          have code : (n.val : Int) ≠ 0 := by
            intro zero
            exact nonzero (Fin.ext (Int.ofNat_eq_zero.mp zero))
          exact .exited n nonzero (Failure.exitCode_pullFailed image.reference code) stops
      | signalled signal =>
          rw [ended] at stops
          exact .signalled signal rfl stops

theorem perform_pull (h : Host) (i : Invocation) (m : Machine shell σ) (s : σ)
    (acts : i.action = .pull) :
    let run := ((perform i).run.run h).run m s
    (run.value = (.ok (), h) ∧ h.Supplies i m s run.exchanges) ∨
      ∃ failure, run.value = (.error failure, h) ∧ h.Fails i m s run.exchanges failure := by
  intro run
  have task : (perform i).run.run h = (Work.ofAttempt (h.carryOut i Plan.pull)).run.run h := by
    rw [perform_on, acts]
  -- The stages before the pulls are taken one by one: each of them succeeds or ends the run.
  obtain ⟨unloaded, stages⟩ := perform_outcome (m := m) (s := s) task
  cases loads : h.loaded i m s with
  | error failure =>
      obtain ⟨exchanges, value⟩ := unloaded failure loads
      obtain ⟨lacks, apart⟩ := not_supplies_nil (h := h) (i := i) (m := m) (s := s)
      rw [← exchanges] at lacks apart
      exact .inr ⟨failure, value, .elsewhere (loadSettings_plain loads) lacks apart⟩
  | ok settings =>
      obtain ⟨unresolved, stages⟩ := stages settings loads
      cases resolved : settings.catalog.resolve h.env with
      | error failure =>
          obtain ⟨exchanges, value⟩ := unresolved failure resolved
          obtain ⟨lacks, apart⟩ := not_supplies_nil (h := h) (i := i) (m := m) (s := s)
          rw [← exchanges] at lacks apart
          exact .inr ⟨failure, value, .elsewhere (Catalog.resolve_plain resolved) lacks apart⟩
      | ok choices =>
          obtain ⟨e, engine, refused, started⟩ := stages choices resolved
          have planned := Settings.plan_of_resolve_eq_ok resolved engine
          cases answered : (m.answer e.versionCommand s).1 with
          | error error =>
              obtain ⟨exchanges, -, value⟩ := refused error answered
              have last : run.exchanges.getLast? = some ⟨e.versionCommand, .error error⟩ := by
                rw [exchanges]
                rfl
              obtain ⟨lacks, apart⟩ := not_supplies_of_refused (h := h) (i := i) last
              exact .inr ⟨_, value, .elsewhere rfl lacks apart⟩
          | ok ending =>
              obtain ⟨exchanges, -, value⟩ := started ending answered
              cases ended : ((Plan.pull ⟨choices, e⟩).run.run m
                  (m.answer e.versionCommand s).2).value with
              | ok tally =>
                  obtain ⟨parts, split, provided⟩ := Plan.exchanges_of_pull_eq_ok ended
                  rw [ended] at value
                  rw [split] at exchanges
                  exact .inl ⟨value, settings, ⟨choices, e⟩, ending, parts, loads, planned,
                    exchanges, provided⟩
              | error failure =>
                  obtain ⟨image, given, earlier, last, fault, rfl, fails, split⟩ :=
                    Plan.exchanges_of_pull_eq_error ended
                  rw [ended] at value
                  have ends : run.exchanges.getLast? = some last := by
                    rw [exchanges, split, ← List.cons_append, List.getLast?_concat]
                  exact .inr ⟨_, value, fails_of_failsWith loads planned given fails ends⟩

theorem processStatus_of_plain (plain : failure.IsPlain) :
    processStatus failure.exitCode = .exited 1 := by
  rw [Failure.IsPlain] at plain
  rw [plain]
  rfl

theorem status_of_fails (fails : h.Fails i m s exchanges failure) :
    processStatus failure.exitCode ≠ .exited 0 ∧ ¬ h.Supplies i m s exchanges ∧
      (∀ n, h.StopsAtPull i m s exchanges (.exited n) →
        processStatus failure.exitCode = .exited n) ∧
      (∀ signal, h.StopsAtPull i m s exchanges (.signalled signal) →
        processStatus failure.exitCode = .exited 1) ∧
      ((∀ n, n ≠ 0 → ¬ h.StopsAtPull i m s exchanges (.exited n)) →
        processStatus failure.exitCode = .exited 1) := by
  cases fails with
  | elsewhere plain lacks apart =>
      rw [processStatus_of_plain plain]
      refine ⟨by decide, lacks, ?_, ?_, fun _ => rfl⟩
      · intro n stops
        exact absurd stops (apart _)
      · intro signal stops
        exact absurd stops (apart _)
  | exited n failed own stops =>
      have other := Status.exited_ne_success failed
      rw [own, processStatus_val]
      refine ⟨other, not_supplies_of_stopsAtPull other stops, ?_, ?_, ?_⟩
      · intro k again
        exact stopsAtPull_unique stops again
      · intro signal again
        cases stopsAtPull_unique stops again
      · intro none
        exact absurd stops (none n failed)
  | signalled signal plain stops =>
      have other := Status.signalled_ne_success signal
      rw [processStatus_of_plain plain]
      refine ⟨by decide, not_supplies_of_stopsAtPull other stops, ?_, fun _ _ => rfl, fun _ => rfl⟩
      intro n again
      cases stopsAtPull_unique stops again

/-- The status of a call that pulls images is that of success exactly if all went well, that of the
pull at which it stopped, or 1. A failure always leads to another status than success, whatever
contexts stand around it. -/
theorem call_pull_status (h : Host) (arguments : List Invocation.Argument) (i : Invocation)
    (m : Machine shell σ) (s : σ) (parsed : Invocation.parse arguments = .ok i)
    (acts : i.action = .pull) :
    let run := (h.call arguments).run m s
    let status := processStatus run.value.1
    (status = .exited 0 ↔ h.Supplies i m s run.exchanges) ∧
    (∀ n, n ≠ 0 → h.StopsAtPull i m s run.exchanges (.exited n) → status = .exited n) ∧
    (∀ signal, h.StopsAtPull i m s run.exchanges (.signalled signal) → status = .exited 1) ∧
    (¬ h.Supplies i m s run.exchanges →
      (∀ n, n ≠ 0 → ¬ h.StopsAtPull i m s run.exchanges (.exited n)) → status = .exited 1) ∧
    ∀ (contexts : List Context) (cause : Cause),
      let code := (contexts.foldr Failure.within (.of cause)).exitCode
      code ≠ 0 ∧
      (∀ reference own, own ≠ 0 → cause = .fault (.pullFailed reference (some own)) →
        code = own) ∧
      ((∀ reference own, own ≠ 0 → cause ≠ .fault (.pullFailed reference (some own))) →
        code = 1) := by
  intro run status
  obtain ⟨exchanges, -, value⟩ := call_run (h := h) (m := m) (s := s) parsed
  have wrapped : ∀ (contexts : List Context) (cause : Cause),
      (contexts.foldr Failure.within (.of cause)).exitCode ≠ 0 ∧
      (∀ reference own, own ≠ 0 → cause = .fault (.pullFailed reference (some own)) →
        (contexts.foldr Failure.within (.of cause)).exitCode = own) ∧
      ((∀ reference own, own ≠ 0 → cause ≠ .fault (.pullFailed reference (some own))) →
        (contexts.foldr Failure.within (.of cause)).exitCode = 1) := by
    intro contexts cause
    rw [Failure.exitCode_foldr_within]
    refine ⟨Failure.exitCode_ne_zero _, ?_, Failure.exitCode_other⟩
    rintro reference own failed rfl
    exact Failure.exitCode_pullFailed reference failed
  rcases h.perform_pull i m s acts with ⟨ended, supplies⟩ | ⟨failure, ended, fails⟩
  · rw [ended] at value
    rw [← exchanges] at supplies
    have success : status = .exited 0 := congrArg (fun result => processStatus result.1) value
    refine ⟨iff_of_true success supplies, ?_, ?_, ?_, wrapped⟩
    · intro n failed stops
      have lacks := not_supplies_of_stopsAtPull (Status.exited_ne_success failed) stops
      exact absurd supplies lacks
    · intro signal stops
      have lacks := not_supplies_of_stopsAtPull (Status.signalled_ne_success signal) stops
      exact absurd supplies lacks
    · intro lacks
      exact absurd supplies lacks
  · rw [ended] at value
    rw [← exchanges] at fails
    have own : status = processStatus failure.exitCode :=
      congrArg (fun result => processStatus result.1) value
    obtain ⟨failed, lacks, exited, signalled, elsewhere⟩ := status_of_fails fails
    rw [← own] at failed exited signalled elsewhere
    exact ⟨iff_of_false failed lacks, fun n _ => exited n, signalled, fun _ => elsewhere, wrapped⟩

theorem stopsAtPull_of_last (c : Command) (ending : Ending)
    (planned : ((h.loaded i m s).toOption.bind fun settings => (settings.plan h.env).toOption).any
      (fun plan => plan.images.any fun image => plan.engine.pullCommand image = c) = true)
    (last : (exchanges.getLast?.map fun x => (x.1, (x.2 : Except SystemError Ending))) =
      some (c, .ok ending)) :
    h.StopsAtPull i m s exchanges ending.status := by
  rw [Option.any_eq_true] at planned
  obtain ⟨plan, found, given⟩ := planned
  obtain ⟨settings, loads, plans⟩ := Option.bind_eq_some_iff.mp found
  obtain ⟨image, member, same⟩ := List.any_eq_true.mp given
  obtain ⟨⟨command, answer⟩, ended, parts⟩ := Option.map_eq_some_iff.mp last
  cases parts
  have command := of_decide_eq_true same
  refine ⟨settings, plan, ending, toOption_eq_some.mp loads, toOption_eq_some.mp plans, rfl,
    image, member, ?_⟩
  rw [ended, command]

/-- Engines that have every image or none, and whose pulls all end with one status. -/
def pullsEnd (present : Bool) (status : Status) : Machine shell Unit where
  answer c s := (.ok (if c.audible then ⟨status, [], []⟩
    else ⟨processStatus 0, if present then [0x78] else [], []⟩), s)

/-- Calls without arguments: where every engine has every image, where a pull ends with a status of
its own, and where it is killed. -/
theorem call_pull_status_stopped :
    let i : Invocation := ⟨none, none, .pull⟩
    let run (m : Machine shell Unit) := (emptyDesk.call []).run m ()
    let kept := pullsEnd true (processStatus 0)
    let failing := pullsEnd false (processStatus 3)
    let killed := pullsEnd false (.signalled 9)
    Invocation.parse [] = .ok i ∧
      emptyDesk.Supplies i kept () (run kept).exchanges ∧
      emptyDesk.StopsAtPull i failing () (run failing).exchanges (processStatus 3) ∧
      processStatus (run failing).value.1 = processStatus 3 ∧
      emptyDesk.StopsAtPull i killed () (run killed).exchanges (.signalled 9) ∧
      processStatus (run killed).value.1 = processStatus 1 := by
  intro i run kept failing killed
  have parsed : Invocation.parse [] = .ok i := rfl
  have zero : (run kept).value.1 = 0 := by decide +kernel
  have success : processStatus (run kept).value.1 = .exited 0 := by
    rw [zero]
    rfl
  have stopped : emptyDesk.StopsAtPull i failing () (run failing).exchanges (processStatus 3) :=
    stopsAtPull_of_last ⟨"docker", ["pull", "postgres:10.5-alpine"], true⟩
      ⟨processStatus 3, [], []⟩ (by decide +kernel) (by decide +kernel)
  have stopped' : emptyDesk.StopsAtPull i killed () (run killed).exchanges (.signalled 9) :=
    stopsAtPull_of_last ⟨"docker", ["pull", "postgres:10.5-alpine"], true⟩
      ⟨.signalled 9, [], []⟩ (by decide +kernel) (by decide +kernel)
  obtain ⟨supplied, -⟩ := call_pull_status emptyDesk [] i kept () parsed rfl
  obtain ⟨-, exited, -⟩ := call_pull_status emptyDesk [] i failing () parsed rfl
  obtain ⟨-, -, signalled, -⟩ := call_pull_status emptyDesk [] i killed () parsed rfl
  exact ⟨parsed, supplied.mp success, stopped, exited _ (by decide) stopped, stopped',
    signalled 9 stopped'⟩

end Host

end ImageStock
