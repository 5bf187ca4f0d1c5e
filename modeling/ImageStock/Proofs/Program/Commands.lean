import ImageStock.Proofs.Inventory
import ImageStock.Proofs.Program.Prepare

/-! The commands of a call. Main statement: nothing is started before the settings are loaded and
the images are known; then the engine is started once to see that it can be; and after that there
are only the queries, and for a pull the pulls, of the images in their order. -/

namespace ImageStock

variable {σ α : Type} {m : Machine shell σ} {s : σ}

theorem takeInventory_aside (choices : List Choice) :
    (takeInventory choices).run.Within Utterance.IsAside fun _ => True := by
  induction choices with
  | nil => exact Attempt.within_pure _
  | cons choice choices ih =>
      refine Attempt.within_bind (d := ContainerRuntime.query choice.image) ?_ ?_
      · exact ⟨trivial, fun _ => trivial⟩
      · intro present
        exact Attempt.within_bind ih fun _ => Attempt.within_pure _

theorem Engine.answer_aside (e : Engine) (call : Call) :
    (e.answer call).Within Utterance.IsAside fun _ => True := by
  have executed : ∀ c, (execute c).Within Utterance.IsAside fun _ => True := by
    intro c
    exact ⟨trivial, trivial, fun _ => trivial⟩
  cases call with
  | query image =>
      apply Dialogue.within_bind (executed _)
      intro answer
      cases answer with
      | error error => trivial
      | ok ending =>
          simp only
          split
          · trivial
          · exact ⟨trivial, trivial⟩
  | pull image =>
      apply Dialogue.within_bind (executed _)
      intro answer
      cases answer with
      | error error => trivial
      | ok ending =>
          simp only
          split
          · trivial
          · trivial

namespace Plan

variable {p : Plan}

theorem serve_printed {d : Attempt runtime Fault α}
    (aside : d.run.Within Utterance.IsAside fun _ => True) :
    ((p.serve d).run.run m s).printed = [] := by
  have through := Dialogue.within_through aside fun call _ => p.engine.answer_aside call
  have within : (p.serve d).run.Within Utterance.IsAside fun _ => True :=
    Attempt.within_mapError Failure.ofFault through
  exact Run.printed_eq_nil (Dialogue.run_within m within s).1

theorem serve_silent (p : Plan) (m : Machine shell σ) (d : Attempt runtime Fault α) (s : σ) :
    ((p.serve d).run.run m s).silent = (((p.engine.serve d).run.run m s).exchanges,
      ((p.engine.serve d).run.run m s).value.mapError Failure.ofFault,
      ((p.engine.serve d).run.run m s).state) :=
  Attempt.silent_mapError m Failure.ofFault rfl

/-- What a list of images comes to: a table after a query for each image, or no table after a query
that could not be started. -/
def Lists (p : Plan) (r : Run shell σ (Except Failure Unit)) : Prop :=
  ∃ endings : List (Choice × Ending),
    (endings.map Prod.fst = p.choices ∧
      r.exchanges = endings.map (Inventory.executed p.engine) ∧ r.value = .ok () ∧
      r.printed =
        [Inventory.render (endings.map fun entry => (entry.1, entry.2.showsImage))]) ∨
    ∃ choice error, endings.map Prod.fst ++ [choice] <+: p.choices ∧
      r.exchanges = endings.map (Inventory.executed p.engine) ++
        [⟨p.engine.queryCommand choice.image, .error error⟩] ∧
      r.value = .error (.ofFault (.notStarted s!"{p.engine.program} images" error)) ∧
      r.printed = []

theorem lists (p : Plan) (m : Machine shell σ) (s : σ) : p.Lists (p.list.run.run m s) := by
  obtain ⟨exchanges, value, -⟩ := Run.silent_eq (p.serve_silent m (takeInventory p.choices) s)
  have printed := serve_printed (p := p) (m := m) (s := s) (takeInventory_aside p.choices)
  obtain ⟨endings, ⟨whole, commands, result⟩ | ⟨choice, error, part, commands, result⟩⟩ :=
    p.engine.serve_takeInventory m p.choices s
  · rw [result] at value
    refine ⟨endings, .inl ⟨whole, ?_, ?_, ?_⟩⟩
    · rw [list, Attempt.run_bind_ok m value, Run.exchanges_following, ← commands, ← exchanges]
      exact List.append_nil _
    · rw [list, Attempt.run_bind_ok m value]
      rfl
    · rw [list, Attempt.run_bind_ok m value, Run.printed_following, printed]
      rfl
  · rw [result] at value
    refine ⟨endings, .inr ⟨choice, error, part, ?_, ?_, ?_⟩⟩
    · rw [list, Attempt.run_bind_error m value, ← commands, ← exchanges]
      rfl
    · rw [list, Attempt.run_bind_error m value]
    · rw [list, Attempt.run_bind_error m value]
      exact printed

theorem pull_silent (p : Plan) (m : Machine shell σ) (s : σ) :
    (p.pull.run.run m s).silent =
      (((p.engine.serve (provide p.engine.program p.images)).run.run m s).exchanges,
        ((p.engine.serve (provide p.engine.program p.images)).run.run m s).value.mapError
          Failure.ofFault,
        ((p.engine.serve (provide p.engine.program p.images)).run.run m s).state) := by
  rw [← List.nil_append (Run.exchanges _)]
  exact Attempt.silent_bind_ok m (Attempt.silent_forM_notice m _ _ s) (p.serve_silent m _ s)

def Pulls (p : Plan) (commands : List Command) : Prop :=
  ∃ served : List (Image × Bool), served.map Prod.fst <+: p.images ∧
    commands = served.flatMap fun entry => p.engine.commandsOf entry.1 entry.2

theorem pulls (p : Plan) (m : Machine shell σ) (s : σ) :
    p.Pulls ((p.pull.run.run m s).exchanges.map Sigma.fst) := by
  obtain ⟨exchanges, -, -⟩ := Run.silent_eq (p.pull_silent m s)
  rw [exchanges]
  exact p.engine.commands_of_serve_provide m p.engine.program p.images s

end Plan

namespace Engine

variable {e : Engine} {image : Image}

theorem versionCommand_ne_queryCommand : e.versionCommand ≠ e.queryCommand image := by
  intro same
  have arguments := congrArg Command.arguments same
  simp [versionCommand, queryCommand, command] at arguments

theorem versionCommand_ne_pullCommand : e.versionCommand ≠ e.pullCommand image := by
  intro same
  have arguments := congrArg Command.arguments same
  simp [versionCommand, pullCommand, command] at arguments

end Engine

namespace Plan

variable {p : Plan}

theorem versionCommand_notMem_of_pulls {commands : List Command} (pulls : p.Pulls commands) :
    p.engine.versionCommand ∉ commands := by
  obtain ⟨served, -, rfl⟩ := pulls
  intro member
  obtain ⟨entry, -, inside⟩ := List.mem_flatMap.mp member
  rcases List.mem_cons.mp inside with query | pull
  · exact Engine.versionCommand_ne_queryCommand query
  · split at pull
    · exact Engine.versionCommand_ne_pullCommand (List.mem_singleton.mp pull)
    · cases pull

theorem versionCommand_notMem_of_lists {r : Run shell σ (Except Failure Unit)}
    (lists : p.Lists r) : p.engine.versionCommand ∉ r.exchanges.map Sigma.fst := by
  have queries : ∀ endings : List (Choice × Ending), p.engine.versionCommand ∉
      (endings.map (Inventory.executed p.engine)).map Sigma.fst := by
    intro endings member
    rw [List.map_map] at member
    obtain ⟨entry, -, same⟩ := List.mem_map.mp member
    exact Engine.versionCommand_ne_queryCommand same.symm
  obtain ⟨endings, ⟨-, exchanges, -⟩ | ⟨choice, error, -, exchanges, -⟩⟩ := lists
  · rw [exchanges]
    exact queries endings
  · rw [exchanges, List.map_append, List.mem_append, not_or]
    refine ⟨queries endings, ?_⟩
    intro member
    exact Engine.versionCommand_ne_queryCommand (List.mem_singleton.mp member)

end Plan

namespace Host

theorem perform_init {h : Host} {i : Invocation} {force : Bool} (acts : i.action = .init force) :
    (((perform i).run.run h).run m s).exchanges = [] := by
  have within : ((perform i).run.run h).Within (fun _ => True) fun _ => False := by
    rw [perform_on, acts]
    apply Dialogue.within_bind (h.initialise_within h.here force)
    rintro ⟨failure | written, after⟩
    · trivial
    · trivial
  exact Run.exchanges_eq_nil (Dialogue.run_within m within s).2

theorem perform_task {h : Host} {i : Invocation} {task : Plan → Attempt shell Failure α}
    (acts : (perform i).run.run h = (Work.ofAttempt (h.carryOut i task)).run.run h) :
    let run := ((perform i).run.run h).run m s
    let alone := (h.carryOut i task).run.run m s
    run.exchanges = alone.exchanges ∧ run.printed = alone.printed ∧
      run.value = (alone.value, h) := by
  rw [acts, Work.run_ofAttempt]
  exact ⟨rfl, rfl, rfl⟩

theorem perform_outcome {h : Host} {i : Invocation} {task : Plan → Attempt shell Failure α}
    (acts : (perform i).run.run h = (Work.ofAttempt (h.carryOut i task)).run.run h) :
    let run := ((perform i).run.run h).run m s
    (∀ failure, h.loaded i m s = .error failure →
      run.exchanges = [] ∧ run.value = (.error failure, h)) ∧
    ∀ settings, h.loaded i m s = .ok settings →
      (∀ failure, settings.catalog.resolve h.env = .error failure →
        run.exchanges = [] ∧ run.value = (.error failure, h)) ∧
      ∀ choices, settings.catalog.resolve h.env = .ok choices →
        ∃ e, settings.engine = .ok e ∧
          (∀ error, (m.answer e.versionCommand s).1 = .error error →
            run.exchanges = [⟨e.versionCommand, .error error⟩] ∧ run.printed = [] ∧
            run.value = (.error (.ofFault (.unavailable e.program error)), h)) ∧
          ∀ ending, (m.answer e.versionCommand s).1 = .ok ending →
            let alone := (task ⟨choices, e⟩).run.run m (m.answer e.versionCommand s).2
            run.exchanges = ⟨e.versionCommand, .ok ending⟩ :: alone.exchanges ∧
            run.printed = alone.printed ∧ run.value = (alone.value.map fun _ => (), h) := by
  intro run
  obtain ⟨same, shown, result⟩ := perform_task (m := m) (s := s) acts
  simp only [run, same, shown, result, Prod.mk.injEq, and_true]
  refine ⟨fun failure => carryOut_unloaded, ?_⟩
  intro settings loads
  constructor
  · intro failure failed
    exact carryOut_unplanned loads (Settings.plan_of_resolve_eq_error failed)
  · intro choices resolved
    obtain ⟨e, engine⟩ := exists_engine_of_loadSettings loads
    have planned := Settings.plan_of_resolve_eq_ok resolved engine
    refine ⟨e, engine, ?_, ?_⟩
    · intro error refused
      exact carryOut_refused loads planned refused
    · intro ending started
      exact carryOut_started loads planned started

def conclude : Except Failure Unit × Host → Dialogue shell (Int × Host)
  | (.ok _, after) => .done (0, after)
  | (.error failure, after) => .tell (.notice (.failed failure)) (.done (failure.exitCode, after))

/-- What stands around an action is said beside it, and nothing more is asked. -/
theorem call_run {h : Host} {arguments : List Invocation.Argument} {i : Invocation}
    (parsed : Invocation.parse arguments = .ok i) :
    let alone := ((perform i).run.run h).run m s
    ((h.call arguments).run m s).exchanges = alone.exchanges ∧
      ((h.call arguments).run m s).printed = alone.printed ∧
      ((h.call arguments).run m s).value = match alone.value with
        | (.ok _, after) => (0, after)
        | (.error failure, after) => (failure.exitCode, after) := by
  intro alone
  have split : h.call arguments =
      Dialogue.bind (h.logFilter.2.forM fun remark => Dialogue.warn (remark ++ "\n"))
        fun _ => ((perform i).run.run h).bind conclude := by
    rw [call, parsed]
    rfl
  have remarks : (h.logFilter.2.forM fun remark => Dialogue.warn (remark ++ "\n") :
      Dialogue shell PUnit).Within Utterance.IsAside fun _ => False :=
    Dialogue.within_forM fun _ _ => ⟨trivial, trivial⟩
  have concluded : ∀ result, (conclude result).Within Utterance.IsAside fun _ => False := by
    rintro ⟨failure | _, after⟩
    · exact ⟨trivial, trivial⟩
    · trivial
  obtain ⟨exchanges, printed, value⟩ := Dialogue.run_aside_bind m remarks
    (fun _ => ((perform i).run.run h).bind conclude) s
  obtain ⟨same, shown, result⟩ := Dialogue.run_bind_aside m ((perform i).run.run h) concluded s
  rw [split]
  refine ⟨exchanges.trans same, printed.trans shown, (value.trans result).trans ?_⟩
  rcases alone.value with ⟨failure | _, after⟩
  · rfl
  · rfl

/-- Which commands a call starts, and when. -/
theorem perform_commands (h : Host) (i : Invocation) (m : Machine shell σ) (s : σ) :
    let run := ((perform i).run.run h).run m s
    (∀ arguments, Invocation.parse arguments = .ok i →
      ((h.call arguments).run m s).exchanges = run.exchanges ∧
      ((h.call arguments).run m s).printed = run.printed) ∧
    (∀ force, i.action = .init force → run.exchanges = []) ∧
    (i.action = .pull ∨ i.action = .list →
      (∀ failure, h.loaded i m s = .error failure →
        run.exchanges = [] ∧ run.value = (.error failure, h)) ∧
      ∀ settings, h.loaded i m s = .ok settings →
        (∀ failure, settings.catalog.resolve h.env = .error failure →
          run.exchanges = [] ∧ run.value = (.error failure, h)) ∧
        ∀ choices, settings.catalog.resolve h.env = .ok choices →
          ∃ e, settings.engine = .ok e ∧
            (∀ error, (m.answer e.versionCommand s).1 = .error error →
              run.exchanges = [⟨e.versionCommand, .error error⟩] ∧ run.printed = [] ∧
              run.value = (.error (.ofFault (.unavailable e.program error)), h)) ∧
            ∀ ending, (m.answer e.versionCommand s).1 = .ok ending →
              let plan : Plan := ⟨choices, e⟩
              let next := (m.answer e.versionCommand s).2
              ∃ rest, run.exchanges = ⟨e.versionCommand, .ok ending⟩ :: rest ∧
                e.versionCommand ∉ rest.map Sigma.fst ∧
                (i.action = .list →
                  let alone := plan.list.run.run m next
                  rest = alone.exchanges ∧ run.printed = alone.printed ∧
                  run.value = (alone.value.map fun _ => (), h) ∧ plan.Lists alone) ∧
                (i.action = .pull →
                  let alone := plan.pull.run.run m next
                  rest = alone.exchanges ∧ run.value = (alone.value.map fun _ => (), h) ∧
                  plan.Pulls (rest.map Sigma.fst))) := by
  intro run
  refine ⟨?_, fun force acts => perform_init acts, ?_⟩
  · intro arguments parsed
    obtain ⟨exchanges, printed, -⟩ := call_run (h := h) (m := m) (s := s) parsed
    exact ⟨exchanges, printed⟩
  rintro (acts | acts)
  · have task : (perform i).run.run h = (Work.ofAttempt (h.carryOut i Plan.pull)).run.run h := by
      rw [perform_on, acts]
    obtain ⟨unloaded, loads⟩ := perform_outcome (m := m) (s := s) task
    refine ⟨unloaded, ?_⟩
    intro settings loaded
    obtain ⟨unresolved, resolves⟩ := loads settings loaded
    refine ⟨unresolved, ?_⟩
    intro choices resolved
    obtain ⟨e, engine, refused, started⟩ := resolves choices resolved
    refine ⟨e, engine, refused, ?_⟩
    intro ending ended plan next
    obtain ⟨exchanges, -, value⟩ := started ending ended
    have pulls := plan.pulls m next
    refine ⟨_, exchanges, Plan.versionCommand_notMem_of_pulls pulls, ?_, ?_⟩
    · intro list
      rw [acts] at list
      cases list
    · intro _ alone
      exact ⟨rfl, value, pulls⟩
  · have task : (perform i).run.run h = (Work.ofAttempt (h.carryOut i Plan.list)).run.run h := by
      rw [perform_on, acts]
    obtain ⟨unloaded, loads⟩ := perform_outcome (m := m) (s := s) task
    refine ⟨unloaded, ?_⟩
    intro settings loaded
    obtain ⟨unresolved, resolves⟩ := loads settings loaded
    refine ⟨unresolved, ?_⟩
    intro choices resolved
    obtain ⟨e, engine, refused, started⟩ := resolves choices resolved
    refine ⟨e, engine, refused, ?_⟩
    intro ending ended plan next
    obtain ⟨exchanges, printed, value⟩ := started ending ended
    have lists := plan.lists m next
    refine ⟨_, exchanges, Plan.versionCommand_notMem_of_lists lists, ?_, ?_⟩
    · intro _ alone
      exact ⟨rfl, printed, value, lists⟩
    · intro pull
      rw [acts] at pull
      cases pull

end Host

end ImageStock
