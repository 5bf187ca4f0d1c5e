import ImageStock.Program
import ImageStock.Proofs.Engine
import ImageStock.Proofs.Environment
import ImageStock.Proofs.Result
import ImageStock.Proofs.Work

/-! What a call does before its first command. Main statements: to load the settings, and to make a
project file, nothing is started; settings that are loaded always have an engine; and a plan is
carried out only once its engine has been started. -/

namespace ImageStock

variable {I : Interface} {asks : I.Request → Prop}

theorem ProjectFile.load_aside (path : String) (bytes : Except Failure (List UInt8)) :
    (ProjectFile.load (I := I) path bytes).run.Within Utterance.IsAside asks := by
  apply Attempt.within_bind (Attempt.within_notice trivial)
  intro _
  apply Attempt.within_bind (Attempt.within_ofExcept _)
  intro document
  apply Attempt.within_bind (Attempt.within_ofExcept _)
  rintro ⟨project, unknown⟩
  apply Attempt.within_bind (Attempt.within_forM fun _ _ => Attempt.within_notice trivial)
  intro _
  have noted : ∀ n : Notice, (Attempt.notice n >>= fun _ => pure project :
      Attempt I Failure ProjectFile).run.Within Utterance.IsAside asks := by
    intro n
    exact Attempt.within_bind (Attempt.within_notice trivial) fun _ => Attempt.within_pure project
  split
  · exact noted _
  · exact Attempt.within_pure project
  · exact Attempt.within_bind (Attempt.within_ofExcept _) fun _ => Attempt.within_pure project

namespace Host

theorem findProjectFile_aside (h : Host) (dir : String) :
    (h.findProjectFile (I := I) dir).Within Utterance.IsAside asks := by
  simp only [findProjectFile]
  split
  · split
    · exact ⟨trivial, trivial⟩
    · trivial
  · split
    · trivial
    · trivial

theorem loadProject_aside (h : Host) (explicit : Option String) (dir : String) :
    (h.loadProject (I := I) explicit dir).run.Within Utterance.IsAside asks := by
  have loaded : ∀ path, (ProjectFile.load path (h.read path) >>= fun project =>
      pure (some project) : Attempt I Failure (Option ProjectFile)).run.Within
        Utterance.IsAside asks := by
    intro path
    exact Attempt.within_bind (ProjectFile.load_aside _ _) fun _ => Attempt.within_pure _
  cases explicit with
  | some path =>
      simp only [loadProject]
      split
      · exact loaded path
      · exact Attempt.within_ofExcept _
  | none =>
      refine Attempt.within_bind ?_ ?_
      · exact Dialogue.within_bind (h.findProjectFile_aside dir) fun _ => trivial
      · intro found
        cases found with
        | none => exact Attempt.within_pure _
        | some path => exact loaded path

theorem loadSettings_aside (h : Host) (config flag : Option String) :
    (h.loadSettings (I := I) config flag).run.Within Utterance.IsAside asks := by
  apply Attempt.within_bind (h.loadProject_aside config h.here)
  intro project
  have merged : ∀ user : UserFile,
      (Settings.mergeAloud (I := I) flag (h.env.nonempty? "CONTAINER_CLI") project user).run.Within
        Utterance.IsAside asks := by
    intro user
    apply Attempt.within_bind (Attempt.within_ofExcept _)
    intro settings
    exact Attempt.within_bind (Attempt.within_notice trivial) fun _ => Attempt.within_pure _
  cases h.loadUser with
  | ok user => exact merged user
  | error failure =>
      exact Attempt.within_bind (Attempt.within_notice trivial) fun _ => merged {}

end Host

namespace Settings

theorem allBlank_chooseCommandLine (layers : List (Option String)) :
    Text.allBlank (chooseCommandLine layers) = false := by
  rw [chooseCommandLine]
  cases found : layers.reduceOption.find? fun line => ! Text.allBlank line with
  | none => decide
  | some line =>
      have chosen := List.find?_some found
      rw [Bool.not_eq_true'] at chosen
      exact chosen

theorem engine_of_written {settings : Settings}
    (written : Text.allBlank settings.commandLine = false) :
    ∃ engine, Engine.ofCommandLine? settings.commandLine = some engine ∧
      settings.engine = .ok engine ∧ engine.program = Text.firstWord settings.commandLine := by
  have parsed : Engine.ofCommandLine? settings.commandLine =
      some ⟨Text.firstWord settings.commandLine,
        Text.words (Text.afterWord settings.commandLine)⟩ := by
    rw [Engine.ofCommandLine?, Text.words_eq_cons written]
  refine ⟨_, parsed, ?_, rfl⟩
  rw [engine, parsed]

theorem exists_engine {s : Settings} (written : Text.allBlank s.commandLine = false) :
    ∃ e, s.engine = .ok e := by
  obtain ⟨e, -, given, -⟩ := engine_of_written written
  exact ⟨e, given⟩

theorem commandLine_of_merge {flag env : Option String} {project : Option ProjectFile}
    {user : UserFile} {s : Settings} (merged : merge flag env project user = .ok s) :
    s.commandLine = chooseCommandLine
      [flag, env, (project.getD {}).runtime.bind (·.commandLine), user.commandLine] := by
  rw [merge_eq] at merged
  cases brought : catalogOf project with
  | error failure =>
      rw [brought] at merged
      cases merged
  | ok catalog =>
      rw [brought] at merged
      cases merged
      rfl

theorem exists_engine_of_merge {flag env : Option String} {project : Option ProjectFile}
    {user : UserFile} {s : Settings} (merged : merge flag env project user = .ok s) :
    ∃ e, s.engine = .ok e := by
  apply exists_engine
  rw [commandLine_of_merge merged]
  exact allBlank_chooseCommandLine _

end Settings

theorem Host.exists_engine_of_loadSettings {h : Host} {config flag : Option String} {σ : Type}
    {m : Machine I σ} {s : σ} {settings : Settings}
    (loaded : ((h.loadSettings config flag).run.run m s).value = .ok settings) :
    ∃ e, settings.engine = .ok e := by
  obtain ⟨project, -, rest⟩ := Attempt.value_bind_eq_ok loaded
  have merged : ∀ (user : UserFile) (t : σ),
      ((Settings.mergeAloud flag (h.env.nonempty? "CONTAINER_CLI") project user).run.run m
        t).value = .ok settings → ∃ e, settings.engine = .ok e := by
    intro user t ended
    obtain ⟨other, merged, later⟩ := Attempt.value_bind_eq_ok ended
    obtain ⟨-, -, same⟩ := Attempt.value_bind_eq_ok later
    cases same
    exact Settings.exists_engine_of_merge merged
  cases user : h.loadUser with
  | ok user =>
      simp only [user] at rest
      exact merged _ _ rest
  | error failure =>
      simp only [user] at rest
      obtain ⟨-, -, rest⟩ := Attempt.value_bind_eq_ok rest
      exact merged _ _ rest

namespace Settings

variable {settings : Settings} {env : Lookup}

theorem plan_of_resolve_eq_error {failure : Failure}
    (failed : settings.catalog.resolve env = .error failure) :
    settings.plan env = .error failure := by
  rw [plan, failed]
  rfl

theorem plan_of_resolve_eq_ok {choices : List Choice} {e : Engine}
    (resolved : settings.catalog.resolve env = .ok choices) (engine : settings.engine = .ok e) :
    settings.plan env = .ok ⟨choices, e⟩ := by
  rw [plan, resolved, ok_bind, engine]
  rfl

variable {σ : Type} {m : Machine shell σ} {s : σ} {p : Plan}

theorem prepare_unplanned {failure : Failure} (failed : settings.plan env = .error failure) :
    (settings.prepare env).run.run m s = ⟨[], .error failure, s⟩ := by
  rw [prepare, failed]
  rfl

/-- Nothing of how the engine ended is looked at. -/
theorem prepare_planned (planned : settings.plan env = .ok p) :
    (settings.prepare env).run.run m s =
      ⟨[.told (.notice (.executing p.engine.versionCommand)),
          .asked p.engine.versionCommand (m.answer p.engine.versionCommand s).1],
        match (m.answer p.engine.versionCommand s).1 with
        | .ok _ => .ok p
        | .error error => .error (.ofFault (.unavailable p.engine.program error)),
        (m.answer p.engine.versionCommand s).2⟩ := by
  have started : (settings.prepare env).run =
      .tell (.notice (.executing p.engine.versionCommand)) (.ask p.engine.versionCommand fun
        | .ok _ => .done (.ok p)
        | .error error => .done (.error (.ofFault (.unavailable p.engine.program error)))) := by
    rw [prepare, planned]
    show Dialogue.tell _ (Dialogue.ask _ _) = Dialogue.tell _ (Dialogue.ask _ _)
    congr 2
    funext answer
    cases answer <;> rfl
  rw [started]
  simp only [Dialogue.run]
  cases (m.answer p.engine.versionCommand s).1 <;> rfl

/-- Once the engine has been started, what is done with the plan stands alone. -/
theorem prepare_bind_started {α : Type} {ending : Ending} (task : Plan → Attempt shell Failure α)
    (planned : settings.plan env = .ok p)
    (started : (m.answer p.engine.versionCommand s).1 = .ok ending) :
    let run := (settings.prepare env >>= task).run.run m s
    let alone := (task p).run.run m (m.answer p.engine.versionCommand s).2
    run.exchanges = ⟨p.engine.versionCommand, .ok ending⟩ :: alone.exchanges ∧
      run.printed = alone.printed ∧ run.value = alone.value ∧ run.state = alone.state := by
  intro run alone
  have prepared := prepare_planned (m := m) (s := s) planned
  rw [started] at prepared
  have ended : ((settings.prepare env).run.run m s).value = .ok p := by rw [prepared]
  have split : run = _ := Attempt.run_bind_ok m ended
  rw [split, Run.exchanges_following, Run.printed_following, prepared]
  exact ⟨rfl, rfl, rfl, rfl⟩

end Settings

namespace Host

variable {σ α : Type} {h : Host} {i : Invocation} {task : Plan → Attempt shell Failure α}
  {m : Machine shell σ} {s : σ} {settings : Settings} {plan : Plan}

def carryOut (h : Host) (i : Invocation) (task : Plan → Attempt shell Failure α) :
    Attempt shell Failure Unit := do
  let settings ← h.loadSettings i.config i.containerCommand
  let _ ← settings.prepare h.env >>= task
  return

/-- What a call asks for: only to make a project file can change the host. -/
theorem perform_on (h : Host) (i : Invocation) :
    (perform i).run.run h = (match i.action with
      | .init force => (initialise h.here force >>= fun _ => pure () : Work shell Unit)
      | .pull => Work.ofAttempt (h.carryOut i Plan.pull)
      | .list => Work.ofAttempt (h.carryOut i Plan.list)).run.run h := rfl

def loaded (h : Host) (i : Invocation) (m : Machine shell σ) (s : σ) : Except Failure Settings :=
  ((h.loadSettings i.config i.containerCommand).run.run m s).value

theorem carryOut_unloaded {failure : Failure} (failed : h.loaded i m s = .error failure) :
    ((h.carryOut i task).run.run m s).exchanges = [] ∧
      ((h.carryOut i task).run.run m s).value = .error failure := by
  obtain ⟨nothing, -, -⟩ :=
    Dialogue.run_aside m (h.loadSettings_aside i.config i.containerCommand) s
  rw [carryOut, Attempt.run_bind_error m failed]
  exact ⟨nothing, rfl⟩

theorem carryOut_loaded (task : Plan → Attempt shell Failure α)
    (loads : h.loaded i m s = .ok settings) :
    ((h.carryOut i task).run.run m s).exchanges =
        ((settings.prepare h.env >>= task).run.run m s).exchanges ∧
      ((h.carryOut i task).run.run m s).printed =
        ((settings.prepare h.env >>= task).run.run m s).printed ∧
      ((h.carryOut i task).run.run m s).value =
        ((settings.prepare h.env >>= task).run.run m s).value.map fun _ => () := by
  obtain ⟨exchanges, printed, value⟩ := Attempt.run_aside_bind m
    (h.loadSettings_aside i.config i.containerCommand) loads
    fun settings => settings.prepare h.env >>= task >>= fun _ => pure ()
  obtain ⟨same, shown, result⟩ :=
    Attempt.run_bind_pure m (settings.prepare h.env >>= task) (fun _ => ()) s
  exact ⟨exchanges.trans same, printed.trans shown, value.trans result⟩

theorem carryOut_unplanned {failure : Failure} (loads : h.loaded i m s = .ok settings)
    (failed : settings.plan h.env = .error failure) :
    ((h.carryOut i task).run.run m s).exchanges = [] ∧
      ((h.carryOut i task).run.run m s).value = .error failure := by
  obtain ⟨exchanges, -, value⟩ := carryOut_loaded task loads
  have prepared := Settings.prepare_unplanned (m := m) (s := s) failed
  have ended : ((settings.prepare h.env).run.run m s).value = .error failure := by rw [prepared]
  rw [exchanges, value, Attempt.run_bind_error m ended, prepared]
  exact ⟨rfl, rfl⟩

theorem carryOut_refused {error : SystemError} (loads : h.loaded i m s = .ok settings)
    (planned : settings.plan h.env = .ok plan)
    (refused : (m.answer plan.engine.versionCommand s).1 = .error error) :
    ((h.carryOut i task).run.run m s).exchanges =
        [⟨plan.engine.versionCommand, .error error⟩] ∧
      ((h.carryOut i task).run.run m s).printed = [] ∧
      ((h.carryOut i task).run.run m s).value =
        .error (.ofFault (.unavailable plan.engine.program error)) := by
  obtain ⟨exchanges, printed, value⟩ := carryOut_loaded task loads
  have prepared := Settings.prepare_planned (m := m) (s := s) planned
  rw [refused] at prepared
  have ended : ((settings.prepare h.env).run.run m s).value =
      .error (.ofFault (.unavailable plan.engine.program error)) := by rw [prepared]
  rw [exchanges, printed, value, Attempt.run_bind_error m ended, prepared]
  exact ⟨rfl, rfl, rfl⟩

theorem carryOut_started {ending : Ending} (loads : h.loaded i m s = .ok settings)
    (planned : settings.plan h.env = .ok plan)
    (started : (m.answer plan.engine.versionCommand s).1 = .ok ending) :
    let alone := (task plan).run.run m (m.answer plan.engine.versionCommand s).2
    ((h.carryOut i task).run.run m s).exchanges =
        ⟨plan.engine.versionCommand, .ok ending⟩ :: alone.exchanges ∧
      ((h.carryOut i task).run.run m s).printed = alone.printed ∧
      ((h.carryOut i task).run.run m s).value = alone.value.map fun _ => () := by
  obtain ⟨exchanges, printed, value⟩ := carryOut_loaded task loads
  obtain ⟨asked, shown, result, -⟩ := Settings.prepare_bind_started task planned started
  rw [exchanges, printed, value, asked, shown, result]
  exact ⟨rfl, rfl, rfl⟩

end Host

end ImageStock
