import Mathlib.Logic.Function.Iterate
import ImageStock.Proofs.Program.Commands
import ImageStock.Proofs.Provision.Store
import ImageStock.Proofs.Text.Grid

/-! Inventories and runs on a runtime that keeps a store. Main statement: what an inventory marks as
missing is what a run from the same state pulls, each image once, and the table that is printed says
so; inventories leave no trace in the run where queries leave none, and after it nothing is missing.
-/

namespace ImageStock

variable {σ : Type}

namespace Inventory

def missing (inventory : List (Choice × Bool)) : List Image :=
  (inventory.filter fun entry => !entry.2).map fun entry => entry.1.image

theorem missing_map (choices : List Choice) (holds : Image → Bool) :
    missing (choices.map fun choice => (choice, holds choice.image)) =
      (choices.map (·.image)).filter fun image => !holds image := by
  rw [missing, List.filter_map, List.map_map, List.filter_map]
  rfl

/-- The text for rows of a name, a reference and a mark. -/
def shown (rows : List (String × String × String)) : String :=
  if rows = [] then "No images configured.\n"
  else String.ofList
    (Text.Grid.draw (Text.Grid.triple ("NAME", "IMAGE", "STATUS")) (rows.map Text.Grid.triple))

def mark (present : Bool) : String := if present then "present" else "missing"

def rows (choices : List Choice) (present : Image → Bool) : List (String × String × String) :=
  choices.map fun choice => (choice.name, choice.image.reference, mark (present choice.image))

theorem render_eq_shown (choices : List Choice) (present : Image → Bool) :
    render (choices.map fun choice => (choice, present choice.image)) =
      shown (rows choices present) := by
  cases choices with
  | nil => rfl
  | cons choice choices =>
      rw [shown, if_neg (by simp [rows])]
      simp only [render, rows, List.map_cons, List.map_map]
      rfl

theorem isMark_mark (present : Bool) : Text.Grid.IsMark (mark present) := by
  cases present with
  | true => exact ⟨by decide, List.all_eq_true.mp (by decide)⟩
  | false => exact ⟨by decide, List.all_eq_true.mp (by decide)⟩

theorem lastColumn_shown {choices : List Choice} (given : choices ≠ []) (present : Image → Bool) :
    Text.Grid.lastColumn (shown (rows choices present)).toList =
      "STATUS".toList :: choices.map fun choice => (mark (present choice.image)).toList := by
  have title : Text.Grid.IsMark "STATUS" := ⟨by decide, List.all_eq_true.mp (by decide)⟩
  have marks : ∀ row ∈ rows choices present, Text.Grid.IsMark row.2.2 := by
    intro row member
    obtain ⟨choice, -, rfl⟩ := List.mem_map.mp member
    exact isMark_mark _
  rw [shown, if_neg (by simp [rows, given]), String.toList_ofList,
    Text.Grid.lastColumn_draw title marks, rows, List.map_map]
  rfl

def stateAfter (m : Machine runtime σ) (choices : List Choice) (n : Nat) (s : σ) : σ :=
  (fun t => ((takeInventory choices).run.run m t).state)^[n] s

end Inventory

namespace Machine.KeepsStore

variable {m : Machine runtime σ} {asked : Image → Prop} {holds : σ → Image → Bool} {s : σ}
  {choices : List Choice}

theorem takeInventory_run (keeps : m.KeepsStore asked holds s)
    (given : ∀ choice ∈ choices, asked choice.image) :
    let run := (takeInventory choices).run.run m s
    run.value = .ok (choices.map fun choice => (choice, holds s choice.image)) ∧
      About asked run.requests ∧ (m.QueriesLeaveNoTrace asked s → m.Alike run.state s) := by
  intro run
  obtain ⟨t, alike, silent⟩ := keeps.takeInventory_silent given
  obtain ⟨exchanges, value, rfl⟩ := Run.silent_eq silent
  refine ⟨value, ?_, alike⟩
  intro call member
  rw [Run.requests_eq_map_exchanges, exchanges, List.map_map, List.map_map] at member
  obtain ⟨choice, inside, rfl⟩ := List.mem_map.mp member
  exact given choice inside

theorem alike_stateAfter (keeps : m.KeepsStore asked holds s)
    (given : ∀ choice ∈ choices, asked choice.image) (quiet : m.QueriesLeaveNoTrace asked s)
    (n : Nat) :
    m.KeepsStore asked holds (Inventory.stateAfter m choices n s) ∧
      m.QueriesLeaveNoTrace asked (Inventory.stateAfter m choices n s) ∧
      m.Alike (Inventory.stateAfter m choices n s) s := by
  induction n with
  | zero => exact ⟨keeps, quiet, .refl m s⟩
  | succ n ih =>
      obtain ⟨before, silently, alike⟩ := ih
      obtain ⟨-, about, unchanged⟩ := before.takeInventory_run given
      rw [Inventory.stateAfter, Function.iterate_succ_apply']
      refine ⟨before.run about, ?_, (unchanged silently).trans alike⟩
      rw [Dialogue.state_eq_after, ← Run.requests_eq_map_exchanges]
      exact silently.after about

end Machine.KeepsStore

namespace Plan

variable {p : Plan} {m : Machine shell σ} {s : σ}

theorem list_of_taken {inventory : List (Choice × Bool)}
    (taken : ((takeInventory p.choices).run.run (p.engine.on m) s).value = .ok inventory) :
    (p.list.run.run m s).value = .ok () ∧
      (p.list.run.run m s).printed = [Inventory.render inventory] := by
  obtain ⟨-, served, -⟩ := Run.silent_eq (p.serve_silent m (takeInventory p.choices) s)
  have unprinted := serve_printed (p := p) (m := m) (s := s) (takeInventory_aside p.choices)
  rw [(p.engine.serve_run m (takeInventory p.choices) s).1, taken] at served
  have split : p.list.run.run m s = _ := Attempt.run_bind_ok m served
  rw [split, Run.printed_following, unprinted]
  exact ⟨rfl, rfl⟩

theorem pull_run (p : Plan) (m : Machine shell σ) (s : σ) :
    let direct := (provide p.engine.program p.images).run.run (p.engine.on m) s
    (p.pull.run.run m s).value = direct.value.mapError Failure.ofFault ∧
      (p.pull.run.run m s).state = direct.state := by
  intro direct
  obtain ⟨-, value, state⟩ := Run.silent_eq (p.pull_silent m s)
  obtain ⟨same, after, -⟩ := p.engine.serve_run m (provide p.engine.program p.images) s
  exact ⟨value.trans (congrArg _ same), state.trans after⟩

end Plan

/-- What an inventory marks as missing is what a run pulls, in the same order and each image once;
after a run that succeeds nothing is missing. The settings of a call bring this about from the state
in which the engine has been started. Where queries leave no trace, inventories before the run leave
none in it. -/
theorem inventory_agrees_with_provide (m : Machine runtime σ) (asked : Image → Prop)
    (holds : σ → Image → Bool) (s : σ) (keeps : m.KeepsStore asked holds s) (name : String)
    (choices : List Choice) (given : ∀ choice ∈ choices, asked choice.image) :
    let inventory (t : σ) := (takeInventory choices).run.run m t
    let pull (t : σ) := (provide name (choices.map (·.image))).run.run m t
    let table (present : Image → Bool) := Inventory.shown (Inventory.rows choices present)
    (∃ entries, (inventory s).value = .ok entries ∧ entries.map Prod.fst = choices ∧
      (∀ entry ∈ entries, entry.2 = true ↔ holds s entry.1.image = true) ∧
      Inventory.render entries = table (holds s) ∧
      ∀ tally, (pull s).value = .ok tally →
        tally.pulled = (Inventory.missing entries).eraseDups ∧
        ∃ filled, (inventory (pull s).state).value = .ok filled ∧
          filled = choices.map (fun choice => (choice, true)) ∧
          Inventory.render filled = table fun _ => true) ∧
    (choices ≠ [] → ∀ present, Text.Grid.lastColumn (table present).toList =
      "STATUS".toList ::
        choices.map fun choice => (Inventory.mark (present choice.image)).toList) ∧
    (∀ (system : Machine shell σ) (e : Engine) (settings : Settings) (env : Lookup) (before : σ)
        (ending : Ending), e.on system = m → e.program = name →
      settings.plan env = .ok ⟨choices, e⟩ →
      system.answer e.versionCommand before = (.ok ending, s) →
      let listed := (settings.list env).run.run system before
      let pulled := (settings.pull env).run.run system before
      listed.value = .ok () ∧ listed.printed = [table (holds s)] ∧
        pulled.value = (pull s).value.mapError Failure.ofFault ∧
        pulled.state = (pull s).state) ∧
    (m.QueriesLeaveNoTrace asked s → ∀ n, let later := Inventory.stateAfter m choices n s
      (pull later).value = (pull s).value ∧ (pull later).exchanges = (pull s).exchanges ∧
        m.Alike (pull later).state (pull s).state ∧
        ∀ image, asked image → holds (pull later).state image = holds (pull s).state image) := by
  intro inventory pull table
  have within : ∀ image ∈ choices.map (·.image), asked image := by
    intro image member
    obtain ⟨choice, inside, rfl⟩ := List.mem_map.mp member
    exact given choice inside
  have about (t : σ) : About asked (pull t).requests :=
    fun call member => within call.image (image_of_mem_requests member)
  obtain ⟨listed, -, -⟩ := keeps.takeInventory_run given
  refine ⟨⟨_, listed, ?_, ?_, Inventory.render_eq_shown choices (holds s), ?_⟩,
    fun some present => Inventory.lastColumn_shown some present, ?_, ?_⟩
  · rw [List.map_map]
    exact List.map_id choices
  · intro entry member
    obtain ⟨choice, -, rfl⟩ := List.mem_map.mp member
    exact Iff.rfl
  · intro tally ended
    obtain ⟨pulled, -, -, after, filled⟩ :=
      (Machine.KeepsStore.fills m asked holds).provide_eq_ok within keeps ended
    have full : ∀ choice ∈ choices, holds (pull s).state choice.image = true := by
      intro choice member
      rw [filled choice.image]
      simp [List.mem_map_of_mem member]
    refine ⟨?_, _, (after.takeInventory_run given).1, ?_, ?_⟩
    · rw [pulled, Inventory.missing_map, map_fst_filter_fresh _ _ _ fun _ _ => rfl]
    · apply List.map_congr_left
      intro choice member
      rw [full choice member]
    · rw [Inventory.render_eq_shown]
      show Inventory.shown (Inventory.rows choices _) = Inventory.shown (Inventory.rows choices _)
      congr 1
      apply List.map_congr_left
      intro choice member
      rw [full choice member]
  · rintro system e settings env before ending rfl rfl planned started
    have answered : (system.answer e.versionCommand before).1 = .ok ending := by rw [started]
    obtain ⟨-, printed, value, -⟩ := Settings.prepare_bind_started Plan.list planned answered
    obtain ⟨-, -, result, state⟩ := Settings.prepare_bind_started Plan.pull planned answered
    rw [started] at printed value result state
    obtain ⟨fine, told⟩ := Plan.list_of_taken (p := ⟨choices, e⟩) listed
    obtain ⟨same, after⟩ := Plan.pull_run ⟨choices, e⟩ system s
    rw [Inventory.render_eq_shown] at told
    exact ⟨value.trans fine, printed.trans told, result.trans same, state.trans after⟩
  · intro quiet n later
    obtain ⟨kept, -, alike⟩ := keeps.alike_stateAfter given quiet n
    obtain ⟨value, exchanges, same⟩ :=
      Dialogue.run_alike alike (provide name (choices.map (·.image))).run
    exact ⟨value, exchanges, same,
      fun image held => (kept.run (about later)).holds_of_alike (keeps.run (about s)) same held⟩

/-- Two runs: an image given twice on a scripted runtime, and a call with a program that has one of
two images. -/
theorem inventory_agrees_with_provide_repeated :
    let a : Image := ⟨"a", by decide⟩
    let b : Image := ⟨"b", by decide⟩
    (let choices : List Choice := [⟨"x", a⟩, ⟨"y", b⟩, ⟨"z", a⟩]
      let s : Scripted.State := { present := ⟨["b"]⟩ }
      let holds (t : Scripted.State) (image : Image) := t.present.contains image.reference
      let inventory (t : Scripted.State) := (takeInventory choices).run.run Scripted.machine t
      let pull (t : Scripted.State) := (provide "docker" [a, b, a]).run.run Scripted.machine t
      Scripted.machine.KeepsStore (fun _ => True) holds s ∧
        (pull s).value = .ok ⟨[b, a], [a]⟩ ∧
        (∃ entries, (inventory s).value = .ok entries ∧
          [a] = (Inventory.missing entries).eraseDups ∧
          (inventory (pull s).state).value = .ok [(⟨"x", a⟩, true), (⟨"y", b⟩, true),
            (⟨"z", a⟩, true)]) ∧
        (pull (Inventory.stateAfter Scripted.machine choices 2 s)).exchanges =
          (pull s).exchanges) ∧
    (let w := Workspace.lonely { present := ⟨["b"]⟩ }
      let settings : Settings :=
        ⟨"rt", ⟨[⟨"x", none, .fixed "a"⟩, ⟨"y", none, .fixed "b"⟩], "APP_VERSION", none⟩⟩
      let env : Lookup := fun _ => none
      ((settings.list env).run.run Workspace.machine w).printed =
          [Inventory.shown [("x", "a", "missing"), ("y", "b", "present")]] ∧
        ((settings.pull env).run.run Workspace.machine w).value = .ok ⟨[b], [a]⟩) := by
  intro a b
  constructor
  · intro choices s holds inventory pull
    have keeps : Scripted.machine.KeepsStore (fun _ => True) holds s :=
      Scripted.machine_keepsStore fun _ => ⟨rfl, rfl⟩
    have ended : (pull s).value = .ok ⟨[b, a], [a]⟩ := by decide +kernel
    obtain ⟨⟨entries, listed, -, -, -, agree⟩, -, -, again⟩ := inventory_agrees_with_provide
      Scripted.machine (fun _ => True) holds s keeps "docker" choices fun _ _ => trivial
    obtain ⟨pulled, filled, after, rfl, -⟩ := agree _ ended
    obtain ⟨-, exchanges, -⟩ := again (fun calls image _ _ => .refl Scripted.machine _) 2
    exact ⟨keeps, ended, ⟨entries, listed, pulled, after⟩, exchanges⟩
  · intro w settings env
    let e : Engine := ⟨"rt", []⟩
    let choices : List Choice := [⟨"x", a⟩, ⟨"y", b⟩]
    have runs : Workspace.Runs w e "/bin/rt" ["bin", "rt"] :=
      ⟨Workspace.findProgram_lonely _, nofun⟩
    have hosts : Workspace.Hosts w ["bin", "rt"] w { present := ⟨["b"]⟩ } :=
      ⟨rfl, rfl, rfl, fun _ _ => rfl⟩
    obtain ⟨s, started, unchanged⟩ := Workspace.answer_versionCommand runs hosts (by decide)
    have later : Workspace.Hosts w ["bin", "rt"] s { present := ⟨["b"]⟩ } := unchanged
    have takes : Workspace.TakesImage w e "/bin/rt" a ∧ Workspace.TakesImage w e "/bin/rt" b := by
      decide
    have given : ∀ choice ∈ choices, Workspace.TakesImage w e "/bin/rt" choice.image := by
      simpa [choices] using takes
    have planned : settings.plan env = .ok ⟨choices, e⟩ := toOption_eq_some.mp (by decide +kernel)
    obtain ⟨-, -, calls, -⟩ := inventory_agrees_with_provide (e.on Workspace.machine) _ _ s
      (Workspace.on_machine_keepsStore runs later ⟨rfl, fun _ => rfl⟩) "rt" choices given
    obtain ⟨-, printed, value, -⟩ :=
      calls Workspace.machine e settings env w _ rfl rfl planned started
    have store : Workspace.holdsAt ["bin", "rt"] s = fun image => image.reference == "b" := by
      funext image
      rw [Workspace.holdsAt, later.program]
      simp [Store.contains, Bool.beq_eq_decide_eq]
    have direct : ((provide "rt" [a, b]).run.run (e.on Workspace.machine) s).value =
        .ok ⟨[b], [a]⟩ := by
      have within : ∀ call ∈ ((provide "rt" [a, b]).run.run StandIn.machine
          { present := ⟨["b"]⟩ }).requests, Workspace.Takes w e "/bin/rt" call := by
        decide +kernel
      rw [(Dialogue.run_simulates (Workspace.simulates runs) (provide "rt" [a, b]).run later
        within).1]
      decide +kernel
    refine ⟨?_, ?_⟩
    · rw [printed, store]
      rfl
    · rw [value]
      exact congrArg _ direct

/-- A runtime that counts the queries, and pulls an image only after the first of them. -/
def countingRuntime : Machine runtime (Nat × List Image) where
  answer
    | .query image, s => (.ok (s.2.contains image), (s.1 + 1, s.2))
    | .pull image, s =>
      if s.1 = 1 then (.ok (), (s.1, image :: s.2))
      else (.error (.pullFailed image.reference (some 1)), s)

theorem countingRuntime_keepsStore (s : Nat × List Image) :
    countingRuntime.KeepsStore (fun _ => True) (fun s image => s.2.contains image) s where
  answer_query _ _ _ _ := rfl
  holds_query _ _ _ _ := rfl
  holds_pull calls image _ _ pulled other := by
    generalize countingRuntime.after s calls = t at pulled ⊢
    by_cases first : t.1 = 1
    · simp only [countingRuntime, if_pos first, List.contains_cons, Bool.or_comm]
    · simp only [countingRuntime, if_neg first] at pulled
      cases pulled

/-- An inventory before a run can change what the run comes to, and what it takes to see that an
engine is there can bring an image into the store. -/
theorem inventory_leaves_trace :
    (let image : Image := ⟨"a", by decide⟩
      let pull (t : Nat × List Image) := (provide "docker" [image]).run.run countingRuntime t
      (∀ s, countingRuntime.KeepsStore (fun _ => True) (fun s image => s.2.contains image) s) ∧
        (pull (0, [])).value = .ok ⟨[], [image]⟩ ∧
        (pull (Inventory.stateAfter countingRuntime [⟨"x", image⟩] 1 (0, []))).value =
          .error (.pullFailed "a" (some 1))) ∧
    (let tool : Image := ⟨"--version", by decide⟩
      let e : Engine := ⟨"rt", ["pull"]⟩
      let w := Workspace.lonely {}
      let settings : Settings :=
        ⟨"rt pull", ⟨[⟨"tool", none, .fixed "--version"⟩], "APP_VERSION", none⟩⟩
      let env : Lookup := fun _ => none
      settings.plan env = .ok ⟨[⟨"tool", tool⟩], e⟩ ∧
        (e.on Workspace.machine).KeepsStore (Workspace.TakesImage w e "/bin/rt")
          (Workspace.holdsAt ["bin", "rt"]) w ∧
        Workspace.TakesImage w e "/bin/rt" tool ∧
        Workspace.holdsAt ["bin", "rt"] w tool = false ∧
        ((settings.pull env).run.run Workspace.machine w).value = .ok ⟨[tool], []⟩ ∧
        ((settings.list env).run.run Workspace.machine w).printed =
          [Inventory.shown [("tool", "--version", "present")]]) := by
  constructor
  · intro image pull
    exact ⟨countingRuntime_keepsStore, by decide +kernel, by decide +kernel⟩
  · intro tool e w settings env
    have runs : Workspace.Runs w e "/bin/rt" ["bin", "rt"] :=
      ⟨Workspace.findProgram_lonely _, by decide⟩
    have hosts : Workspace.Hosts w ["bin", "rt"] w {} := ⟨rfl, rfl, rfl, fun _ _ => rfl⟩
    have takes : Workspace.TakesImage w e "/bin/rt" tool := by decide
    exact ⟨toOption_eq_some.mp (by decide +kernel),
      Workspace.on_machine_keepsStore runs hosts ⟨rfl, fun _ => rfl⟩, takes, by decide,
      toOption_eq_some.mp (by decide +kernel), by decide +kernel⟩

end ImageStock
