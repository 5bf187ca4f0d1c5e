import Mathlib.Data.List.Forall2
import ImageStock.Engine
import ImageStock.Proofs.Simulation
import ImageStock.Proofs.Text.Blank

/-! Engines as runtimes. Each call is one command, and what the call comes to is read off the answer
to that command alone. Main statement: the commands of a dialogue with an engine are those for its
calls, one for each, in order. -/

namespace ImageStock

theorem Status.success_iff (status : Status) : status.success = true ↔ status = .exited 0 := by
  rw [success, beq_iff_eq]

theorem Engine.listsImages_eq (output : List UInt8) :
    listsImages output = ! (Text.Utf8.decodeLossy output).all Text.isBlank :=
  Text.any_lines (Text.Utf8.decodeLossy output)

theorem Engine.listsImages_iff_exists (output : List UInt8) :
    listsImages output = true ↔
      ∃ c ∈ Text.Utf8.decodeLossy output, Text.isBlank c = false := by
  rw [listsImages_eq, List.not_all_eq_any_not, List.any_eq_true]
  simp

def Ending.showsImage (ending : Ending) : Bool :=
  ending.status.success && Engine.listsImages ending.output

def Call.words : Call → List String
  | query image => ["images", "-q", image.reference]
  | pull image => ["pull", image.reference]

namespace Engine

variable {σ ε α : Type}

def commandFor (e : Engine) : Call → Command
  | .query image => e.queryCommand image
  | .pull image => e.pullCommand image

theorem arguments_commandFor (e : Engine) (call : Call) :
    (e.commandFor call).arguments = e.leading ++ call.words := by
  cases call <;> rfl

/-- What a call comes to, by the answer to its command. -/
def judge (e : Engine) : (call : Call) → Except SystemError Ending → call.Answer
  | .query _, .ok ending => .ok ending.showsImage
  | .query _, .error error => .error (.notStarted s!"{e.program} images" error)
  | .pull image, .ok ending =>
    if ending.status.success then .ok ()
    else .error (.pullFailed image.reference ending.status.code?)
  | .pull _, .error error => .error (.notStarted s!"{e.program} pull" error)

theorem execute_silent (m : Machine shell σ) (c : Command) (s : σ) :
    ((execute c).run m s).silent = ([⟨c, (m.answer c s).1⟩], m.answer c s) := rfl

theorem answer_silent (e : Engine) (m : Machine shell σ) (call : Call) (s : σ) :
    ((e.answer call).run m s).silent =
      ([⟨e.commandFor call, (m.answer (e.commandFor call) s).1⟩],
        e.judge call (m.answer (e.commandFor call) s).1, (m.answer (e.commandFor call) s).2) := by
  have asked := execute_silent m (e.commandFor call) s
  cases call with
  | query image =>
      rw [← List.append_nil [_]]
      apply Dialogue.silent_bind m asked
      cases (m.answer (e.commandFor (.query image)) s).1 with
      | error error => rfl
      | ok ending =>
          rw [judge, Ending.showsImage]
          cases ended : ending.status.success with
          | true =>
              simp only [ended]
              rfl
          | false =>
              simp only [ended]
              rfl
  | pull image =>
      rw [← List.append_nil [_]]
      apply Dialogue.silent_bind m asked
      cases (m.answer (e.commandFor (.pull image)) s).1 with
      | error error => rfl
      | ok ending =>
          rw [judge]
          cases ended : ending.status.success with
          | true =>
              simp only [ended]
              rfl
          | false =>
              simp only [ended]
              rfl

/-- An engine as a runtime, on a machine that starts its commands. -/
def on (e : Engine) (m : Machine shell σ) : Machine runtime σ := m.via e.answer

theorem answer_on (e : Engine) (m : Machine shell σ) (call : Call) (s : σ) :
    (e.on m).answer call s =
      (e.judge call (m.answer (e.commandFor call) s).1, (m.answer (e.commandFor call) s).2) := by
  obtain ⟨-, value, state⟩ := Run.silent_eq (e.answer_silent m call s)
  exact Prod.ext value state

/-- A call with its answer, and the command with its answer that stands for them. -/
structure Carries (e : Engine) (x : Exchange runtime) (y : Exchange shell) : Prop where
  command : y.1 = e.commandFor x.1
  answer : x.2 = e.judge x.1 y.2

theorem carries_through (e : Engine) (m : Machine shell σ) (d : Dialogue runtime α) (s : σ) :
    List.Forall₂ e.Carries (d.run (e.on m) s).exchanges
      ((d.through e.answer).run m s).exchanges := by
  induction d generalizing s with
  | done a => exact .nil
  | tell u d ih => exact ih s
  | ask call k ih =>
      obtain ⟨exchanges, value, state⟩ := Run.silent_eq (e.answer_silent m call s)
      have split : ((Dialogue.through e.answer (.ask call k)).run m s).exchanges =
          ⟨e.commandFor call, (m.answer (e.commandFor call) s).1⟩ ::
            (((k ((e.answer call).run m s).value).through e.answer).run m
              ((e.answer call).run m s).state).exchanges := by
        rw [Dialogue.through, Dialogue.run_bind, Run.exchanges, List.filterMap_append]
        rw [Run.exchanges] at exchanges
        rw [exchanges]
        rfl
      rw [split, Dialogue.exchanges_ask]
      refine .cons ?_ (ih _ _)
      rw [answer_on]
      exact ⟨rfl, rfl⟩

theorem serve_run (e : Engine) (m : Machine shell σ) (d : Attempt runtime ε α) (s : σ) :
    ((e.serve d).run.run m s).value = (d.run.run (e.on m) s).value ∧
      ((e.serve d).run.run m s).state = (d.run.run (e.on m) s).state ∧
      List.Forall₂ e.Carries (d.run.run (e.on m) s).exchanges
        ((e.serve d).run.run m s).exchanges := by
  obtain ⟨value, state⟩ := Dialogue.run_through m e.answer d.run s
  exact ⟨value, state, e.carries_through m d.run s⟩

theorem map_fst_of_carries {e : Engine} {xs : List (Exchange runtime)} {ys : List (Exchange shell)}
    (carries : List.Forall₂ e.Carries xs ys) :
    ys.map Sigma.fst = xs.map fun x => e.commandFor x.1 := by
  induction carries with
  | nil => rfl
  | cons first rest ih => rw [List.map_cons, List.map_cons, first.command, ih]

end Engine

end ImageStock
