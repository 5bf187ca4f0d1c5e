import ImageStock.Proofs.Engine
import ImageStock.Proofs.Text.Words

/-! Command lines of engines, and the words of the commands that come of them. Main statement: the
words of a command line become the first words of every command, and those that a call adds follow
them as they are. -/

namespace ImageStock.Engine

theorem ofCommandLine?_text (l : Text.Layout) :
    ofCommandLine? l.text = some ⟨l.first, l.later.map Prod.snd⟩ := by
  rw [ofCommandLine?, Text.words_text, Text.Layout.words]

theorem ofCommandLine?_eq_none_iff (line : String) :
    ofCommandLine? line = none ↔ Text.allBlank line = true := by
  rw [← Text.words_eq_nil_iff, ofCommandLine?]
  cases Text.words line <;> simp

theorem ofCommandLine?_eq_some_iff {line : String} {e : Engine} :
    ofCommandLine? line = some e ↔
      ∃ l : Text.Layout, l.text = line ∧ l.first = e.program ∧
        l.later.map Prod.snd = e.leading := by
  constructor
  · intro read
    have written : Text.allBlank line = false := by
      rw [← Bool.not_eq_true, ← ofCommandLine?_eq_none_iff, read]
      exact Option.some_ne_none e
    obtain ⟨l, rfl⟩ := Text.exists_layout written
    rw [ofCommandLine?_text, Option.some.injEq] at read
    exact ⟨l, rfl, by rw [← read], by rw [← read]⟩
  · rintro ⟨l, rfl, program, leading⟩
    rw [ofCommandLine?_text, program, leading]

variable {σ ε α : Type}

theorem words_commandFor (e : Engine) (call : Call) :
    (e.commandFor call).words = e.program :: e.leading ++ call.words := by
  cases call <;> rfl

theorem checkAvailable_silent (e : Engine) (m : Machine shell σ) (s : σ) :
    (e.checkAvailable.run.run m s).silent =
      ([⟨e.versionCommand, (m.answer e.versionCommand s).1⟩],
        ((m.answer e.versionCommand s).1.map fun _ => ()).mapError (.unavailable e.program),
        (m.answer e.versionCommand s).2) := by
  rw [← List.append_nil [_]]
  apply Dialogue.silent_bind m (execute_silent m e.versionCommand s)
  cases (m.answer e.versionCommand s).1 <;> rfl

theorem requests_checkAvailable (e : Engine) (m : Machine shell σ) (s : σ) :
    (e.checkAvailable.run.run m s).requests = [e.versionCommand] := by
  rw [Run.requests_eq_map_exchanges, (Run.silent_eq (e.checkAvailable_silent m s)).1]
  rfl

theorem requests_answer (e : Engine) (m : Machine shell σ) (call : Call) (s : σ) :
    ((e.answer call).run m s).requests = [e.commandFor call] := by
  rw [Run.requests_eq_map_exchanges, (Run.silent_eq (e.answer_silent m call s)).1]
  rfl

theorem requests_serve (e : Engine) (m : Machine shell σ) (d : Attempt runtime ε α) (s : σ) :
    ((e.serve d).run.run m s).requests = (d.run.run (e.on m) s).requests.map e.commandFor := by
  obtain ⟨-, -, carries⟩ := e.serve_run m d s
  rw [Run.requests_eq_map_exchanges, map_fst_of_carries carries, Run.requests_eq_map_exchanges,
    List.map_map]
  rfl

/-- A command line is read as an engine exactly if it is a layout of the engine's words, and only a
line of white space is not read. The words of each command are those of the engine and then those
of the call, of which an image reference is one, however it is written. -/
theorem ofCommandLine?_exact :
    (∀ line e, ofCommandLine? line = some e ↔
      ∃ l : Text.Layout, l.text = line ∧ l.first = e.program ∧
        l.later.map Prod.snd = e.leading) ∧
    (∀ line, ofCommandLine? line = none ↔ Text.allBlank line = true) ∧
    ∀ (e : Engine) {σ : Type} (m : Machine shell σ) (s : σ),
      (e.checkAvailable.run.run m s).requests.map Command.words =
        [e.program :: e.leading ++ ["--version"]] ∧
      (∀ image : Image, ((e.query image).run m s).requests.map Command.words =
        [e.program :: e.leading ++ ["images", "-q", image.reference]]) ∧
      (∀ image : Image, ((e.pull image).run m s).requests.map Command.words =
        [e.program :: e.leading ++ ["pull", image.reference]]) ∧
      ∀ {ε α : Type} (d : Attempt runtime ε α),
        ((e.serve d).run.run m s).requests.map Command.words =
          (d.run.run (e.on m) s).requests.map fun call =>
            e.program :: e.leading ++ call.words := by
  refine ⟨fun _ _ => ofCommandLine?_eq_some_iff, ofCommandLine?_eq_none_iff, ?_⟩
  intro e σ m s
  refine ⟨?_, ?_, ?_, ?_⟩
  · rw [requests_checkAvailable]
    rfl
  · intro image
    have asked := e.requests_answer m (.query image) s
    rw [answer] at asked
    rw [asked]
    rfl
  · intro image
    have asked := e.requests_answer m (.pull image) s
    rw [answer] at asked
    rw [asked]
    rfl
  · intro ε α d
    rw [requests_serve, List.map_map]
    exact List.map_congr_left fun call _ => e.words_commandFor call

example : ofCommandLine? "\u2003docker\t --context\u00a0remote\n" =
    some ⟨"docker", ["--context", "remote"]⟩ := by decide

end ImageStock.Engine
