import ImageStock.Proofs.Environment
import ImageStock.Proofs.Program.Prepare

/-! The command line of settings. Main statement: settings can be put together unless the project
file has entries that are no items, and then the command line is that of the first layer which gives
one that is not blank, so that it always has a program to start. -/

namespace ImageStock.Settings

/-- The command line that layers give, from the strongest on: the first one that is not blank. -/
inductive Chooses : List (Option String) → String → Prop where
  | given {line : String} {weaker : List (Option String)} (written : Text.allBlank line = false) :
      Chooses (some line :: weaker) line
  | passed {layer : Option String} {weaker : List (Option String)} {line : String}
      (blank : ∀ other, layer = some other → Text.allBlank other = true)
      (rest : Chooses weaker line) : Chooses (layer :: weaker) line
  | fallback : Chooses [] "docker"

theorem chooseCommandLine_none (weaker : List (Option String)) :
    chooseCommandLine (none :: weaker) = chooseCommandLine weaker := rfl

theorem chooseCommandLine_some (line : String) (weaker : List (Option String)) :
    chooseCommandLine (some line :: weaker) =
      if Text.allBlank line = false then line else chooseCommandLine weaker := by
  rw [chooseCommandLine, List.reduceOption_cons_of_some, List.find?_cons]
  cases Text.allBlank line <;> rfl

theorem chooseCommandLine_of_chooses {layers : List (Option String)} {line : String}
    (chosen : Chooses layers line) : chooseCommandLine layers = line := by
  induction chosen with
  | given written => rw [chooseCommandLine_some, if_pos written]
  | @passed layer weaker line blank rest ih =>
      cases layer with
      | none => rw [chooseCommandLine_none, ih]
      | some other =>
          have empty := blank other rfl
          rw [chooseCommandLine_some, if_neg (by simp [empty]), ih]
  | fallback => rfl

theorem chooses_chooseCommandLine (layers : List (Option String)) :
    Chooses layers (chooseCommandLine layers) := by
  induction layers with
  | nil => exact .fallback
  | cons layer weaker ih =>
      cases layer with
      | none =>
          rw [chooseCommandLine_none]
          apply Chooses.passed _ ih
          intro other impossible
          cases impossible
      | some line =>
          rw [chooseCommandLine_some]
          split
          · next written => exact .given written
          · next blank =>
              apply Chooses.passed _ ih
              rintro _ ⟨⟩
              exact Bool.of_not_eq_false blank

theorem chooses_iff (layers : List (Option String)) (line : String) :
    Chooses layers line ↔ chooseCommandLine layers = line := by
  refine ⟨chooseCommandLine_of_chooses, ?_⟩
  rintro rfl
  exact chooses_chooseCommandLine layers

theorem catalogOf_eq_error_iff {project : Option ProjectFile} {failure : Failure} :
    catalogOf project = .error failure ↔
      ∃ p images, project = some p ∧ p.images = some images ∧
        images.toCatalog = .error failure := by
  rw [catalogOf]
  constructor
  · intro failed
    split at failed
    · next images brought =>
        cases project with
        | none => cases brought
        | some p => exact ⟨p, images, rfl, brought, failed⟩
    · cases failed
  · rintro ⟨p, images, rfl, brought, failed⟩
    rw [Option.getD_some, brought]
    exact failed

/-- Entries that are no items are the only thing that can be wrong with the layers, whatever command
lines they give; and the command line of settings always names a program. -/
theorem merge_names_program (flag env : Option String) (project : Option ProjectFile)
    (user : UserFile) :
    let merged := merge flag env project user
    let layers := [flag, env, project.bind fun p => p.runtime.bind (·.commandLine),
      user.commandLine]
    (∀ failure, merged = .error failure ↔
      ∃ p images, project = some p ∧ p.images = some images ∧
        images.toCatalog = .error failure) ∧
    ∀ settings, merged = .ok settings →
      (∀ line, settings.commandLine = line ↔ Chooses layers line) ∧
      (∃ c ∈ settings.commandLine.toList, Text.isBlank c = false) ∧
      ∃ engine, Engine.ofCommandLine? settings.commandLine = some engine ∧
        settings.engine = .ok engine ∧
        engine.program = Text.firstWord settings.commandLine := by
  intro merged layers
  constructor
  · intro failure
    rw [show merged = _ from merge_eq .., map_eq_error, catalogOf_eq_error_iff]
  · intro settings ended
    have given : (project.getD {}).runtime.bind (·.commandLine) =
        project.bind fun p => p.runtime.bind (·.commandLine) := by
      cases project <;> rfl
    have line : settings.commandLine = chooseCommandLine layers := by
      rw [commandLine_of_merge ended, given]
    have written : Text.allBlank settings.commandLine = false := by
      rw [line]
      exact allBlank_chooseCommandLine layers
    refine ⟨?_, ?_, engine_of_written written⟩
    · intro other
      rw [line, chooses_iff]
    · rw [Text.allBlank, List.all_eq_false] at written
      obtain ⟨c, member, letter⟩ := written
      exact ⟨c, member, Bool.of_not_eq_true letter⟩

end ImageStock.Settings
