import ImageStock.Proofs.CommandLine
import ImageStock.Proofs.ProjectFile.Export
import ImageStock.Proofs.ProjectFile.Initial

/-! Settings with the initial project file. Main statement: the file brings the catalog that holds
without it, and the same command line as well unless the user's own file gives another one that no
stronger layer hides; then the file puts the built-in command line in its place. -/

namespace ImageStock

namespace Settings

def Gives (layer : Option String) : Prop :=
  ∃ line, layer = some line ∧ Text.allBlank line = false

theorem chooseCommandLine_of_not_gives {layer : Option String} (silent : ¬ Gives layer)
    (weaker : List (Option String)) :
    chooseCommandLine (layer :: weaker) = chooseCommandLine weaker := by
  apply chooseCommandLine_of_chooses
  apply Chooses.passed _ (chooses_chooseCommandLine weaker)
  intro line given
  by_contra written
  exact silent ⟨line, given, Bool.of_not_eq_true written⟩

theorem chooseCommandLine_congr {first second : Option String}
    (gives : Gives first ∨ Gives second) (weaker weaker' : List (Option String)) :
    chooseCommandLine (first :: second :: weaker) =
      chooseCommandLine (first :: second :: weaker') := by
  rcases gives with ⟨line, rfl, written⟩ | ⟨line, rfl, written⟩
  · have member : some line ∈ [some line, second] := by simp
    exact chooseCommandLine_front member written _ _
  · have member : some line ∈ [first, some line] := by simp
    exact chooseCommandLine_front member written _ _

/-- To put the built-in command line before the weakest layer makes a difference where that layer
would have given another one. -/
theorem chooseCommandLine_builtIn (first second last : Option String) :
    let made := chooseCommandLine [first, second, some "docker", last]
    let bare := chooseCommandLine [first, second, none, last]
    (made = bare ↔ Gives first ∨ Gives second ∨ ¬ Gives last ∨ last = some "docker") ∧
      (made ≠ bare → made = "docker" ∧ last = some bare) := by
  intro made bare
  by_cases hidden : Gives first ∨ Gives second
  · have same : made = bare := chooseCommandLine_congr hidden _ _
    have reason : Gives first ∨ Gives second ∨ ¬ Gives last ∨ last = some "docker" := by
      rcases hidden with first | second
      · exact .inl first
      · exact .inr (.inl second)
    exact ⟨iff_of_true same reason, fun differ => absurd same differ⟩
  · obtain ⟨noFirst, noSecond⟩ := not_or.mp hidden
    have chosen : made = "docker" := by
      simp only [made]
      rw [chooseCommandLine_of_not_gives noFirst, chooseCommandLine_of_not_gives noSecond]
      exact chooseCommandLine_of_chooses (.given (by decide))
    have left : bare = chooseCommandLine [last] := by
      simp only [bare]
      rw [chooseCommandLine_of_not_gives noFirst, chooseCommandLine_of_not_gives noSecond,
        chooseCommandLine_none]
    rw [chosen, left]
    by_cases own : Gives last
    · obtain ⟨line, rfl, written⟩ := own
      have given : chooseCommandLine [some line] = line :=
        chooseCommandLine_of_chooses (.given written)
      rw [given]
      refine ⟨⟨?_, ?_⟩, fun _ => ⟨rfl, rfl⟩⟩
      · rintro rfl
        exact .inr (.inr (.inr rfl))
      · rintro (first | second | silent | same)
        · exact absurd first noFirst
        · exact absurd second noSecond
        · exact absurd ⟨line, rfl, written⟩ silent
        · exact (Option.some.inj same).symm
    · have silent : chooseCommandLine [last] = "docker" := chooseCommandLine_of_not_gives own []
      rw [silent]
      exact ⟨iff_of_true rfl (.inr (.inr (.inl own))), fun differ => absurd rfl differ⟩

theorem catalogOf_initial : catalogOf (some .initial) = .ok .builtIn := by
  have items : Catalog.builtIn.items ≠ [] := List.cons_ne_nil _ _
  exact ProjectFile.toCatalog_ofCatalog items

end Settings

variable {I : Interface} {σ : Type}

/-- The initial project file brings the catalog that holds without it. It decides the command line
only where neither the call nor the environment gives one, and there it hides what the user has
chosen, if that is not the built-in one. -/
theorem initialise_keeps_catalog (h : Host) (dir : String) (force : Bool) (m : Machine I σ) (s : σ)
    (writable : h.Writable dir)
    (allowed : h.Holds (h.join dir projectFileName) → force = true) :
    ∃ written after,
      (((Host.initialise dir force).run.run h).run m s).value = (.ok written, after) ∧
      ∀ s', ∃ project, ((after.loadProject none dir).run.run m s').value = .ok (some project) ∧
        ∀ flag line user, ∃ made bare,
          Settings.merge flag line (some project) user = .ok made ∧
          Settings.merge flag line none user = .ok bare ∧
          made.catalog = bare.catalog ∧
          (∀ env, made.catalog.resolve env = bare.catalog.resolve env) ∧
          (made.commandLine = bare.commandLine ↔ Settings.Gives flag ∨ Settings.Gives line ∨
            ¬ Settings.Gives user.commandLine ∨ user.commandLine = some "docker") ∧
          (made.commandLine ≠ bare.commandLine →
            made.commandLine = "docker" ∧ user.commandLine = some bare.commandLine) := by
  have passes : ¬ (h.Holds (h.join dir projectFileName) ∧ force = false ∨ ¬ h.Writable dir) := by
    rintro (⟨there, rfl⟩ | unwritable)
    · cases allowed there
    · exact unwritable writable
  rw [← (Host.initialise_fails_iff (m := m) (s := s)).1, exists_eq_error_iff, not_not] at passes
  obtain ⟨written, succeeded⟩ := passes
  obtain ⟨after, ended⟩ : ∃ after,
      (((Host.initialise dir force).run.run h).run m s).value = (.ok written, after) :=
    ⟨_, Prod.ext succeeded rfl⟩
  obtain ⟨-, made⟩ := Host.initialise_ok ended
  refine ⟨written, after, ended, fun s' => ⟨_, made.reloaded, ?_⟩⟩
  intro flag line user
  obtain ⟨same, differ⟩ := Settings.chooseCommandLine_builtIn flag line user.commandLine
  rw [Settings.merge_eq, Settings.merge_eq, Settings.catalogOf_initial]
  exact ⟨_, _, rfl, rfl, rfl, fun env => rfl, same, differ⟩

theorem initialise_keeps_catalog_chosen :
    let desk := Host.emptyDesk
    let w : Workspace := { host := desk }
    let user : UserFile := { commandLine := some "podman" }
    desk.Writable "" ∧ ¬ desk.Holds (desk.join "" projectFileName) ∧
      ∃ written after project made bare,
        (((Host.initialise "" false).run.run desk).run Workspace.machine w).value =
          (.ok written, after) ∧
        ((after.loadProject none "").run.run Workspace.machine w).value = .ok (some project) ∧
        Settings.merge none (some " ") (some project) user = .ok made ∧
        Settings.merge none (some " ") none user = .ok bare ∧
        made.catalog = bare.catalog ∧ made.commandLine = "docker" ∧
        bare.commandLine = "podman" := by
  intro desk w user
  have apart : desk.files.Apart projectFileName := ⟨by decide, .inl rfl⟩
  have name : desk.join "" projectFileName = "provision.toml" := by
    simp [Host.join, Path.join, projectFileName]
  have absent : ¬ desk.Holds (desk.join "" projectFileName) := by
    rw [← Host.pathExists_iff, name]
    decide +kernel
  have writable : desk.Writable "" := by
    rw [Host.writable_iff apart, name]
    refine ⟨.inl rfl, by decide, ?_⟩
    intro directory
    exact absent (name ▸ ⟨_, directory⟩)
  obtain ⟨written, after, ended, reloads⟩ := initialise_keeps_catalog desk "" false
    Workspace.machine w writable fun there => absurd there absent
  obtain ⟨project, reloaded, merges⟩ := reloads w
  obtain ⟨made, bare, merged, merged', catalog, -, same, differ⟩ := merges none (some " ") user
  have other : made.commandLine ≠ bare.commandLine := by
    rw [ne_eq, same]
    rintro (⟨line, ⟨⟩, -⟩ | ⟨line, ⟨⟩, written⟩ | silent | builtIn)
    · cases written
    · exact silent ⟨_, rfl, by decide⟩
    · exact absurd builtIn (by decide)
  obtain ⟨docker, own⟩ := differ other
  exact ⟨writable, absent, written, after, project, made, bare, ended, reloaded, merged, merged',
    catalog, docker, (Option.some.inj own).symm⟩

end ImageStock
