import ImageStock.Inventory
import ImageStock.Proofs.Provision.Served

/-! Inventories. Main statements: an inventory asks for its images in order, once each and up to the
first that cannot be asked for, and the answers are what it comes to. -/

namespace ImageStock

variable {σ : Type}

theorem query_silent (m : Machine runtime σ) (image : Image) (s : σ) :
    ((ContainerRuntime.query image).run.run m s).silent =
      ([⟨.query image, (m.answer (.query image) s).1⟩], m.answer (.query image) s) := rfl

namespace Inventory

def queried (entry : Choice × Bool) : Exchange runtime := ⟨.query entry.1.image, .ok entry.2⟩

theorem takeInventory_silent (m : Machine runtime σ) (choices : List Choice) (s : σ) :
    ∃ inventory t,
      (inventory.map Prod.fst = choices ∧
        ((takeInventory choices).run.run m s).silent =
          (inventory.map queried, .ok inventory, t)) ∨
      ∃ choice fault, inventory.map Prod.fst ++ [choice] <+: choices ∧
        ((takeInventory choices).run.run m s).silent =
          (inventory.map queried ++ [⟨.query choice.image, .error fault⟩], .error fault, t) := by
  induction choices generalizing s with
  | nil => exact ⟨[], s, .inl ⟨rfl, rfl⟩⟩
  | cons choice choices ih =>
      have first := query_silent m choice.image s
      rcases answered : m.answer (.query choice.image) s with ⟨fault | present, next⟩
      · rw [answered] at first
        refine ⟨[], next, .inr ⟨choice, fault, ⟨choices, rfl⟩, ?_⟩⟩
        exact Attempt.silent_bind_error m first
      · rw [answered] at first
        obtain ⟨inventory, t, ⟨whole, rest⟩ | ⟨last, fault, part, rest⟩⟩ := ih next
        · refine ⟨(choice, present) :: inventory, t, .inl ⟨by rw [List.map_cons, whole], ?_⟩⟩
          apply Attempt.silent_bind_ok m first
          rw [← List.append_nil (inventory.map queried)]
          exact Attempt.silent_bind_ok m rest (Attempt.silent_pure m _ t)
        · refine ⟨(choice, present) :: inventory, t, .inr ⟨last, fault, ?_, ?_⟩⟩
          · rw [List.map_cons, List.cons_append]
            exact (List.prefix_cons_inj choice).mpr part
          · rw [List.map_cons, List.cons_append, ← List.singleton_append]
            apply Attempt.silent_bind_ok m first
            exact Attempt.silent_bind_error m rest

def executed (e : Engine) (entry : Choice × Ending) : Exchange shell :=
  ⟨e.queryCommand entry.1.image, .ok entry.2⟩

end Inventory

namespace Engine

variable {e : Engine} {inventory : List (Choice × Bool)} {ys : List (Exchange shell)}

theorem exists_endings_of_carries
    (carries : List.Forall₂ e.Carries (inventory.map Inventory.queried) ys) :
    ∃ endings : List (Choice × Ending), ys = endings.map (Inventory.executed e) ∧
      inventory = endings.map fun entry => (entry.1, entry.2.showsImage) := by
  induction inventory generalizing ys with
  | nil =>
      cases carries
      exact ⟨[], rfl, rfl⟩
  | cons entry inventory ih =>
      rw [List.map_cons, List.forall₂_cons_left_iff] at carries
      obtain ⟨⟨command, answer⟩, rest, carried, others, rfl⟩ := carries
      obtain ⟨endings, rfl, rfl⟩ := ih others
      obtain ⟨ending, rfl, shows⟩ := judge_query_eq_ok carried.answer
      cases carried.command
      refine ⟨(entry.1, ending) :: endings, rfl, ?_⟩
      rw [List.map_cons, shows]

/-- An inventory through commands: one query for each image in order, as long as they can be
started. -/
theorem serve_takeInventory (e : Engine) (m : Machine shell σ) (choices : List Choice) (s : σ) :
    let run := (e.serve (takeInventory choices)).run.run m s
    ∃ endings : List (Choice × Ending),
      (endings.map Prod.fst = choices ∧ run.exchanges = endings.map (Inventory.executed e) ∧
        run.value = .ok (endings.map fun entry => (entry.1, entry.2.showsImage))) ∨
      ∃ choice error, endings.map Prod.fst ++ [choice] <+: choices ∧
        run.exchanges = endings.map (Inventory.executed e) ++
          [⟨e.queryCommand choice.image, .error error⟩] ∧
        run.value = .error (.notStarted s!"{e.program} images" error) := by
  intro run
  obtain ⟨value, -, carries⟩ := e.serve_run m (takeInventory choices) s
  obtain ⟨inventory, t, ⟨whole, silent⟩ | ⟨choice, fault, part, silent⟩⟩ :=
    Inventory.takeInventory_silent (e.on m) choices s
  · obtain ⟨exchanges, result, -⟩ := Run.silent_eq silent
    rw [exchanges] at carries
    obtain ⟨endings, commands, rfl⟩ := exists_endings_of_carries carries
    refine ⟨endings, .inl ⟨?_, commands, value.trans result⟩⟩
    rw [← whole, List.map_map]
    rfl
  · obtain ⟨exchanges, result, -⟩ := Run.silent_eq silent
    rw [exchanges] at carries
    obtain ⟨first, second, split, begins, last⟩ := forall₂_append_left carries
    obtain ⟨endings, rfl, rfl⟩ := exists_endings_of_carries begins
    rw [List.forall₂_cons_left_iff] at last
    obtain ⟨⟨command, answer⟩, rest, carried, others, rfl⟩ := last
    obtain ⟨error, rfl, rfl⟩ := judge_query_eq_error carried.answer
    cases others
    cases carried.command
    refine ⟨endings, .inr ⟨choice, error, ?_, split, value.trans result⟩⟩
    rw [List.map_map] at part
    exact part

end Engine

end ImageStock
