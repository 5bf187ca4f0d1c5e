import ImageStock.Proofs.Engine
import ImageStock.Proofs.Provision.Segment

/-! Images that an engine provides. Main statements: the commands of a run are those for a prefix of
the images, a run that succeeds has provided each image, and one that fails ends with the command
that failed. -/

namespace ImageStock

theorem forall₂_append_left {α β : Type} {R : α → β → Prop} {front back : List α} {bs : List β}
    (both : List.Forall₂ R (front ++ back) bs) :
    ∃ first second, bs = first ++ second ∧ List.Forall₂ R front first ∧
      List.Forall₂ R back second := by
  induction front generalizing bs with
  | nil => exact ⟨[], bs, rfl, .nil, both⟩
  | cons head front ih =>
      rw [List.cons_append, List.forall₂_cons_left_iff] at both
      obtain ⟨b, rest, holds, others, rfl⟩ := both
      obtain ⟨first, second, rfl, begins, ends⟩ := ih others
      exact ⟨b :: first, second, rfl, .cons holds begins, ends⟩

theorem forall₂_flatMap_left {α β γ : Type} {R : α → β → Prop} {f : γ → List α} {cs : List γ}
    {bs : List β} (both : List.Forall₂ R (cs.flatMap f) bs) :
    ∃ parts, bs = parts.flatten ∧ List.Forall₂ (fun c => List.Forall₂ R (f c)) cs parts := by
  induction cs generalizing bs with
  | nil =>
      cases both
      exact ⟨[], rfl, .nil⟩
  | cons c cs ih =>
      rw [List.flatMap_cons] at both
      obtain ⟨first, second, rfl, begins, others⟩ := forall₂_append_left both
      obtain ⟨parts, rfl, ends⟩ := ih others
      exact ⟨first :: parts, rfl, .cons begins ends⟩

namespace Engine

/-- The commands, with their answers, of an image that was present or has been pulled. -/
inductive Provides (e : Engine) (image : Image) : List (Exchange shell) → Prop
  | present (ending : Ending) (shows : ending.showsImage = true) :
      Provides e image [⟨e.queryCommand image, .ok ending⟩]
  | pulled (query pull : Ending) (lacks : query.showsImage = false)
      (success : pull.status = .exited 0) :
      Provides e image [⟨e.queryCommand image, .ok query⟩, ⟨e.pullCommand image, .ok pull⟩]

variable {e : Engine} {image : Image}

theorem judge_query_eq_ok {answer : Except SystemError Ending} {present : Bool}
    (judged : Except.ok present = e.judge (.query image) answer) :
    ∃ ending, answer = .ok ending ∧ ending.showsImage = present := by
  cases answer with
  | error error => cases judged
  | ok ending => exact ⟨ending, rfl, (Except.ok.inj judged).symm⟩

theorem judge_pull_eq_ok {answer : Except SystemError Ending}
    (judged : Except.ok () = e.judge (.pull image) answer) :
    ∃ ending, answer = .ok ending ∧ ending.status = .exited 0 := by
  cases answer with
  | error error => cases judged
  | ok ending =>
      rw [judge] at judged
      split at judged
      · next success => exact ⟨ending, rfl, (Status.success_iff _).mp success⟩
      · cases judged

theorem judge_query_eq_error {answer : Except SystemError Ending} {fault : Fault}
    (judged : Except.error fault = e.judge (.query image) answer) :
    ∃ error, answer = .error error ∧ fault = .notStarted s!"{e.program} images" error := by
  cases answer with
  | error error => exact ⟨error, rfl, Except.error.inj judged⟩
  | ok ending => cases judged

theorem judge_pull_eq_error {answer : Except SystemError Ending} {fault : Fault}
    (judged : Except.error fault = e.judge (.pull image) answer) :
    (∃ error, answer = .error error ∧ fault = .notStarted s!"{e.program} pull" error) ∨
      ∃ ending, answer = .ok ending ∧ ending.status.success = false ∧
        fault = .pullFailed image.reference ending.status.code? := by
  cases answer with
  | error error => exact .inl ⟨error, rfl, Except.error.inj judged⟩
  | ok ending =>
      simp only [judge] at judged
      split at judged
      · cases judged
      · next failed =>
          exact .inr ⟨ending, rfl, Bool.eq_false_iff.mpr failed, Except.error.inj judged⟩

theorem provides_of_carries {segment : Segment} {part : List (Exchange shell)}
    (sound : segment.fault? = none) (carries : List.Forall₂ e.Carries segment.exchanges part) :
    e.Provides segment.image part := by
  cases segment with
  | unanswered image fault | unfetched image fault => cases sound
  | found image =>
      rw [Segment.exchanges, List.forall₂_cons_left_iff] at carries
      obtain ⟨⟨command, answer⟩, rest, query, others, rfl⟩ := carries
      obtain ⟨ending, rfl, shows⟩ := judge_query_eq_ok query.answer
      cases others
      cases query.command
      exact .present ending shows
  | fetched image =>
      rw [Segment.exchanges, List.forall₂_cons_left_iff] at carries
      obtain ⟨⟨command, answer⟩, rest, query, others, rfl⟩ := carries
      rw [List.forall₂_cons_left_iff] at others
      obtain ⟨⟨later, result⟩, rest, pull, others, rfl⟩ := others
      obtain ⟨first, rfl, lacks⟩ := judge_query_eq_ok query.answer
      obtain ⟨last, rfl, success⟩ := judge_pull_eq_ok pull.answer
      cases others
      cases query.command
      cases pull.command
      exact .pulled first last lacks success

/-- A command that ends a run, by the fault that it ends with. -/
inductive FailsWith (e : Engine) (image : Image) : Exchange shell → Fault → Prop
  | query (error : SystemError) :
      FailsWith e image ⟨e.queryCommand image, .error error⟩
        (.notStarted s!"{e.program} images" error)
  | pull (error : SystemError) :
      FailsWith e image ⟨e.pullCommand image, .error error⟩
        (.notStarted s!"{e.program} pull" error)
  | status (ending : Ending) (failed : ending.status.success = false) :
      FailsWith e image ⟨e.pullCommand image, .ok ending⟩
        (.pullFailed image.reference ending.status.code?)

variable {σ : Type} {m : Machine shell σ} {s : σ} {name : String} {images : List Image}

def commandsOf (e : Engine) (image : Image) (pulls : Bool) : List Command :=
  e.queryCommand image :: if pulls then [e.pullCommand image] else []

theorem commands_of_segment (e : Engine) (segment : Segment) :
    (segment.exchanges.map fun x => e.commandFor x.1) =
      e.commandsOf segment.image segment.pulls := by
  cases segment <;> rfl

theorem commands_of_serve_provide (e : Engine) (m : Machine shell σ) (name : String)
    (images : List Image) (s : σ) :
    ∃ served : List (Image × Bool), served.map Prod.fst <+: images ∧
      ((e.serve (provide name images)).run.run m s).exchanges.map Sigma.fst =
        served.flatMap fun entry => e.commandsOf entry.1 entry.2 := by
  obtain ⟨-, -, carries⟩ := e.serve_run m (provide name images) s
  obtain ⟨exchanges, -, -⟩ := Run.silent_eq (provide_silent (e.on m) name images s)
  obtain ⟨part, -, -⟩ := Segment.ofEach_spec (e.on m) images s
  rw [exchanges] at carries
  refine ⟨(Segment.ofEach (e.on m) images s).1.map fun x => (x.image, x.pulls), ?_, ?_⟩
  · rw [List.map_map]
    exact part
  · rw [map_fst_of_carries carries, List.map_flatMap, List.flatMap_map]
    simp only [commands_of_segment]

theorem exchanges_of_serve_provide_eq_ok {tally : Tally}
    (ended : ((e.serve (provide name images)).run.run m s).value = .ok tally) :
    ∃ parts, ((e.serve (provide name images)).run.run m s).exchanges = parts.flatten ∧
      List.Forall₂ e.Provides images parts := by
  obtain ⟨value, -, carries⟩ := e.serve_run m (provide name images) s
  obtain ⟨exchanges, result, -⟩ := Run.silent_eq (provide_silent (e.on m) name images s)
  obtain ⟨-, -, whole⟩ := Segment.ofEach_spec (e.on m) images s
  have sound := (Segment.exists_tally_iff _).mp ⟨tally, by rw [← result, ← value, ended]⟩
  rw [exchanges] at carries
  obtain ⟨parts, split, each⟩ := forall₂_flatMap_left carries
  refine ⟨parts, split, ?_⟩
  rw [← whole sound, List.forall₂_map_left_iff]
  have both := (List.forall₂_and_left _ _).mpr ⟨sound, each⟩
  exact both.imp fun segment part holds => provides_of_carries holds.1 holds.2

theorem exchanges_of_serve_provide_eq_error {fault : Fault}
    (failed : ((e.serve (provide name images)).run.run m s).value = .error fault) :
    ∃ image ∈ images, ∃ earlier last, e.FailsWith image last fault ∧
      ((e.serve (provide name images)).run.run m s).exchanges = earlier ++ [last] := by
  obtain ⟨value, -, carries⟩ := e.serve_run m (provide name images) s
  -- The last call is the one that failed, and the last command is the one for it.
  rw [value] at failed
  obtain ⟨image, given, earlier, query | pull⟩ := exchanges_of_provide_eq_error failed
  · rw [query] at carries
    obtain ⟨first, second, split, -, last⟩ := forall₂_append_left carries
    rw [List.forall₂_cons_left_iff] at last
    obtain ⟨⟨command, answer⟩, rest, carried, others, rfl⟩ := last
    obtain ⟨error, rfl, rfl⟩ := judge_query_eq_error carried.answer
    cases others
    cases carried.command
    exact ⟨image, given, first, _, .query error, split⟩
  · rw [pull] at carries
    obtain ⟨first, second, split, -, last⟩ := forall₂_append_left carries
    rw [List.forall₂_cons_left_iff] at last
    obtain ⟨⟨command, answer⟩, rest, carried, others, rfl⟩ := last
    cases others
    cases carried.command
    rcases judge_pull_eq_error carried.answer with ⟨error, rfl, rfl⟩ | ⟨ending, rfl, ended, rfl⟩
    · exact ⟨image, given, first, _, .pull error, split⟩
    · exact ⟨image, given, first, _, .status ending ended, split⟩

end Engine

end ImageStock
