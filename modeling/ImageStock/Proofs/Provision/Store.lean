import ImageStock.Proofs.Inventory
import ImageStock.Proofs.Provision.Account
import ImageStock.Proofs.Rehearsal
import ImageStock.Proofs.Workspace

/-! Runtimes that keep a store: a query tells whether its image is in the store, and a pull adds its
image. Main statements: how the store changes with the calls, and which runtimes are of this kind,
scripted ones and programs that are called through commands among them. -/

namespace ImageStock

variable {σ τ : Type}

def About (asked : Image → Prop) (calls : List Call) : Prop := ∀ call ∈ calls, asked call.image

theorem About.single {asked : Image → Prop} {call : Call} (given : asked call.image) :
    About asked [call] := by
  intro other member
  rwa [List.mem_singleton.mp member]

theorem About.append {asked : Image → Prop} {calls later : List Call} (first : About asked calls)
    (second : About asked later) : About asked (calls ++ later) := by
  intro call member
  rcases List.mem_append.mp member with before | after
  · exact first call before
  · exact second call after

/-- From a state on, whatever is called about images of a kind, a query tells whether its image is
in the store and does not change the store, and a pull that succeeds adds its image to the store.
`holds` tells what is in the store of a state. -/
structure Machine.KeepsStore (m : Machine runtime σ) (asked : Image → Prop)
    (holds : σ → Image → Bool) (s : σ) : Prop where
  answer_query : ∀ calls image, About asked calls → asked image →
    (m.answer (.query image) (m.after s calls)).1 = .ok (holds (m.after s calls) image)
  holds_query : ∀ calls image, About asked calls → asked image →
    holds (m.answer (.query image) (m.after s calls)).2 = holds (m.after s calls)
  holds_pull : ∀ calls image, About asked calls → asked image →
    (m.answer (.pull image) (m.after s calls)).1 = .ok () → ∀ other,
      holds (m.answer (.pull image) (m.after s calls)).2 other =
        (holds (m.after s calls) other || other == image)

/-- From a state on, a query changes nothing that a later call could tell: besides its store, a
runtime may have other things in its state. -/
def Machine.QueriesLeaveNoTrace (m : Machine runtime σ) (asked : Image → Prop) (s : σ) : Prop :=
  ∀ calls image, About asked calls → asked image →
    m.Alike (m.answer (.query image) (m.after s calls)).2 (m.after s calls)

theorem Machine.QueriesLeaveNoTrace.after {m : Machine runtime σ} {asked : Image → Prop} {s : σ}
    (quiet : m.QueriesLeaveNoTrace asked s) {calls : List Call} (about : About asked calls) :
    m.QueriesLeaveNoTrace asked (m.after s calls) := by
  intro later image behind given
  rw [← Machine.after_append]
  exact quiet (calls ++ later) image (about.append behind) given

namespace Machine.KeepsStore

variable {m : Machine runtime σ} {asked : Image → Prop} {holds : σ → Image → Bool} {s t : σ}

theorem after (keeps : m.KeepsStore asked holds s) {calls : List Call}
    (about : About asked calls) : m.KeepsStore asked holds (m.after s calls) where
  answer_query later image behind given := by
    rw [← Machine.after_append]
    exact keeps.answer_query (calls ++ later) image (about.append behind) given
  holds_query later image behind given := by
    rw [← Machine.after_append]
    exact keeps.holds_query (calls ++ later) image (about.append behind) given
  holds_pull later image behind given := by
    rw [← Machine.after_append]
    exact keeps.holds_pull (calls ++ later) image (about.append behind) given

theorem answer (keeps : m.KeepsStore asked holds s) (call : Call) (given : asked call.image) :
    m.KeepsStore asked holds (m.answer call s).2 :=
  keeps.after (About.single given)

theorem run {α : Type} (keeps : m.KeepsStore asked holds s) {d : Dialogue runtime α}
    (about : About asked (d.run m s).requests) : m.KeepsStore asked holds (d.run m s).state := by
  rw [Dialogue.state_eq_after, ← Run.requests_eq_map_exchanges]
  exact keeps.after about

theorem holds_of_alike (first : m.KeepsStore asked holds s) (second : m.KeepsStore asked holds t)
    (alike : m.Alike s t) {image : Image} (given : asked image) :
    holds s image = holds t image := by
  have told : (m.answer (.query image) s).1 = (m.answer (.query image) t).1 := alike [] _
  have here : (m.answer (.query image) s).1 = .ok (holds s image) :=
    first.answer_query [] image nofun given
  have there : (m.answer (.query image) t).1 = .ok (holds t image) :=
    second.answer_query [] image nofun given
  rw [here, there] at told
  exact Except.ok.inj told

theorem query (keeps : m.KeepsStore asked holds s) {image : Image} (given : asked image) :
    ∃ t, m.answer (.query image) s = (.ok (holds s image), t) ∧ m.KeepsStore asked holds t ∧
      holds t = holds s :=
  ⟨_, Prod.ext (keeps.answer_query [] image nofun given) rfl, keeps.answer _ given,
    keeps.holds_query [] image nofun given⟩

theorem pull (keeps : m.KeepsStore asked holds s) {image : Image} (given : asked image)
    (pulled : m.answer (.pull image) s = (.ok (), t)) :
    m.KeepsStore asked holds t ∧ ∀ other, holds t other = (holds s other || other == image) := by
  have later := keeps.answer (.pull image) given
  have grown := keeps.holds_pull [] image nofun given (congrArg Prod.fst pulled)
  rw [Machine.after_nil, pulled] at grown
  rw [pulled] at later
  exact ⟨later, grown⟩

theorem segment_of (keeps : m.KeepsStore asked holds s) {image : Image} (given : asked image)
    (passed : (Segment.of m image s).1.fault? = none) :
    (Segment.of m image s).1.pulls = (!holds s image) ∧
      m.KeepsStore asked holds (Segment.of m image s).2 ∧
      ∀ other, holds (Segment.of m image s).2 other = (holds s other || other == image) := by
  obtain ⟨t, answered, next, unchanged⟩ := keeps.query given
  cases present : holds s image with
  | true =>
      have found : Segment.of m image s = (.found image, t) := by
        simp only [Segment.of, answered, present]
      rw [found]
      refine ⟨rfl, next, ?_⟩
      intro other
      rw [unchanged]
      by_cases same : other = image <;> simp [same, present]
  | false =>
      rcases pulled : m.answer (.pull image) t with ⟨fault | _, u⟩
      · simp only [Segment.of, answered, present, pulled] at passed
        cases passed
      · have fetched : Segment.of m image s = (.fetched image, u) := by
          simp only [Segment.of, answered, present, pulled]
        obtain ⟨later, grown⟩ := next.pull given pulled
        rw [unchanged] at grown
        rw [fetched]
        exact ⟨rfl, later, grown⟩

theorem fills (m : Machine runtime σ) (asked : Image → Prop) (holds : σ → Image → Bool) :
    m.Fills asked (m.KeepsStore asked holds) holds fun _ => true where
  pulls image _ given keeps passed := (keeps.segment_of given passed).1
  stays image _ given keeps passed := (keeps.segment_of given passed).2.1
  holds image _ given keeps passed other := by
    rw [(keeps.segment_of given passed).2.2 other, Bool.and_true]

theorem takeInventory_silent (keeps : m.KeepsStore asked holds s) {choices : List Choice}
    (given : ∀ choice ∈ choices, asked choice.image) :
    ∃ t, (m.QueriesLeaveNoTrace asked s → m.Alike t s) ∧
      ((takeInventory choices).run.run m s).silent =
        ((choices.map fun choice => (choice, holds s choice.image)).map Inventory.queried,
          .ok (choices.map fun choice => (choice, holds s choice.image)), t) := by
  induction choices generalizing s with
  | nil => exact ⟨s, fun _ => .refl m s, rfl⟩
  | cons choice choices ih =>
      have first := query_silent m choice.image s
      have own : asked choice.image := given choice List.mem_cons_self
      obtain ⟨u, answered, next, unchanged⟩ := keeps.query own
      rw [answered] at first
      obtain ⟨t, alike, rest⟩ := ih next fun later member => given later (by simp [member])
      rw [unchanged] at rest
      refine ⟨t, ?_, ?_⟩
      · intro quiet
        have back := quiet [] choice.image nofun own
        have asking : About asked [.query choice.image] := .single own
        have onward := quiet.after asking
        rw [Machine.after_nil, answered] at back
        rw [Machine.after_cons, Machine.after_nil, answered] at onward
        exact (alike onward).trans back
      · apply Attempt.silent_bind_ok m first
        rw [← List.append_nil (List.map Inventory.queried _)]
        exact Attempt.silent_bind_ok m rest (Attempt.silent_pure m _ t)

/-- What keeps a store keeps one through whatever passes its calls on. -/
theorem of_simulates {n : Machine runtime τ} {related : σ → τ → Prop} {allowed : Call → Prop}
    {asked' : Image → Prop} {holds' : τ → Image → Bool} {t : τ}
    (simulates : m.Simulates n related allowed) (keeps : n.KeepsStore asked' holds' t)
    (start : related s t) (same : ∀ s t, related s t → holds s = holds' t)
    (narrow : ∀ image, asked image → asked' image)
    (may : ∀ call : Call, asked call.image → allowed call) : m.KeepsStore asked holds s := by
  have onward (calls : List Call) (about : About asked calls) :
      related (m.after s calls) (n.after t calls) :=
    simulates.after start fun call member => may call (about call member)
  have wide {calls : List Call} (about : About asked calls) : About asked' calls :=
    fun call member => narrow _ (about call member)
  constructor
  · intro calls image about given
    have here := onward calls about
    rw [simulates.answer _ _ _ (may (.query image) given) here, same _ _ here,
      keeps.answer_query calls image (wide about) (narrow image given)]
  · intro calls image about given
    have here := onward calls about
    rw [same _ _ (simulates.state _ _ _ (may (.query image) given) here), same _ _ here,
      keeps.holds_query calls image (wide about) (narrow image given)]
  · intro calls image about given pulled
    have here := onward calls about
    rw [simulates.answer _ _ _ (may (.pull image) given) here] at pulled
    rw [same _ _ (simulates.state _ _ _ (may (.pull image) given) here), same _ _ here]
    exact keeps.holds_pull calls image (wide about) (narrow image given) pulled

end Machine.KeepsStore

theorem Scripted.machine_keepsStore {s : State}
    (rules : ∀ reference, (s.rule reference).queryFault = none ∧ (s.rule reference).keeps = true) :
    machine.KeepsStore (fun _ => True) (fun t image => t.present.contains image.reference) s := by
  have lasting (calls : List Call) (reference : String) :
      ((machine.after s calls).rule reference).queryFault = none ∧
        ((machine.after s calls).rule reference).keeps = true := by
    rw [State.rule, rules_after]
    exact rules reference
  constructor
  · intro calls image _ _
    have told := (lasting calls image.reference).1
    generalize machine.after s calls = t at told ⊢
    simp only [machine, query, told]
  · intro calls image _ _
    rfl
  · intro calls image _ _ pulled other
    have kept := (lasting calls image.reference).2
    generalize machine.after s calls = t at kept pulled ⊢
    simp only [machine, pull] at pulled ⊢
    split at pulled
    · cases pulled
    · rw [if_pos kept, Store.contains_insert, Bool.or_comm, Bool.eq_iff_iff]
      simp only [Bool.or_eq_true, beq_iff_eq, Image.eq_iff]

/-- A program with no response of its own to a query, and with none to a pull that is not stored. -/
structure StandIn.Plain (p : StandIn) : Prop where
  queries : p.queries = []
  pulls : ∀ reference, ((p.pulls.lookup reference).getD {}).keeps = true

theorem StandIn.Plain.after {p : StandIn} (plain : p.Plain) (calls : List Call) :
    (machine.after p calls).Plain := by
  apply machine.after_induction Plain _ p plain calls
  intro call p plain
  cases call with
  | query image => exact plain
  | pull image =>
      simp only [machine, pull]
      split
      · exact ⟨plain.queries, plain.pulls⟩
      · exact plain

theorem StandIn.status_of_pull_eq_ok {p : StandIn} {image : Image}
    (pulled : (machine.answer (.pull image) p).1 = .ok ()) :
    ((p.pulls.lookup image.reference).getD {}).status.success = true := by
  cases ended : ((p.pulls.lookup image.reference).getD {}).status.success with
  | true => rfl
  | false =>
      simp only [machine, pull, ended] at pulled
      cases pulled

theorem StandIn.machine_keepsStore {p : StandIn} (plain : p.Plain) :
    machine.KeepsStore (fun _ => True) (fun p image => p.present.contains image.reference) p := by
  constructor
  · intro calls image _ _
    have lasting := (plain.after calls).queries
    generalize machine.after p calls = p at lasting ⊢
    have shown : Response.showsImage { output := Text.Utf8.encode "sha256:0123abcd\n" } = true := by
      decide +kernel
    have silent : Response.showsImage {} = false := by decide +kernel
    simp only [machine, query, lasting, List.lookup_nil]
    split
    · next present => rw [shown, present]
    · next absent =>
        rw [Bool.not_eq_true] at absent
        rw [silent, absent]
  · intro calls image _ _
    rfl
  · intro calls image _ _ pulled other
    have kept := (plain.after calls).pulls image.reference
    have success := status_of_pull_eq_ok pulled
    generalize machine.after p calls = p at kept success ⊢
    simp only [machine, pull, success, kept, Bool.and_self, if_true, Store.contains_insert]
    rw [Bool.or_comm, Bool.eq_iff_iff]
    simp only [Bool.or_eq_true, beq_iff_eq, Image.eq_iff]

namespace Workspace

def holdsAt (l : Location) (w : Workspace) (image : Image) : Bool :=
  (w.programs.lookup l).any fun p => p.present.contains image.reference

def TakesImage (w : Workspace) (e : Engine) (path : String) (image : Image) : Prop :=
  Takes w e path (.query image) ∧ Takes w e path (.pull image)

instance (w : Workspace) (e : Engine) (path : String) (image : Image) :
    Decidable (w.TakesImage e path image) :=
  inferInstanceAs (Decidable (_ ∧ _))

/-- A program keeps its store when it is called through commands, as far as its words can be given
to it. -/
theorem on_machine_keepsStore {w v : Workspace} {e : Engine} {path : String} {l : Location}
    {p : StandIn} (runs : Runs w e path l) (hosts : Hosts w l v p) (plain : p.Plain) :
    (e.on machine).KeepsStore (TakesImage w e path) (holdsAt l) v := by
  apply Machine.KeepsStore.of_simulates (simulates runs) (StandIn.machine_keepsStore plain) hosts
  · intro v p hosts
    funext image
    rw [holdsAt, hosts.program]
    rfl
  · exact fun _ _ => trivial
  · intro call takes
    cases call with
    | query image => exact takes.1
    | pull image => exact takes.2

end Workspace

end ImageStock
