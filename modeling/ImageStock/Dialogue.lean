import ImageStock.Notice

/-!
Dialogues: computations that report, print and put requests to someone else, and go on with the
answers. A dialogue is run against a machine that answers from a state. Main statements: a run of
two dialogues in sequence is the two runs in sequence, and so is a change of the requests.
-/

namespace ImageStock

structure Interface where
  Request : Type
  Answer : Request → Type

/-- A report, a text for the output of the run, or one for its error output. -/
inductive Utterance where
  | notice (n : Notice)
  | printed (text : String)
  | warned (text : String)
  deriving Repr

inductive Dialogue (I : Interface) (α : Type) where
  | done (value : α)
  | tell (utterance : Utterance) (rest : Dialogue I α)
  | ask (request : I.Request) (rest : I.Answer request → Dialogue I α)

namespace Dialogue

variable {I J : Interface} {α β : Type}

def bind : Dialogue I α → (α → Dialogue I β) → Dialogue I β
  | done a, f => f a
  | tell u d, f => tell u (d.bind f)
  | ask q k, f => ask q fun a => (k a).bind f

instance : Monad (Dialogue I) where
  pure := done
  bind := bind

def notice (n : Notice) : Dialogue I Unit := tell (.notice n) (done ())

def print (text : String) : Dialogue I Unit := tell (.printed text) (done ())

def warn (text : String) : Dialogue I Unit := tell (.warned text) (done ())

def request (q : I.Request) : Dialogue I (I.Answer q) := ask q done

/-- Replaces each request by a dialogue that finds the answer in another way. -/
def through (answer : (q : I.Request) → Dialogue J (I.Answer q)) : Dialogue I α → Dialogue J α
  | done a => done a
  | tell u d => tell u (d.through answer)
  | ask q k => (answer q).bind fun a => (k a).through answer

end Dialogue

/-- Someone who answers, from a state that each answer may change. -/
structure Machine (I : Interface) (σ : Type) where
  answer : (q : I.Request) → σ → I.Answer q × σ

inductive Event (I : Interface) where
  | told (utterance : Utterance)
  | asked (request : I.Request) (answer : I.Answer request)

structure Run (I : Interface) (σ α : Type) where
  events : List (Event I)
  value : α
  state : σ

namespace Dialogue

variable {I : Interface} {σ α β : Type}

def run (m : Machine I σ) : Dialogue I α → σ → Run I σ α
  | done a, s => ⟨[], a, s⟩
  | tell u d, s => let r := d.run m s; { r with events := .told u :: r.events }
  | ask q k, s =>
    let (a, s) := m.answer q s
    let r := (k a).run m s
    { r with events := .asked q a :: r.events }

theorem run_bind (m : Machine I σ) (d : Dialogue I α) (f : α → Dialogue I β) (s : σ) :
    (d.bind f).run m s =
      let first := d.run m s
      let second := (f first.value).run m first.state
      { second with events := first.events ++ second.events } := by
  induction d generalizing s with
  | done a => rfl
  | tell u d ih => simp [bind, run, ih]
  | ask q k ih => simp [bind, run, ih]

end Dialogue

namespace Run

variable {I : Interface} {σ α : Type}

def utterances (r : Run I σ α) : List Utterance :=
  r.events.filterMap fun
    | .told u => some u
    | .asked .. => none

def notices (r : Run I σ α) : List Notice :=
  r.utterances.filterMap fun
    | .notice n => some n
    | .printed _ | .warned _ => none

def requests (r : Run I σ α) : List I.Request :=
  r.events.filterMap fun
    | .told _ => none
    | .asked q _ => some q

end Run

abbrev Attempt (I : Interface) (ε : Type) := ExceptT ε (Dialogue I)

namespace Attempt

variable {I : Interface} {ε ε' α : Type}

def notice (n : Notice) : Attempt I ε Unit := ExceptT.lift (Dialogue.notice n)

def print (text : String) : Attempt I ε Unit := ExceptT.lift (Dialogue.print text)

def ofExcept (r : Except ε α) : Attempt I ε α := ExceptT.mk (.done r)

def mapError (f : ε → ε') (d : Attempt I ε α) : Attempt I ε' α :=
  ExceptT.mk (d.run.bind fun r => .done (r.mapError f))

end Attempt

end ImageStock
