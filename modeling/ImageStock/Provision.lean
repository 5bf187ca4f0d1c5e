import ImageStock.ContainerRuntime

/-!
Providing images: each one is asked for and, if it is missing, pulled. The first failure ends the
run, and what was pulled before it stays.
-/

namespace ImageStock

inductive Outcome where
  | alreadyPresent
  | pulled
  deriving DecidableEq, Repr

structure Tally where
  alreadyPresent : List Image := []
  pulled : List Image := []
  deriving DecidableEq, Repr

namespace Tally

def total (t : Tally) : Nat := t.alreadyPresent.length + t.pulled.length

def record (image : Image) (outcome : Outcome) (t : Tally) : Tally :=
  match outcome with
  | .alreadyPresent => { t with alreadyPresent := image :: t.alreadyPresent }
  | .pulled => { t with pulled := image :: t.pulled }

end Tally

def ensure (name : String) (image : Image) : Attempt runtime Fault Outcome := do
  if ← ContainerRuntime.query image then
    Attempt.notice (.alreadyPresent image)
    return .alreadyPresent
  else
    Attempt.notice (.pulling image name)
    ContainerRuntime.pull image
    Attempt.notice (.pulled image)
    return .pulled

def ensureEach (name : String) : List Image → Attempt runtime Fault Tally
  | [] => return {}
  | image :: images => do
    let outcome ← ensure name image
    let tally ← ensureEach name images
    return tally.record image outcome

/-- A whole run, with a notice at its start and, if it succeeds, one at its end. -/
def provide (name : String) (images : List Image) : Attempt runtime Fault Tally := do
  Attempt.notice .started
  let tally ← ensureEach name images
  Attempt.notice (.finished tally.total tally.pulled.length tally.alreadyPresent.length)
  return tally

end ImageStock
