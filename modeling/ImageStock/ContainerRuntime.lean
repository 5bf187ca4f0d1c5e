import ImageStock.Dialogue

/-!
Container runtimes, as far as providing images needs them.
-/

namespace ImageStock

inductive Call where
  | query (image : Image)
  | pull (image : Image)
  deriving DecidableEq, Repr

namespace Call

def image : Call → Image
  | query image | pull image => image

abbrev Answer : Call → Type
  | query _ => Except Fault Bool
  | pull _ => Except Fault Unit

end Call

abbrev runtime : Interface := ⟨Call, Call.Answer⟩

namespace ContainerRuntime

def query (image : Image) : Attempt runtime Fault Bool :=
  ExceptT.mk (Dialogue.request (I := runtime) (.query image))

def pull (image : Image) : Attempt runtime Fault Unit :=
  ExceptT.mk (Dialogue.request (I := runtime) (.pull image))

end ContainerRuntime

end ImageStock
