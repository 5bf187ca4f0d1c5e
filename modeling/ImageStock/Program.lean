import ImageStock.Host
import ImageStock.Inventory
import ImageStock.Invocation.Help
import ImageStock.Invocation.Parse
import ImageStock.LogFilter
import ImageStock.Provision

/-!
The program: what each action does on a host, and what status a call of the program ends with.
Images and engine are settled before the first command is started.
-/

namespace ImageStock

namespace Plan

def checkAvailable (p : Plan) : Attempt shell Failure Unit :=
  p.engine.checkAvailable.mapError Failure.ofFault

def serve {α : Type} (p : Plan) (d : Attempt runtime Fault α) : Attempt shell Failure α :=
  (p.engine.serve d).mapError Failure.ofFault

def pull (p : Plan) : Attempt shell Failure Tally := do
  p.choices.forM fun choice => Attempt.notice (.chosen choice.name choice.image)
  p.serve (provide p.engine.program p.images)

def list (p : Plan) : Attempt shell Failure Unit := do
  let inventory ← p.serve (takeInventory p.choices)
  Attempt.print (Inventory.render inventory)

end Plan

namespace Settings

/-- The plan of the settings, once its engine is known to be available. -/
def prepare (s : Settings) (env : Lookup) : Attempt shell Failure Plan := do
  let plan ← Attempt.ofExcept (s.plan env)
  plan.checkAvailable
  return plan

def pull (s : Settings) (env : Lookup) : Attempt shell Failure Tally := do
  (← s.prepare env).pull

def list (s : Settings) (env : Lookup) : Attempt shell Failure Unit := do
  (← s.prepare env).list

end Settings

namespace Host

def perform (i : Invocation) : Work shell Unit := do
  let h ← get
  match i.action with
  | .init force =>
    let _ ← initialise h.here force
    return
  | .pull => Work.ofAttempt do
    let settings ← h.loadSettings i.config i.containerCommand
    let _ ← settings.pull h.env
    return
  | .list => Work.ofAttempt do
    let settings ← h.loadSettings i.config i.containerCommand
    settings.list h.env
    return

def logFilter (h : Host) : LogFilter × List String :=
  LogFilter.parse ((h.env "RUST_LOG").getD "info")

def readable (h : Host) (arguments : List Invocation.Argument) : List String :=
  let explicit := match Invocation.parse arguments with
    | .ok invocation => invocation.config
    | .error _ => none
  explicit.toList ++ h.userFilePath.toList ++
    [projectFileName, hiddenProjectFileName].map (h.join h.here)

/-- A call of the program with its arguments: the status that it ends with, and the host as it is
then. -/
def call (h : Host) (arguments : List Invocation.Argument) : Dialogue shell (Int × Host) := do
  h.logFilter.2.forM fun remark => Dialogue.warn (remark ++ "\n")
  match Invocation.parse arguments with
  | .error (.help scope) =>
    Dialogue.print scope.help
    return (0, h)
  | .error .version =>
    Dialogue.print Invocation.versionText
    return (0, h)
  | .error (.refusal r) =>
    Dialogue.warn r.message
    return (2, h)
  | .ok invocation =>
    match ← (perform invocation).run.run h with
    | (.ok _, after) => return (0, after)
    | (.error failure, after) =>
      Dialogue.notice (.failed failure)
      return (failure.exitCode, after)

end Host

end ImageStock
