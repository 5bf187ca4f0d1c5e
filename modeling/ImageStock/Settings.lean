import ImageStock.Dialogue
import ImageStock.Engine
import ImageStock.ProjectFile.Basic

/-!
The settings of a run, put together from several layers.
-/

namespace ImageStock

structure Settings where
  commandLine : String
  catalog : Catalog
  deriving DecidableEq, Repr

namespace Settings

/-- The container command of the first layer that gives one which is not blank. -/
def chooseCommandLine (layers : List (Option String)) : String :=
  ((layers.reduceOption).find? fun line => ! Text.allBlank line).getD defaultCommandLine

/-- The layers from the strongest to the weakest: the command line, the environment, the project
file and the user's file. Only the project file can bring a catalog. -/
def merge (flag env : Option String) (project : Option ProjectFile) (user : UserFile) :
    Except Failure Settings := do
  let project := project.getD {}
  let catalog ← match project.images with
    | some images => images.toCatalog
    | none => .ok .builtIn
  return {
    commandLine := chooseCommandLine
      [flag, env, project.runtime.bind (·.commandLine), user.commandLine]
    catalog }

def mergeAloud {I : Interface} (flag env : Option String) (project : Option ProjectFile)
    (user : UserFile) : Attempt I Failure Settings := do
  let settings ← Attempt.ofExcept (merge flag env project user)
  Attempt.notice (.usingCommand settings.commandLine)
  return settings

def engine (s : Settings) : Except Failure Engine :=
  match Engine.ofCommandLine? s.commandLine with
  | some engine => .ok engine
  | none => .error (.of .emptyCommand)

end Settings

structure Plan where
  choices : List Choice
  engine : Engine
  deriving DecidableEq, Repr

namespace Plan

def images (p : Plan) : List Image := p.choices.map (·.image)

end Plan

def Settings.plan (s : Settings) (env : Lookup) : Except Failure Plan := do
  let choices ← s.catalog.resolve env
  let engine ← s.engine
  return { choices, engine }

end ImageStock
