/-!
The ways in which the program can be called: its verbs, its switches, and what a call asks for.
-/

namespace ImageStock

inductive Action where
  | pull
  | list
  | init (force : Bool)
  deriving DecidableEq, Repr

structure Invocation where
  config : Option String
  containerCommand : Option String
  action : Action
  deriving DecidableEq, Repr

namespace Invocation

def programName : String := "provision-images"

inductive Verb where
  | pull
  | list
  | init
  | help
  deriving DecidableEq, Repr

namespace Verb

def all : List Verb := [pull, list, init, help]

def name : Verb → String
  | pull => "pull"
  | list => "list"
  | init => "init"
  | help => "help"

def alias? : Verb → Option String
  | list => some "ls"
  | _ => none

def names (v : Verb) : List String := v.name :: v.alias?.toList

def named? (word : String) : Option Verb := all.find? (·.names.contains word)

end Verb

inductive Switch where
  | config
  | containerCommand
  | force
  | help
  | version
  deriving DecidableEq, Repr

namespace Switch

def name : Switch → String
  | config => "config"
  | containerCommand => "container-cli"
  | force => "force"
  | help => "help"
  | version => "version"

def placeholder? : Switch → Option String
  | config => some "CONFIG"
  | containerCommand => some "CONTAINER_CLI"
  | force | help | version => none

def takesValue (s : Switch) : Bool := s.placeholder?.isSome

def letter? : Switch → Option Char
  | help => some 'h'
  | version => some 'V'
  | config | containerCommand | force => none

def shown (s : Switch) : String :=
  "--" ++ s.name ++ (s.placeholder?.map fun p => s!" <{p}>").getD ""

end Switch

inductive Scope where
  | program
  | verb (v : Verb)
  deriving DecidableEq, Repr

namespace Scope

def switches : Scope → List Switch
  | program => [.config, .containerCommand, .help, .version]
  | verb .init => [.config, .force, .containerCommand, .help]
  | verb .help => []
  | verb _ => [.config, .containerCommand, .help]

def own : Scope → List Switch
  | program => [.config, .containerCommand]
  | verb .init => [.force]
  | verb _ => []

def named? (scope : Scope) (name : String) : Option Switch :=
  scope.switches.find? (·.name = name)

def lettered? (scope : Scope) (letter : Char) : Option Switch :=
  scope.switches.find? (·.letter? = some letter)

def path : Scope → String
  | program => programName
  | verb v => s!"{programName} {v.name}"

def usage (scope : Scope) : String :=
  scope.path ++ match scope with
    | program => " [OPTIONS] [COMMAND]"
    | verb .help => " [COMMAND]..."
    | verb _ => " [OPTIONS]"

def usageWith (scope : Scope) (switches : List Switch) : String :=
  if switches.isEmpty then scope.usage
  else " ".intercalate (scope.path :: switches.eraseDups.map Switch.shown)

/-- The usage with the switches of a call in it, where the own ones of the scope are shown together
as alternatives as soon as one of them has been `given` before `s`. -/
def usageGrouping (scope : Scope) (given : List Switch) (s : Switch) : String :=
  let grouped := given.any (scope.own.contains ·)
  let single := (given ++ [s]).eraseDups.filter fun s => !(grouped && scope.own.contains s)
  let group := "<" ++ "|".intercalate (scope.own.map Switch.shown) ++ ">"
  " ".intercalate (scope.path :: single.map Switch.shown ++ if grouped then [group] else [])

end Scope

end Invocation

end ImageStock
