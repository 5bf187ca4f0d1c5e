import ImageStock.Invocation.Basic

/-!
Why a call of the program is refused, and what is said about it.
-/

namespace ImageStock.Invocation

inductive Problem where
  | unexpected (argument : String)
  | unexpectedValue (value : String) (s : Switch)
  | valueMissing (s : Switch)
  | repeated (s : Switch)
  | notText
  | unknownVerb (word : String)
  deriving DecidableEq, Repr

inductive Tip where
  | verbAfterDashes (word : String)
  | similarVerbs (names : List String)
  | similarSwitch (s : Switch)
  | switchOf (v : Verb) (s : Switch)
  deriving DecidableEq, Repr

structure Refusal where
  scope : Scope
  problem : Problem
  tip : Option Tip := none
  usage : Option String := some scope.usage
  deriving DecidableEq, Repr

def Problem.message : Problem → String
  | unexpected argument => s!"unexpected argument '{argument}' found"
  | unexpectedValue value s =>
    s!"unexpected value '{value}' for '{s.shown}' found; no more were expected"
  | valueMissing s => s!"a value is required for '{s.shown}' but none was supplied"
  | repeated s => s!"the argument '{s.shown}' cannot be used multiple times"
  | notText => "invalid UTF-8 was detected in one or more arguments"
  | unknownVerb word => s!"unrecognized subcommand '{word}'"

def Tip.message : Tip → String
  | verbAfterDashes word =>
    s!"subcommand '{word}' exists; to use it, remove the '--' before it"
  | similarVerbs [name] => s!"a similar subcommand exists: '{name}'"
  | similarVerbs names =>
    "some similar subcommands exist: " ++ ", ".intercalate (names.map fun n => s!"'{n}'")
  | similarSwitch s => s!"a similar argument exists: '--{s.name}'"
  | switchOf v s => s!"'{v.name} --{s.name}' exists"

def Scope.pointer (scope : Scope) : String :=
  if scope.switches.contains .help then "\n\nFor more information, try '--help'.\n" else "\n"

def Refusal.message (r : Refusal) : String :=
  s!"error: {r.problem.message}" ++ (r.tip.map fun t => s!"\n\n  tip: {t.message}").getD "" ++
    (r.usage.map fun u => s!"\n\nUsage: {u}").getD "" ++ r.scope.pointer

end ImageStock.Invocation
