import ImageStock.Invocation.Refusal
import ImageStock.Text.Similarity
import ImageStock.Text.Utf8

/-!
The arguments of a call, read from left to right. A verb ends the arguments of the program and
begins its own. The value of a switch may follow an equals sign or be the next argument, and a
switch is judged only when its value is known to be complete: at the next switch or at the end.
-/

namespace ImageStock.Invocation

structure Argument where
  text : String
  wellFormed : Bool := true
  deriving DecidableEq, Repr

namespace Argument

def ofBytes (bytes : List UInt8) : Argument where
  text := String.ofList (Text.Utf8.decodeLossy bytes)
  wellFormed := (Text.Utf8.decode? bytes).isSome

def long? (a : Argument) : Option (String × Option Argument) :=
  match a.text.toList with
  | '-' :: '-' :: rest =>
    let name := String.ofList (rest.takeWhile (· != '='))
    match rest.dropWhile (· != '=') with
    | _ :: value => some (name, some { a with text := String.ofList value })
    | [] => some (name, none)
  | _ => none

def letter? (a : Argument) : Option Char :=
  match a.text.toList with
  | '-' :: '-' :: _ => none
  | '-' :: letter :: _ => some letter
  | _ => none

end Argument

/-- Why reading ends without an invocation: help or the version are asked for, or the arguments
are refused. -/
inductive Reply where
  | help (scope : Scope)
  | version
  | refusal (r : Refusal)
  deriving DecidableEq, Repr

structure Progress where
  given : List (Switch × Argument) := []
  pending : Option (Switch × Option Argument) := none
  deriving DecidableEq, Repr

namespace Progress

def isAwaiting (p : Progress) : Bool :=
  match p.pending with
  | some (_, none) => true
  | _ => false

def hasGiven (p : Progress) (s : Switch) : Bool := (p.given.lookup s).isSome

def add (scope : Scope) (s : Switch) (value : Argument) (p : Progress) :
    Except Refusal Progress :=
  if p.hasGiven s then .error ⟨scope, .repeated s, none, some scope.usage⟩
  else if s = .config ∧ value.text = "" then .error ⟨scope, .valueMissing s, none, none⟩
  else if s = .containerCommand ∧ !value.wellFormed then
    .error ⟨scope, .notText, none, some scope.usage⟩
  else .ok { p with given := p.given ++ [(s, value)] }

def settle (scope : Scope) (p : Progress) : Except Refusal Progress :=
  match p.pending with
  | none => .ok p
  | some (s, none) => .error ⟨scope, .valueMissing s, none, none⟩
  | some (s, some value) => { p with pending := none }.add scope s value

/-- The switches that a message counts as given. A pending one with a value counts too, but a
second value takes a switch out again. -/
def counted (p : Progress) : List Switch :=
  let complete := p.given.map (·.1)
  match p.pending with
  | some (s, some _) => if p.hasGiven s then complete.filter (· ≠ s) else complete ++ [s]
  | _ => complete

end Progress

def suggestion (scope : Scope) (name : String) (rest : List Argument) : Option Tip :=
  match (Text.similarTo name Switch.name scope.switches).getLast? with
  | some s => some (.similarSwitch s)
  | none =>
    if scope = .program then
      rest.findSome? fun a => do
        let v ← Verb.all.find? (·.name = a.text)
        let s ← (Text.similarTo name Switch.name (Scope.verb v).switches).getLast?
        return .switchOf v s
    else none

def unknownSwitch (scope : Scope) (p : Progress) (name : String) (rest : List Argument) :
    Refusal :=
  let tip := suggestion scope name rest
  let meant := match tip with
    | some (.similarSwitch s) => [s]
    | _ => []
  ⟨scope, .unexpected ("--" ++ name), tip, some (scope.usageWith (p.counted ++ meant))⟩

def takeFlag (scope : Scope) (p : Progress) (s : Switch) : Except Reply Progress := do
  let p ← (p.settle scope).mapError .refusal
  match s with
  | .help => throw (.help scope)
  | .version => throw .version
  | s => (p.add scope s ⟨"", true⟩).mapError .refusal

def takeLong (scope : Scope) (p : Progress) (name : String) (value : Option Argument)
    (rest : List Argument) : Except Reply Progress :=
  match scope.named? name, value with
  | none, _ => .error (.refusal (unknownSwitch scope p name rest))
  | some s, some value =>
    if s.takesValue then do
      let p ← (p.settle scope).mapError .refusal
      (p.add scope s value).mapError .refusal
    else
      .error <| .refusal ⟨scope, .unexpectedValue value.text s, none,
        some (scope.usageGrouping (p.given.map (·.1)) s)⟩
  | some s, none =>
    if s.takesValue then do
      let p ← (p.settle scope).mapError .refusal
      return { p with pending := some (s, none) }
    else takeFlag scope p s

/-- Takes the first letter of short switches, which all end the reading. What is no text from the
first letter on is refused as a whole. -/
def takeShort (scope : Scope) (p : Progress) (a : Argument) (letter : Char) :
    Except Reply Progress :=
  match scope.lettered? letter with
  | some s => takeFlag scope p s
  | none =>
    let shown := if letter = '\uFFFD' ∧ !a.wellFormed then a.text else s!"-{letter}"
    .error <| .refusal ⟨scope, .unexpected shown, none, some scope.usage⟩

def strayWord (scope : Scope) (afterDashes : Bool) (word : String) : Refusal :=
  let refuse (problem : Problem) (tip : Option Tip) : Refusal :=
    ⟨scope, problem, tip, some scope.usage⟩
  if scope ≠ .program then refuse (.unexpected word) none
  else if afterDashes ∧ (Verb.named? word).isSome then
    refuse (.unexpected word) (some (.verbAfterDashes word))
  else
    match Text.similarTo word id (Verb.all.flatMap Verb.names) with
    | [] => refuse (.unknownVerb word) none
    | similar => refuse (.unknownVerb word) (some (.similarVerbs similar))

def helpFor (scope : Scope) : List Argument → Reply
  | [] => .help scope
  | a :: rest =>
    match if scope = .program then Verb.named? a.text else none with
    | some v => helpFor (.verb v) rest
    | none => .refusal ⟨scope, .unknownVerb a.text, none, some scope.usage⟩

def readScope (scope : Scope) (p : Progress) :
    List Argument → Except Reply (Progress × Option (Verb × List Argument))
  | [] => .ok (p, none)
  | a :: rest =>
    match if scope = .program && !p.isAwaiting then Verb.named? a.text else none with
    | some .help => .error (helpFor .program rest)
    | some v => .ok (p, some (v, rest))
    | none =>
      if a.text = "--" then
        match rest with
        | [] => .ok (p, none)
        | next :: _ => .error (.refusal (strayWord scope true next.text))
      else
        match a.long?, a.letter?, p.pending with
        | some (name, value), _, _ => do readScope scope (← takeLong scope p name value rest) rest
        | none, some letter, _ => do readScope scope (← takeShort scope p a letter) rest
        | none, none, some (s, none) => readScope scope { p with pending := some (s, some a) } rest
        | none, none, _ => .error (.refusal (strayWord scope false a.text))

def ofGiven (v : Option Verb) (given : List (Switch × Argument)) : Invocation where
  config := (given.lookup .config).map (·.text)
  containerCommand := (given.lookup .containerCommand).map (·.text)
  action := match v with
    | some .list => .list
    | some .init => .init (given.lookup .force).isSome
    | _ => .pull

/-- Reads all arguments. Where a switch is given both before and after the verb, the later one
counts. -/
def parse (arguments : List Argument) : Except Reply Invocation := do
  let (before, verb) ← readScope .program {} arguments
  match verb with
  | none =>
    let before ← (before.settle .program).mapError .refusal
    return ofGiven none before.given
  | some (v, rest) =>
    let (after, _) ← readScope (.verb v) {} rest
    let after ← (after.settle (.verb v)).mapError .refusal
    let before ← (before.settle .program).mapError .refusal
    return ofGiven (some v) (after.given ++ before.given)

end ImageStock.Invocation
