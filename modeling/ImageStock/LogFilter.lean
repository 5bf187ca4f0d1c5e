import ImageStock.Notice
import ImageStock.Number.Written
import ImageStock.Text.Pattern

/-!
Filters for notices: directives that give parts of the program a level up to which they report.
-/

namespace ImageStock

inductive Verbosity where
  | off
  | upTo (level : Level)
  | most
  deriving DecidableEq, Repr

def Level.rank : Level → Nat
  | error => 1
  | warn => 2
  | info => 3
  | debug => 4

namespace Verbosity

def rank : Verbosity → Nat
  | off => 0
  | upTo level => level.rank
  | most => 5

def allows (v : Verbosity) (level : Level) : Bool := level.rank ≤ v.rank

def ofRank? : Nat → Option Verbosity
  | 0 => some off
  | 1 => some (upTo .error)
  | 2 => some (upTo .warn)
  | 3 => some (upTo .info)
  | 4 => some (upTo .debug)
  | 5 => some most
  | _ => none

def number? (s : List Char) : Option Nat :=
  let digits := match s with
    | '+' :: rest => rest
    | s => s
  if digits.isEmpty || digits.any (fun c => !('0' ≤ c && c ≤ '9')) then none
  else some (digits.foldl (fun n c => 10 * n + (c.toNat - '0'.toNat)) 0)

def ofString? (s : List Char) : Option Verbosity :=
  match (number? s).bind ofRank? with
  | some v => some v
  | none =>
    match String.ofList (s.map Char.toLower) with
    | "off" => some off
    | "error" | "" => some (upTo .error)
    | "warn" => some (upTo .warn)
    | "info" => some (upTo .info)
    | "debug" => some (upTo .debug)
    | "trace" => some most
    | _ => none

end Verbosity

namespace LogFilter

/-- Gives a verbosity to the parts of the program whose names start with `target`; with a `field`
only to notices that have the field. A directive that is limited to a span of work, or to values of
a field, concerns no notice. -/
structure Directive where
  target : String := ""
  field : Option String := none
  limited : Bool := false
  verbosity : Verbosity := .most
  deriving DecidableEq, Repr

inductive DirectiveError where
  | unknownLevel
  | invalid
  | unusableValue (fault : Text.Pattern.Fault)
  deriving DecidableEq, Repr

def DirectiveError.message : DirectiveError → String
  | unknownLevel =>
    "error parsing level filter: expected one of \"off\", \"error\", \"warn\", \"info\", " ++
      "\"debug\", \"trace\", or a number 0-5"
  | invalid => "invalid filter directive"
  | unusableValue .malformed => "invalid field filter: error building NFA"
  | unusableValue .wordBoundary =>
    "invalid field filter: unsupported regex feature for DFAs: cannot build DFAs for regexes " ++
      "with Unicode word boundaries; switch to ASCII word boundaries, or heuristically enable " ++
      "Unicode word boundaries or use a different regex engine"

def slice (start stop : Nat) (s : List Char) : List Char := take (stop - start) (drop start s)
where
  drop : Nat → List Char → List Char
    | 0, cs => cs
    | _, [] => []
    | n, c :: cs => drop (n - c.utf8Size) cs
  take : Nat → List Char → List Char
    | 0, _ => []
    | _, [] => []
    | n, c :: cs => c :: take (n - c.utf8Size) cs

def byteCount (s : List Char) : Nat := s.foldl (fun n c => n + c.utf8Size) 0

def withField (directive : Directive) (field : List Char) : Except DirectiveError Directive :=
  let name := String.ofList (field.takeWhile (· != '='))
  match field, field.dropWhile (· != '=') with
  | [], _ => .error .invalid
  | _, [] => .ok { directive with field := some name }
  | _, _ :: rest =>
    let value := rest.takeWhile (· != '=')
    match if isWrittenNumber value then none else Text.Pattern.fault? value with
    | some fault => .error (.unusableValue fault)
    | none => .ok { directive with field := some name, limited := true }

def withLevel (directive : Directive) (rest level : List Char) : Except DirectiveError Directive :=
  match rest with
  | [] => .ok directive
  | '=' :: _ =>
    if level.isEmpty then .ok directive
    else match Verbosity.ofString? level with
      | some verbosity => .ok { directive with verbosity }
      | none => .error .unknownLevel
  | _ => .error .invalid

/-- A directive is a level, or a target with limits and a level after it, each of which may be left
out. The limits are the name of a span and a field in braces, between square brackets. White space
at the ends is passed over in the search for the signs, whose places then count from the start of
`s`, white space and all. -/
def parseDirective (s : List Char) : Except DirectiveError Directive := do
  let trimmed := Text.trim s
  let size := byteCount s
  match trimmed.head? with
  | some c =>
    if !(Text.alphanumeric.contains c || c == '-' || c == ':' || c == '_' || c == '[') then
      throw .invalid
  | none => throw .invalid
  let beforeSigns := trimmed.takeWhile fun c => c != '=' && c != '['
  let targetStop := byteCount beforeSigns
  let target := String.ofList (slice 0 targetStop s)
  match trimmed.drop beforeSigns.length with
  | '[' :: limits =>
    let span := limits.takeWhile fun c => c != ']' && c != '\x7b'
    let spanStart := targetStop + 1
    let spanStop := spanStart + byteCount span
    match limits.drop span.length with
    | '\x7b' :: fields =>
      let field := fields.takeWhile (· != '\x7d')
      let fieldStart := spanStop + 1
      let fieldStop := fieldStart + byteCount field
      match fields.drop field.length with
      | '\x7d' :: rest =>
        let limited := !(slice spanStart spanStop s).isEmpty
        let directive ← withField { target, limited } (slice fieldStart fieldStop s)
        match rest with
        | ']' :: rest => withLevel directive rest (slice (fieldStop + 3) size s)
        | _ => throw .invalid
      | _ => throw .invalid
    | ']' :: rest => withLevel { target, limited := true } rest (slice (spanStop + 2) size s)
    | _ => throw .invalid
  | [] =>
    match Verbosity.ofString? s with
    | some verbosity => return { verbosity }
    | none => return { target := String.ofList s }
  | rest => withLevel { target } rest (slice (targetStop + 1) size s)

end LogFilter

structure LogFilter where
  directives : List LogFilter.Directive
  deriving DecidableEq, Repr

namespace LogFilter

/-- A filter out of directives with commas between them, and a remark on each that is not one.
Without any directive only errors are reported. -/
def parse (s : String) : LogFilter × List String :=
  let pieces := (Text.splitOn (· == ',') s.toList).filter (! ·.isEmpty)
  let results := pieces.map fun piece => (piece, parseDirective piece)
  let directives := results.filterMap (·.2.toOption)
  let remarks := results.filterMap fun (piece, r) =>
    match r with
    | .ok _ => none
    | .error e => some s!"ignoring `{String.ofList piece}`: {e.message}"
  (⟨if directives.isEmpty then [{ verbosity := .upTo .error }] else directives⟩, remarks)

def noticeField : String := "message"

def Directive.concerns (d : Directive) (n : Notice) : Bool :=
  !d.limited && n.target.startsWith d.target && (d.field.getD noticeField == noticeField)

/-- The more of the target a directive names, the more it counts, and then one with a field. -/
def Directive.isMoreSpecific (d e : Directive) : Bool :=
  let (m, n) := (d.target.utf8ByteSize, e.target.utf8ByteSize)
  n < m || (m == n && d.field.isSome && e.field.isNone)

def mostSpecific : List Directive → Option Directive
  | [] => none
  | d :: ds =>
    match mostSpecific ds with
    | some e => if d.isMoreSpecific e then some d else some e
    | none => some d

def allows (f : LogFilter) (n : Notice) : Bool :=
  match mostSpecific (f.directives.filter (·.concerns n)) with
  | some d => d.verbosity.allows n.level
  | none => false

end LogFilter

end ImageStock
