import ImageStock.Toml.Malformed
import ImageStock.Toml.Printer
import ImageStock.Toml.Value

/-!
Documents as trees that remember how each table came about and where everything stands. Tables can
be extended by later parts of a document, within limits that depend on how they came about.
-/

namespace ImageStock.Toml

structure Key where
  name : String
  span : Span
  deriving DecidableEq, Repr

/-- How a table came about: written between braces, as part of a dotted key within braces, under a
header of its own, on the way to another header, or as part of a dotted key. -/
inductive Form where
  | braces
  | dottedInBraces
  | header
  | implied
  | dotted
  deriving DecidableEq, Repr

namespace Form

def isBraced : Form → Bool
  | braces | dottedInBraces => true
  | header | implied | dotted => false

def isDotted : Form → Bool
  | dottedInBraces | dotted => true
  | braces | header | implied => false

def isImplicit : Form → Bool
  | dottedInBraces | implied | dotted => true
  | braces | header => false

end Form

inductive Node where
  | scalar (s : Scalar) (span : Span)
  | array (items : List Node) (span : Span)
  | table (form : Form) (entries : List (Key × Node)) (span : Option Span)
  /-- The tables under repeated headers between double brackets. -/
  | tables (items : List Node) (span : Option Span)
  deriving Repr

abbrev Entries := List (Key × Node)

mutual

def Node.toValue : Node → Value
  | .scalar s _ => .scalar s
  | .array items _ => .array (itemValues items)
  | .table _ entries _ => .table (entryValues entries)
  | .tables items _ => .array (itemValues items)

def itemValues : List Node → List Value
  | [] => []
  | n :: ns => n.toValue :: itemValues ns

def entryValues : List (Key × Node) → Table
  | [] => []
  | (k, n) :: rest => (k.name, n.toValue) :: entryValues rest

end

namespace Node

def span? : Node → Option Span
  | scalar _ span | array _ span => some span
  | table _ _ span | tables _ span => span

def child? : Node → Step → Option (Option Key × Node)
  | table _ entries _, .key name =>
    (entries.find? (·.1.name = name)).map fun (k, n) => (some k, n)
  | array items _, .item i | tables items _, .item i => items[i]?.map (none, ·)
  | _, _ => none

def spanAt? : Node → List Step → Option Span
  | n, [] => n.span?
  | n, step :: path =>
    (n.child? step).bind fun (key, child) =>
      child.spanAt? path <|> child.span? <|> key.map (·.span)

def kind : Node → String
  | scalar (.text _) _ => "string"
  | scalar (.integer _) _ => "integer"
  | scalar (.float _) _ => "float"
  | scalar (.boolean _) _ => "boolean"
  | scalar (.moment _) _ => "datetime"
  | array .. => "array"
  | table .. => "inline table"
  | tables .. => "array of tables"

end Node

/-- Why a part of a document does not fit what stands before it: a name is taken, the last name of
a header is taken, or a key leads through something that is not a table. -/
inductive Clash where
  | duplicate (key : String) (table : Option (List String))
  | redefined (key : String) (table : List String)
  | notATable (path : List String) (kind : String)
  deriving DecidableEq, Repr

def dottedName (path : List String) : String := ".".intercalate path

def duplicateIn (key : String) : List String → String
  | [] => s!"duplicate key `{key}` in document root"
  | table => s!"duplicate key `{key}` in table `{dottedName table}`"

/-- The last name of a header is given as it is written in a document, all others are bare. -/
def Clash.message : Clash → String
  | duplicate key none => s!"duplicate key `{key}`"
  | duplicate key (some table) => duplicateIn key table
  | redefined key table => duplicateIn (String.ofList (writeKey key.toList)) table
  | notATable path kind =>
    s!"dotted key `{dottedName path}` attempted to extend non-table type ({kind})"

namespace Entries

def get? (entries : Entries) (name : String) : Option Node :=
  (entries.find? (·.1.name = name)).map (·.2)

def replace (entries : Entries) (name : String) (node : Node) : Entries :=
  entries.map fun (k, n) => if k.name = name then (k, node) else (k, n)

def remove (entries : Entries) (name : String) : Entries :=
  entries.filter (·.1.name ≠ name)

/-- Changes the table that `path` leads to from a table. Tables on the way are made where they are
missing. `braced` says that all this is within braces, `dotted` that `path` is part of a dotted
key; such a key does not lead into a table that has a header or braces. -/
def descend {β : Type} (braced dotted : Bool) (before : List String) (form : Form)
    (entries : Entries) :
    List Key → (Form → Entries → Except Clash (Entries × β)) → Except Clash (Entries × β)
  | [], change => change form entries
  | key :: path, change =>
    let before := before ++ [key.name]
    match entries.get? key.name with
    | none => do
      let form := if braced then .dottedInBraces else if dotted then .dotted else .implied
      let (inner, result) ← descend braced dotted before form [] path change
      return (entries ++ [(key, .table form inner none)], result)
    | some (.table form inner span) =>
      if form.isBraced && !braced then .error (.notATable before "inline table")
      else if dotted && !form.isImplicit then .error (.duplicate key.name none)
      else do
        let (inner, result) ← descend braced dotted before form inner path change
        return (entries.replace key.name (.table form inner span), result)
    | some (.tables items span) =>
      match items.getLast? with
      | some (.table form inner place) => do
        let (inner, result) ← descend braced dotted before form inner path change
        let items := items.dropLast ++ [.table form inner place]
        return (entries.replace key.name (.tables items span), result)
      | _ => .error (.notATable before "array of tables")
    | some other => .error (.notATable before other.kind)

def insert (braced : Bool) (owner : Option (List String)) (form : Form) (entries : Entries)
    (path : List Key) (key : Key) (value : Node) : Except Clash Entries := do
  let (entries, _) ← descend braced (!path.isEmpty) [] form entries path fun form entries =>
    if form.isDotted == path.isEmpty then .error (.duplicate key.name none)
    else if (entries.get? key.name).isSome then .error (.duplicate key.name owner)
    else .ok (entries ++ [(key, value)], ())
  return entries

end Entries

end ImageStock.Toml
