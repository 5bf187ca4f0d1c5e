import ImageStock.Toml.Expression

/-!
Documents: lines with a key and a value, and headers that open tables.
-/

namespace ImageStock.Toml

/-- A document up to some line: the tables that are finished, and the one that is open. The open
table is that of the document until the first header. -/
structure Draft where
  finished : Entries := []
  header : List Key := []
  /-- The header stands between double brackets. -/
  repeated : Bool := false
  entries : Entries := []
  span : Option Span := none

namespace Draft

def stretch (items : List Node) : Option Span := do
  let first ← items.head? >>= Node.span?
  let last ← items.getLast? >>= Node.span?
  return ⟨first.start, last.stop⟩

def atParent {β : Type} (finished : Entries) (header : List Key)
    (change : Entries → Except Clash (Entries × β)) : Except Clash (Entries × β) :=
  finished.descend false false [] .header header.dropLast fun _ entries => change entries

def close (d : Draft) : Except Clash Entries :=
  match d.header.getLast? with
  | none => .ok d.entries
  | some key => do
    let table := Node.table .header d.entries d.span
    let (entries, _) ← atParent d.finished d.header fun entries =>
      if d.repeated then
        match entries.get? key.name with
        | none => .ok (entries ++ [(key, .tables [table] (stretch [table]))], ())
        | some (.tables items _) =>
          let items := items ++ [table]
          .ok (entries.replace key.name (.tables items (stretch items)), ())
        | some _ => .error (.redefined key.name (d.header.dropLast.map (·.name)))
      else .ok (entries ++ [(key, table)], ())
    return entries

/-- Opens the table of a header. A table that is only implied so far becomes the open one. -/
def openTable (d : Draft) (header : List Key) (key : Key) (span : Span) :
    Except Clash Draft := do
  let (finished, entries) ← atParent (← d.close) header fun entries =>
    match entries.get? key.name with
    | none => .ok (entries, [])
    | some (.table .implied inner _) => .ok (entries.remove key.name, inner)
    | some _ => .error (.redefined key.name (header.dropLast.map (·.name)))
  return { finished, header, entries, span := some span }

def openRepeated (d : Draft) (header : List Key) (key : Key) (span : Span) :
    Except Clash Draft := do
  let (finished, _) ← atParent (← d.close) header fun entries =>
    match entries.get? key.name with
    | none => .ok (entries ++ [(key, .tables [] none)], ())
    | some (.tables ..) => .ok (entries, ())
    | some _ => .error (.redefined key.name (header.dropLast.map (·.name)))
  return { finished, header, repeated := true, span := some span }

def insert (d : Draft) (path : List Key) (key : Key) (value : Node) : Except Clash Draft := do
  let entries ← d.entries.insert false (some (d.header.map (·.name))) .header path key value
  let span := d.span.map fun span => { span with stop := (value.span?.getD span).stop }
  return { d with entries, span }

end Draft

def orClash {α : Type} (cs : List Char) (r : Except Clash α) : Except Stop α :=
  match r with
  | .ok a => .ok a
  | .error clash => stopFor cs clash.message

def readHeader (d : Draft) : Reader Draft := fun cs => label "table header" do
  match cs with
  | '[' :: '[' :: rest =>
    let ((path, key), rest) ← readDottedKey rest
    let (_, rest) ← expecting ["`.`", "`]]`"] do
      let (_, rest') ← readChar ']' rest
      match readChar ']' rest' with
      | .ok result => return result
      | .error _ => stop rest
    let span := ⟨cs.length, rest.length⟩
    let (_, rest) ← readLineRest rest
    return (← orClash cs (d.openRepeated (path ++ [key]) key span), rest)
  | '[' :: c :: rest =>
    let ((path, key), rest) ← readDottedKey (c :: rest)
    let (_, rest) ← expecting ["`.`", "`]`"] (readChar ']' rest)
    let span := ⟨cs.length, rest.length⟩
    let (_, rest) ← readLineRest rest
    return (← orClash cs (d.openTable (path ++ [key]) key span), rest)
  | cs => stop cs

def readAssignment (d : Draft) : Reader Draft := fun cs => do
  let ((path, key), rest) ← readDottedKey cs
  let (_, rest) ← readEquals rest
  let (value, rest) ← readValue (nestingLimit - 1) (dropSpaces rest)
  let (_, rest) ← readLineRest rest
  return (← orClash cs (d.insert path key value), rest)

def readStatement (d : Draft) : Reader Draft
  | '#' :: rest => cut do
    let (_, rest) ← readLineEnd (dropComment ('#' :: rest))
    return (d, rest)
  | '[' :: rest => cut (readHeader d ('[' :: rest))
  | '\n' :: rest => .ok (d, rest)
  | '\r' :: '\n' :: rest => .ok (d, rest)
  | '\r' :: rest => stop ('\r' :: rest)
  | cs => cut (readAssignment d cs)

def readStatements : Nat → Draft → List Char → Except Stop Draft
  | _, d, [] => .ok d
  | 0, _, cs => stop cs
  | fuel + 1, d, cs => do
    let (d, rest) ← readStatement d cs
    readStatements fuel d (dropSpaces rest)

/-- The tree of a document. A byte order mark may stand in front of it. -/
def readDocument (text : List Char) : Except Stop Node := do
  let cs := match text with
    | '\uFEFF' :: rest => rest
    | cs => cs
  let d ← readStatements cs.length {} (dropSpaces cs)
  let entries ← orClash [] d.close
  return .table .header entries none

end ImageStock.Toml
