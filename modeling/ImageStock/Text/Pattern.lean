import ImageStock.Text.Alphanumeric
import ImageStock.Text.Blank
import ImageStock.Text.Hex

/-!
Patterns that values are compared with: characters, classes of characters, groups, alternatives and
repetitions. Here it is decided whether an automaton can be built for a pattern. For that it has to
be well formed, and to mean the same without the tables of Unicode and without a look at the
characters around a place. Repetitions with a count do not occur, since no pattern holds a closing
brace.
-/

namespace ImageStock.Text.Pattern

inductive Fault where
  | malformed
  | wordBoundary
  deriving DecidableEq, Repr

/-- How a part of a pattern is to be read. `spaced` says that white space and comments in it do not
count. -/
structure Flags where
  ignoreCase : Bool := false
  unicode : Bool := true
  spaced : Bool := false
  deriving DecidableEq, Repr

namespace Flags

def turn (flags : Flags) (on : Bool) (letter : Char) : Option Flags :=
  match letter with
  | 'i' => some { flags with ignoreCase := on }
  | 'u' => some { flags with unicode := on }
  | 'x' => some { flags with spaced := on }
  | 'm' | 's' | 'U' | 'R' => some flags
  | _ => none

def foldsCase (flags : Flags) : Bool := flags.ignoreCase && flags.unicode

end Flags

def dropSpaced (inComment : Bool) : List Char → List Char
  | [] => []
  | c :: cs =>
    if inComment then dropSpaced (c != '\n') cs
    else if c == '#' then dropSpaced true cs
    else if isBlank c then dropSpaced false cs
    else c :: cs

def Flags.skip (flags : Flags) (cs : List Char) : List Char :=
  if flags.spaced then dropSpaced false cs else cs

inductive Element where
  | character (c : Char)
  | characters
  | place
  | wordBoundary
  deriving DecidableEq, Repr

/-- A character given by `count` hexadecimal digits. Without Unicode it is a byte, of which only
those of ASCII are characters. -/
def readCode (flags : Flags) (count : Nat) (cs : List Char) : Option (Element × List Char) := do
  let digits ← (cs.take count).mapM hexValue?
  let code := digits.foldl (16 * · + ·) 0
  if digits.length = count ∧ code.isValidChar ∧ (flags.unicode ∨ code < 0x80) then
    some (.character (Char.ofNat code), cs.drop count)
  else none

/-- What follows a backslash. The classes of letters, digits and white space need the tables of
Unicode, unless they are those of ASCII. -/
def readEscape (flags : Flags) : List Char → Option (Element × List Char)
  | [] => none
  | c :: rest =>
    match c with
    | 'x' => readCode flags 2 rest
    | 'u' => readCode flags 4 rest
    | 'U' => readCode flags 8 rest
    | 'd' | 's' | 'w' => if flags.unicode then none else some (.characters, rest)
    | 'a' => some (.character '\x07', rest)
    | 'f' => some (.character '\x0c', rest)
    | 't' => some (.character '\t', rest)
    | 'n' => some (.character '\n', rest)
    | 'r' => some (.character '\r', rest)
    | 'v' => some (.character '\x0b', rest)
    | 'A' | 'z' => some (.place, rest)
    | 'b' | 'B' | '<' | '>' =>
      some (if flags.unicode then .wordBoundary else .place, rest)
    | c => if c.isAlphanum || 0x7F < c.toNat then none else some (.character c, rest)

def readMember (flags : Flags) : List Char → Option (Element × List Char)
  | [] => none
  | '\\' :: rest => readEscape flags rest
  | c :: rest => if flags.unicode || c.toNat < 0x80 then some (.character c, rest) else none

def readRange (flags : Flags) (cs : List Char) : Option (List Char) := do
  let (first, rest) ← readMember flags cs
  let single := match first with
    | .character _ | .characters => true
    | .place | .wordBoundary => false
  match flags.skip rest with
  | '-' :: more =>
    match flags.skip more with
    | ']' :: _ | '-' :: _ => if single then some ('-' :: more) else none
    | more =>
      let (last, rest) ← readMember flags more
      match first, last with
      | .character a, .character b => if a ≤ b then some rest else none
      | _, _ => none
  | rest => if single then some rest else none

def classNames : List String :=
  ["alnum", "alpha", "ascii", "blank", "cntrl", "digit", "graph", "lower", "print", "punct",
    "space", "upper", "word", "xdigit"]

def dropNamedClass : List Char → Option (List Char)
  | ':' :: rest =>
    let rest := match rest with
      | '^' :: rest => rest
      | rest => rest
    match rest.dropWhile (· != ':') with
    | ':' :: ']' :: more =>
      if classNames.contains (String.ofList (rest.takeWhile (· != ':'))) then some more else none
    | _ => none
  | _ => none

/-- The front of a class: it may be negated, and hyphens or else a closing bracket there stand for
themselves. -/
def openClass (flags : Flags) (cs : List Char) : Option (List Char) := do
  let cs ← match flags.skip cs with
    | '^' :: rest => if flags.unicode then some (flags.skip rest) else none
    | rest => some rest
  let rest := match cs with
    | ']' :: rest => rest
    | cs => cs.dropWhile (· == '-')
  if rest.isEmpty then none else some rest

def readClass (flags : Flags) : Nat → Nat → List Char → Option (List Char)
  | 0, _, _ => none
  | fuel + 1, depth, cs =>
    match flags.skip cs with
    | [] => none
    | '[' :: rest =>
      match dropNamedClass rest with
      | some rest => readClass flags fuel depth rest
      | none => do readClass flags fuel (depth + 1) (← openClass flags rest)
    | ']' :: rest => if depth = 0 then some rest else readClass flags fuel (depth - 1) rest
    | '&' :: '&' :: rest => readClass flags fuel depth rest
    | '-' :: '-' :: rest => readClass flags fuel depth rest
    | '~' :: '~' :: rest => readClass flags fuel depth rest
    | cs => do readClass flags fuel depth (← readRange flags cs)

def readFlags (flags : Flags) (on : Bool) (seen : List Char) :
    List Char → Option (Flags × Char × List Char)
  | [] => none
  | c :: rest =>
    if c == ':' || c == ')' then
      if seen.getLast? = some '-' ∨ (c = ')' ∧ seen.isEmpty) then none else some (flags, c, rest)
    else if seen.contains c then none
    else if c == '-' then readFlags flags false (seen ++ [c]) rest
    else do readFlags (← flags.turn on c) on (seen ++ [c]) rest

def readName (cs : List Char) : Option (List Char × List Char) :=
  let name := cs.takeWhile (· != '>')
  match name, cs.dropWhile (· != '>') with
  | first :: others, _ :: rest =>
    let starts := first == '_' || (alphanumeric.contains first && !first.isDigit)
    let goesOn := others.all fun c =>
      c == '_' || c == '.' || c == '[' || c == ']' || alphanumeric.contains c
    if starts && goesOn then some (name, rest) else none
  | _, _ => none

/-- How far a pattern is read: the flags that hold now and those around each group that is open,
whether something stands before that can be repeated, whether the boundary of a word has occurred,
and the names of the groups. -/
structure Progress where
  flags : Flags := {}
  around : List Flags := []
  repeatable : Bool := false
  boundary : Bool := false
  names : List (List Char) := []
  deriving DecidableEq, Repr

namespace Progress

def enter (p : Progress) (flags : Flags) : Progress :=
  { p with flags, around := p.flags :: p.around, repeatable := false }

def leave (p : Progress) : Option Progress :=
  match p.around with
  | [] => none
  | flags :: around => some { p with flags, around, repeatable := true }

def passElement (p : Progress) : Element → Option Progress
  | .character _ => if p.flags.foldsCase then none else some { p with repeatable := true }
  | .characters | .place => some { p with repeatable := true }
  | .wordBoundary => some { p with repeatable := true, boundary := true }

def openGroup (p : Progress) : List Char → Option (Progress × List Char)
  | '?' :: 'P' :: '<' :: rest | '?' :: '<' :: rest => do
    let (name, rest) ← readName rest
    if p.names.contains name then none
    else some ({ p.enter p.flags with names := name :: p.names }, rest)
  | '?' :: rest => do
    let (flags, closing, rest) ← readFlags p.flags true [] rest
    if closing = ':' then some (p.enter flags, rest)
    else some ({ p with flags, repeatable := false }, rest)
  | rest => some (p.enter p.flags, rest)

def next (p : Progress) (c : Char) (rest : List Char) : Option (Progress × List Char) :=
  match c with
  | '(' => p.openGroup (p.flags.skip rest)
  | ')' => p.leave.map (·, rest)
  | '|' => some ({ p with repeatable := false }, rest)
  | '[' => do
    let rest ← readClass p.flags (rest.length + 1) 0 (← openClass p.flags rest)
    if p.flags.foldsCase then none else some ({ p with repeatable := true }, rest)
  | '?' | '*' | '+' =>
    if !p.repeatable then none
    else match rest with
      | '?' :: rest => some (p, rest)
      | rest => some (p, rest)
  | '\x7b' => none
  | '\\' => do
    let (element, rest) ← readEscape p.flags rest
    return (← p.passElement element, rest)
  | '.' => if p.flags.unicode then some ({ p with repeatable := true }, rest) else none
  | '^' | '$' => some ({ p with repeatable := true }, rest)
  | c => (p.passElement (.character c)).map (·, rest)

def read : Nat → Progress → List Char → Option Progress
  | 0, p, _ => some p
  | fuel + 1, p, cs =>
    match p.flags.skip cs with
    | [] => some p
    | c :: rest => do
      let (p, rest) ← p.next c rest
      read fuel p rest

end Progress

/-- Why no automaton can be built for a pattern, if that is so. -/
def fault? (cs : List Char) : Option Fault :=
  match Progress.read cs.length {} cs with
  | none => some .malformed
  | some p =>
    if !p.around.isEmpty then some .malformed
    else if p.boundary then some .wordBoundary
    else none

end ImageStock.Text.Pattern
