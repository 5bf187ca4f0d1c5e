import ImageStock.Number.Shortest
import ImageStock.Text.Quoted
import ImageStock.Toml.Value

/-!
Ways in which a well-formed document fails to be a project file or a per-user file.
-/

namespace ImageStock.ProjectFile

inductive Section where
  | root
  | runtime
  | images
  | entry
  | user
  deriving DecidableEq, Repr

inductive Expectation where
  | text
  | version
  | list
  | fields (s : Section)
  deriving DecidableEq, Repr

inductive Mismatch where
  | wrongType (found : Toml.Value) (expected : Expectation)
  | negativeOrLarge (n : Int)
  /-- A section written as a list of its fields, with too few of them. -/
  | tooShort (length : Nat) (s : Section)
  | missingName
  deriving Repr

def Section.title : Section → String
  | root => "struct ProjectConfig"
  | runtime => "struct RuntimeConfig"
  | images => "struct ImagesConfig"
  | entry => "struct EntryConfig"
  | user => "struct GlobalConfig"

def Section.size : Section → Nat
  | root | images => 3
  | runtime | user => 1
  | entry => 4

def Expectation.message : Expectation → String
  | text => "a string"
  | version => "u32"
  | list => "a sequence"
  | fields s => s.title

/-- A value as messages name it. A date or time counts as a map. -/
def describe : Toml.Value → String
  | .scalar (.text s) => s!"string {Text.quoted s}"
  | .scalar (.integer n) => s!"integer `{n}`"
  | .scalar (.float x) => s!"floating point `{String.ofList x.text}`"
  | .scalar (.boolean b) => s!"boolean `{b}`"
  | .array _ => "sequence"
  | .scalar (.moment _) | .table _ => "map"

def Mismatch.message : Mismatch → String
  | wrongType found expected => s!"invalid type: {describe found}, expected {expected.message}"
  | negativeOrLarge n => s!"invalid value: integer `{n}`, expected u32"
  | tooShort length s =>
    let elements := if s.size = 1 then "element" else "elements"
    s!"invalid length {length}, expected {s.title} with {s.size} {elements}"
  | missingName => "missing field `name`"

end ImageStock.ProjectFile
