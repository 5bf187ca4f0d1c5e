/-!
Why a text is not a TOML document, and where.
-/

namespace ImageStock.Toml

structure Malformed where
  label : Option String := none
  expected : List String := []
  reason : Option String := none
  deriving DecidableEq, Repr

def Malformed.message (m : Malformed) : String :=
  "\n".intercalate <|
    (m.label.map ("invalid " ++ ·)).toList ++
    (if m.expected.isEmpty then [] else ["expected " ++ ", ".intercalate m.expected]) ++
    m.reason.toList

/-- A stretch of a text, by the numbers of characters from its two ends to the end of the text. -/
structure Span where
  start : Nat
  stop : Nat
  deriving DecidableEq, Repr

end ImageStock.Toml
