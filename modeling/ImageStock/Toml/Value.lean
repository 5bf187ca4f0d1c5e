import ImageStock.Number.Binary64

/-!
What a TOML document means: a table of values, in which the order of the keys is kept.
-/

namespace ImageStock.Toml

inductive Scalar where
  | text (s : String)
  | integer (n : Int)
  | float (x : Binary64)
  | boolean (b : Bool)
  /-- A date, a time or both, as it is written. -/
  | moment (s : String)
  deriving DecidableEq, Repr

inductive Value where
  | scalar (s : Scalar)
  | array (items : List Value)
  | table (entries : List (String × Value))
  deriving Repr

abbrev Table := List (String × Value)

mutual

def Value.decEq : (v w : Value) → Decidable (v = w)
  | .scalar s, .scalar t => decidable_of_iff (s = t) (by rw [Value.scalar.injEq])
  | .array vs, .array ws =>
    have := itemsDecEq vs ws
    decidable_of_iff (vs = ws) (by rw [Value.array.injEq])
  | .table a, .table b =>
    have := entriesDecEq a b
    decidable_of_iff (a = b) (by rw [Value.table.injEq])
  | .scalar _, .array _ | .scalar _, .table _ | .array _, .scalar _ | .array _, .table _
  | .table _, .scalar _ | .table _, .array _ => isFalse nofun

def itemsDecEq : (vs ws : List Value) → Decidable (vs = ws)
  | [], [] => isTrue rfl
  | v :: vs, w :: ws =>
    have := Value.decEq v w
    have := itemsDecEq vs ws
    decidable_of_iff (v = w ∧ vs = ws) (by rw [List.cons.injEq])
  | [], _ :: _ | _ :: _, [] => isFalse nofun

def entriesDecEq : (a b : List (String × Value)) → Decidable (a = b)
  | [], [] => isTrue rfl
  | (key, v) :: a, (other, w) :: b =>
    have := Value.decEq v w
    have := entriesDecEq a b
    decidable_of_iff ((key = other ∧ v = w) ∧ a = b) (by rw [List.cons.injEq, Prod.mk.injEq])
  | [], _ :: _ | _ :: _, [] => isFalse nofun

end

instance : DecidableEq Value := Value.decEq

inductive Step where
  | key (name : String)
  | item (index : Nat)
  deriving DecidableEq, Repr

end ImageStock.Toml
