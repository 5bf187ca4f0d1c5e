import ImageStock.Text.Blank

/-!
References of container images.
-/

namespace ImageStock

/-- A reference is any text that is not all white space, kept as it is given. -/
structure Image where
  reference : String
  notBlank : Text.allBlank reference = false
  deriving DecidableEq, Repr

namespace Image

theorem eq_iff {a b : Image} : a = b ↔ a.reference = b.reference := by
  cases a
  cases b
  simp

def tagged (repository version : String) : String := repository ++ ":" ++ version

def ofString? (reference : String) : Option Image :=
  if h : Text.allBlank reference = false then some ⟨reference, h⟩ else none

theorem ofString?_eq_some {s : String} {image : Image} :
    ofString? s = some image ↔ image.reference = s := by
  unfold ofString?
  constructor
  · intro h
    split at h
    · injection h with h
      rw [← h]
    · cases h
  · rintro rfl
    simp [image.notBlank]

end Image

end ImageStock
