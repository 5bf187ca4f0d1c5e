import ImageStock.Text.Columns
import ImageStock.Text.Pictograph

/-!
The number of terminal columns that a line takes. Most characters take the columns that they take
alone; some scripts join two letters into the place of one, and pictographs join into one picture.
What a character adds is decided by what stands after it, so a line is read from its end.
-/

namespace ImageStock.Text

inductive Style where
  | text
  | picture
  deriving DecidableEq, Repr

inductive Joint where
  | arabicAlef
  | hebrewLamed
  | buginese
  | bugineseVowel
  | tifinagh
  | tifinaghJoiner
  | lisuTone
  | orkhonI
  | khmerSubscript
  | kiratE
  | kiratAi
  deriving DecidableEq, Repr

/-- What a picture, with a joiner before it, has in front of itself: part of another picture that
may be shown together with it. -/
inductive Half where
  | joiner
  | keycap
  | oneFlagLetter
  | evenFlagLetters
  | oddFlagLetters
  /-- The end of a tag, after so many digits and letters of the tag. -/
  | tag (digits letters : Nat)
  deriving DecidableEq, Repr

/-- What the text after a place starts with, as far as the character at the place can join it. -/
inductive Onset where
  | plain
  | letter (joint : Joint) (joined : Bool)
  | tone
  | flagLetter
  | flagLetters
  | picture
  | half (h : Half)
  deriving DecidableEq, Repr

structure Ahead where
  onset : Onset := .plain
  style : Option Style := none
  deriving DecidableEq, Repr

abbrev Placed := Int × Ahead

def zeroWidthJoiner : Char := '\u200D'

def isFiller (c : Char) : Bool :=
  let n := c.toNat
  n == 0x34F || n == 0x17B4 || n == 0x17B5 || (0x180B ≤ n && n ≤ 0x180F && n != 0x180E) ||
    (0xFE00 ≤ n && n ≤ 0xFE0F) || (0xE0100 ≤ n && n ≤ 0xE01EF)

def isFlagLetter (c : Char) : Bool := 0x1F1E6 ≤ c.toNat && c.toNat ≤ 0x1F1FF

def isSkinTone (c : Char) : Bool := 0x1F3FB ≤ c.toNat && c.toNat ≤ 0x1F3FF

def isAlef (c : Char) : Bool :=
  let n := c.toNat
  n == 0x622 || n == 0x623 || n == 0x625 || n == 0x627 || (0x671 ≤ n && n ≤ 0x673) ||
    n == 0x675 || n == 0x773 || n == 0x774 || (0x870 ≤ n && n ≤ 0x882)

def isLam (c : Char) : Bool :=
  let n := c.toNat
  n == 0x644 || (0x6B5 ≤ n && n ≤ 0x6B8) || n == 0x76A || n == 0x8A6 || n == 0x8C7

def isTifinaghConsonant (c : Char) : Bool :=
  (0x2D31 ≤ c.toNat && c.toNat ≤ 0x2D65) || c.toNat == 0x2D6F

def isKhmerSubscript (c : Char) : Bool :=
  let n := c.toNat
  let others := [0x1783, 0x1788, 0x178D, 0x1794, 0x1799, 0x179A, 0x179E, 0x179F, 0x17A1, 0x17A3,
    0x17A4, 0x17A5, 0x17A6, 0x17A8, 0x17A9, 0x17AA, 0x17AD, 0x17AE]
  0x1780 ≤ n && n ≤ 0x17AF && !others.contains n

def joint? (c : Char) : Option Joint :=
  if isAlef c then some .arabicAlef
  else if isKhmerSubscript c then some .khmerSubscript
  else if isTifinaghConsonant c then some .tifinagh
  else match c.toNat with
    | 0x5DC => some .hebrewLamed
    | 0x1A10 => some .buginese
    | 0xA4FC | 0xA4FD => some .lisuTone
    | 0x10C03 => some .orkhonI
    | 0x16D67 => some .kiratE
    | 0x16D68 => some .kiratAi
    | _ => none

def charWidth (c : Char) : Nat :=
  if c.toNat < 0x7F then 1
  else if c.toNat = 0x17D8 then 3
  else if c.toNat = 0x17A4 then 2
  else if zeroWidth.contains c then 0
  else if wide.contains c then 2
  else 1

def placeAlone (c : Char) : Placed :=
  let onset : Onset :=
    match joint? c with
    | some joint => .letter joint false
    | none =>
      if isFlagLetter c then .flagLetter
      else if isSkinTone c then .tone
      else if pictured.contains c then .picture
      else .plain
  (charWidth c, { onset })

/-- A character before a letter that can join it. `joined` says that a joiner stands between them,
without which some letters stay apart. -/
def Joint.place? (joint : Joint) (joined : Bool) (c : Char) : Option Placed :=
  match joint, joined, c.toNat with
  | .arabicAlef, _, _ =>
    if isLam c then some (0, {})
    else if charWidth c = 0 && !separating.contains c then
      some (0, { onset := .letter .arabicAlef false })
    else none
  | .hebrewLamed, true, 0x5D0 => some (0, {})
  | .buginese, true, 0x1A17 => some (0, { onset := .letter .bugineseVowel false })
  | .bugineseVowel, _, 0x1A15 => some (0, {})
  | .tifinagh, _, 0x2D7F => some (1, { onset := .letter .tifinaghJoiner false })
  | .tifinagh, true, _ => if isTifinaghConsonant c then some (0, {}) else none
  | .tifinaghJoiner, _, _ => if isTifinaghConsonant c then some (-1, {}) else none
  | .lisuTone, _, n => if 0xA4F8 ≤ n && n ≤ 0xA4FB then some (0, {}) else none
  | .orkhonI, true, 0x10C32 => some (0, {})
  | .khmerSubscript, _, 0x17D2 => some (-1, {})
  | .kiratE, _, 0x16D63 => some (0, {})
  | .kiratE, _, 0x16D67 => some (0, { onset := .letter .kiratAi false })
  | .kiratE, _, 0x16D68 => some (1, { onset := .letter .kiratE false })
  | .kiratE, _, 0x16D69 => some (0, {})
  | .kiratAi, _, 0x16D63 => some (0, {})
  | _, _, _ => none

/-- A tag is made of letters, or of three digits before up to four letters. -/
def placeInTag? (digits letters : Nat) (c : Char) : Option Placed :=
  let n := c.toNat
  if 0xE0061 ≤ n && n ≤ 0xE007A && digits = 0 && letters < 6 then
    some (0, { onset := .half (.tag 0 (letters + 1)) })
  else if 0xE0030 ≤ n && n ≤ 0xE0039 && digits < 3 && letters ≤ 4 then
    some (0, { onset := .half (.tag (digits + 1) letters) })
  else if n = 0x1F3F4 && (digits = 3 || (digits = 0 && 3 ≤ letters)) then
    some (0, { onset := .picture })
  else none

def Half.place? (h : Half) (c : Char) : Option Placed :=
  match h with
  | .joiner =>
    if c.toNat = 0x20E3 then some (0, { onset := .half .keycap })
    else if isFlagLetter c then some (1, { onset := .half .oneFlagLetter })
    else if isSkinTone c then some (0, { onset := .tone })
    else if c.toNat = 0xE007F then some (0, { onset := .half (.tag 0 0) })
    else if pictured.contains c then some (0, { onset := .picture })
    else none
  | .keycap => none
  | .oneFlagLetter | .oddFlagLetters =>
    if isFlagLetter c then some (-1, { onset := .half .evenFlagLetters }) else none
  | .evenFlagLetters =>
    if isFlagLetter c then some (3, { onset := .half .oddFlagLetters }) else none
  | .tag digits letters => placeInTag? digits letters c

def Onset.takesJoiner : Onset → Bool
  | .tone | .flagLetters | .picture | .half .evenFlagLetters | .half .oddFlagLetters => true
  | _ => false

def Onset.place? (onset : Onset) (c : Char) : Option Placed :=
  if c = zeroWidthJoiner && onset.takesJoiner then some (0, { onset := .half .joiner })
  else match onset with
    | .plain | .picture => none
    | .letter .arabicAlef joined => Joint.arabicAlef.place? joined c
    | .letter joint joined =>
      if c = zeroWidthJoiner then some (0, { onset := .letter joint true })
      else if isFiller c then some (0, { onset := .letter joint joined })
      else joint.place? joined c
    | .tone => if toned.contains c then some (0, { onset := .picture }) else none
    | .flagLetter | .flagLetters =>
      if isFlagLetter c then some (1, { onset := .flagLetters }) else none
    | .half h => h.place? c

/-- What is left of an onset after a selector before it. Letters join across selectors, and a
picture selector can be part of a picture. -/
def Onset.behind (style : Style) : Onset → Onset
  | .letter joint joined => .letter joint joined
  | .half .joiner => if style = .picture then .half .joiner else .plain
  | .half .keycap => if style = .picture then .half .keycap else .plain
  | _ => .plain

def Onset.place (onset : Onset) (c : Char) : Placed :=
  if c.toNat ≤ 0xA0 then (1, {})
  else if c = '\uFE0F' then (0, { onset := onset.behind .picture, style := some .picture })
  else if c = '\uFE0E' then (0, { onset := onset.behind .text, style := some .text })
  else (onset.place? c).getD (placeAlone c)

/-- Pictures outside the block of enclosed ideographs can be shown as text, in one column. -/
def isTextStyled (c : Char) : Bool :=
  selectable.contains c && pictured.contains c && !(0x1F200 ≤ c.toNat && c.toNat ≤ 0x1F2FF)

def Ahead.place (ahead : Ahead) (c : Char) : Placed :=
  match ahead.style, ahead.onset with
  | some .picture, onset =>
    if selectable.contains c then
      (if onset matches .half _ then 0 else 2, { onset := .picture })
    else if onset matches .letter _ _ then onset.place c
    else Onset.plain.place c
  | some .text, onset => if isTextStyled c then (1, {}) else onset.place c
  | none, onset => onset.place c

def measure : List Char → Placed
  | [] => (0, {})
  | c :: cs =>
    let (columns, ahead) := measure cs
    let (more, ahead) := ahead.place c
    (columns + more, ahead)

def width (line : List Char) : Nat := (measure line).1.toNat

end ImageStock.Text
