import ImageStock.ProjectFile.Basic

/-!
Project files and per-user files out of TOML tables. Fields come in any order; unknown ones are
passed over and reported by their paths. The first field that does not fit, in the order of the
document, decides the error.
-/

namespace ImageStock.ProjectFile

open Toml (Scalar Step Table Value)

structure Misfit where
  path : List Step
  mismatch : Mismatch
  deriving Repr

/-- A result with the paths of the unknown fields met on the way. -/
structure Decoded (α : Type) where
  value : α
  unknown : List String := []

def misfit {α : Type} (m : Mismatch) : Except Misfit α := .error ⟨[], m⟩

def under {α : Type} (step : Step) (r : Except Misfit α) : Except Misfit α :=
  r.mapError fun m => { m with path := step :: m.path }

def decodeText : Value → Except Misfit String
  | .scalar (.text s) => .ok s
  | v => misfit (.wrongType v .text)

def decodeVersion : Value → Except Misfit UInt32
  | .scalar (.integer n) =>
    if 0 ≤ n ∧ n < 0x100000000 then .ok n.toNat.toUInt32 else misfit (.negativeOrLarge n)
  | v => misfit (.wrongType v .version)

def join (place key : String) : String := if place = "" then key else place ++ "." ++ key

/-- Reads the fields of a table into `a`, each by its reader; a field without one is unknown. -/
def decodeFields {α : Type} (reader : String → Option (Value → α → Except Misfit (Decoded α)))
    (place : String) : Table → α → Except Misfit (Decoded α)
  | [], a => .ok ⟨a, []⟩
  | (key, v) :: rest, a =>
    match reader key with
    | some read => do
      let ⟨a, unknown⟩ ← under (.key key) (read v a)
      let ⟨a, others⟩ ← decodeFields reader place rest a
      return ⟨a, unknown ++ others⟩
    | none => do
      let ⟨a, unknown⟩ ← decodeFields reader place rest a
      return ⟨a, join place key :: unknown⟩

def textField {α : Type} (set : String → α → α) (v : Value) (a : α) :
    Except Misfit (Decoded α) := do
  return ⟨set (← decodeText v) a, []⟩

def momentKey : String := "$__toml_private_datetime"

def fields? : Value → Option Table
  | .table entries => some entries
  | .scalar (.moment s) => some [(momentKey, .scalar (.text s))]
  | _ => none

def decodeItem {α : Type} (s : Section) (items : List Value) (i : Nat)
    (read : Value → Except Misfit α) : Except Misfit α :=
  match items[i]? with
  | some v => under (.item i) (read v)
  | none => misfit (.tooShort i s)

def decodeSection {α : Type} (s : Section) (v : Value)
    (ofFields : Table → Except Misfit (Decoded α))
    (ofItems : List Value → Except Misfit (Decoded α)) : Except Misfit (Decoded α) :=
  match fields? v, v with
  | some entries, _ => ofFields entries
  | none, .array items => ofItems items
  | none, v => misfit (.wrongType v (.fields s))

def decodeRuntime (place : String) (v : Value) : Except Misfit (Decoded Runtime) :=
  decodeSection .runtime v
    (fun entries => decodeFields
      (fun
        | "container_cli" => some (textField fun s r => { r with commandLine := some s })
        | _ => none)
      place entries {})
    (fun items => do
      return ⟨{ commandLine := some (← decodeItem .runtime items 0 decodeText) }, []⟩)

def entryField : String → Option (Value → Entry → Except Misfit (Decoded Entry))
  | "name" => some (textField fun s e => { e with name := s })
  | "env" => some (textField fun s e => { e with overrideKey := some s })
  | "default" => some (textField fun s e => { e with reference := some s })
  | "base" => some (textField fun s e => { e with repository := some s })
  | _ => none

def decodeEntry (place : String) (v : Value) : Except Misfit (Decoded Entry) :=
  decodeSection .entry v
    (fun entries => do
      let decoded ← decodeFields entryField place entries { name := "" }
      if entries.any (·.1 = "name") then return decoded else misfit .missingName)
    (fun items => do
      let name ← decodeItem .entry items 0 decodeText
      let overrideKey ← decodeItem .entry items 1 decodeText
      let reference ← decodeItem .entry items 2 decodeText
      let repository ← decodeItem .entry items 3 decodeText
      return ⟨{ name, overrideKey, reference, repository }, []⟩)

def decodeEntriesFrom (place : String) (i : Nat) :
    List Value → Except Misfit (Decoded (List Entry))
  | [] => .ok ⟨[], []⟩
  | v :: vs => do
    let ⟨e, unknown⟩ ← under (.item i) (decodeEntry (join place (toString i)) v)
    let ⟨es, others⟩ ← decodeEntriesFrom place (i + 1) vs
    return ⟨e :: es, unknown ++ others⟩

def decodeEntries (place : String) : Value → Except Misfit (Decoded (List Entry))
  | .array items => decodeEntriesFrom place 0 items
  | v => misfit (.wrongType v .list)

def imagesField (place : String) :
    String → Option (Value → Images → Except Misfit (Decoded Images))
  | "version_env" => some (textField fun s m => { m with versionKey := some s })
  | "default_version" => some (textField fun s m => { m with defaultVersion := some s })
  | "entry" => some fun v m => do
    let ⟨entries, unknown⟩ ← decodeEntries (join place "entry") v
    return ⟨{ m with entries }, unknown⟩
  | _ => none

def decodeImages (place : String) (v : Value) : Except Misfit (Decoded Images) :=
  decodeSection .images v
    (fun entries => decodeFields (imagesField place) place entries {})
    (fun items => do
      let versionKey ← decodeItem .images items 0 decodeText
      let defaultVersion ← decodeItem .images items 1 decodeText
      let ⟨entries, unknown⟩ ← match items[2]? with
        | some v => under (.item 2) (decodeEntries (join place "2") v)
        | none => .ok ⟨[], []⟩
      return ⟨{ versionKey, defaultVersion, entries }, unknown⟩)

/-- Sections that may be missing have a mark of their own in the paths of unknown fields. -/
def rootField : String → Option (Value → ProjectFile → Except Misfit (Decoded ProjectFile))
  | "version" => some fun v p => do
    return ⟨{ p with version := some (← decodeVersion v) }, []⟩
  | "runtime" => some fun v p => do
    let ⟨runtime, unknown⟩ ← decodeRuntime "runtime.?" v
    return ⟨{ p with runtime := some runtime }, unknown⟩
  | "images" => some fun v p => do
    let ⟨images, unknown⟩ ← decodeImages "images.?" v
    return ⟨{ p with images := some images }, unknown⟩
  | _ => none

def decode (entries : Table) : Except Misfit (Decoded ProjectFile) :=
  decodeFields rootField "" entries {}

end ImageStock.ProjectFile

namespace ImageStock.UserFile

open ProjectFile in
def decode (entries : Toml.Table) : Except Misfit UserFile := do
  let ⟨user, _⟩ ← decodeFields
    (fun
      | "container_cli" => some (textField fun s (u : UserFile) => { u with commandLine := some s })
      | _ => none)
    "" entries {}
  return user

end ImageStock.UserFile
