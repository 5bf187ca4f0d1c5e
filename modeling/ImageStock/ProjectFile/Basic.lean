import ImageStock.Catalog

/-!
The contents of a project file, and the catalog that its image section stands for.
-/

namespace ImageStock

namespace ProjectFile

structure Entry where
  name : String
  overrideKey : Option String := none
  reference : Option String := none
  repository : Option String := none
  deriving DecidableEq, Repr

structure Images where
  versionKey : Option String := none
  defaultVersion : Option String := none
  entries : List Entry := []
  deriving DecidableEq, Repr

structure Runtime where
  commandLine : Option String := none
  deriving DecidableEq, Repr

end ProjectFile

structure ProjectFile where
  version : Option UInt32 := none
  runtime : Option ProjectFile.Runtime := none
  images : Option ProjectFile.Images := none
  deriving DecidableEq, Repr

structure UserFile where
  commandLine : Option String := none
  deriving DecidableEq, Repr

namespace ProjectFile

def Entry.toItem (e : Entry) : Except Failure Item :=
  match e.reference, e.repository with
  | some reference, none => .ok ⟨e.name, e.overrideKey, .fixed reference⟩
  | none, some repository => .ok ⟨e.name, e.overrideKey, .versioned repository⟩
  | some _, some _ => .error (.of (.twoOrigins e.name))
  | none, none => .error (.of (.noOrigin e.name))

/-- Entries of its own take the place of the built-in ones, together with their default version. -/
def Images.toCatalog (s : Images) : Except Failure Catalog := do
  let versionKey := s.versionKey.getD Catalog.builtIn.versionKey
  if s.entries.isEmpty then
    return {
      items := Catalog.builtIn.items
      versionKey
      defaultVersion := s.defaultVersion <|> Catalog.builtIn.defaultVersion }
  else
    let items ← s.entries.mapM Entry.toItem
    return { items, versionKey, defaultVersion := s.defaultVersion }

def Entry.ofItem (item : Item) : Entry where
  name := item.name
  overrideKey := item.overrideKey
  reference := match item.origin with
    | .fixed reference => some reference
    | .versioned _ => none
  repository := match item.origin with
    | .fixed _ => none
    | .versioned repository => some repository

def Images.ofCatalog (catalog : Catalog) : Images where
  versionKey := some catalog.versionKey
  defaultVersion := catalog.defaultVersion
  entries := catalog.items.map Entry.ofItem

end ProjectFile

def defaultCommandLine : String := "docker"

def ProjectFile.initial : ProjectFile where
  version := some 1
  runtime := some { commandLine := some defaultCommandLine }
  images := some (.ofCatalog .builtIn)

end ImageStock
