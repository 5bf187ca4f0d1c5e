import ImageStock.ProjectFile.Basic
import ImageStock.Toml.Printer

/-!
Project files as text.
-/

namespace ImageStock.ProjectFile

open Toml (writeField writeHeader writeLine writeParts writeRepeatedHeader)

def Runtime.render (r : Runtime) : List Char :=
  writeHeader "runtime" ++ writeField "container_cli" r.commandLine

def Entry.render (e : Entry) : List Char :=
  writeRepeatedHeader "images.entry" ++ writeField "name" (some e.name) ++
    writeField "env" e.overrideKey ++ writeField "default" e.reference ++
    writeField "base" e.repository

/-- The fields of the image section itself need a header, and so does a section with nothing in
it. -/
def Images.needsHeader (s : Images) : Bool :=
  s.versionKey.isSome || s.defaultVersion.isSome || s.entries.isEmpty

def Images.parts (s : Images) : List (List Char) :=
  (if s.needsHeader then
    [writeHeader "images" ++ writeField "version_env" s.versionKey ++
      writeField "default_version" s.defaultVersion]
  else []) ++ s.entries.map Entry.render

def parts (p : ProjectFile) : List (List Char) :=
  (p.version.map fun v => writeLine "version" (Nat.toDigits 10 v.toNat)).toList ++
    (p.runtime.map Runtime.render).toList ++ (p.images.map Images.parts).getD []

def render (p : ProjectFile) : List Char := writeParts p.parts

end ImageStock.ProjectFile
