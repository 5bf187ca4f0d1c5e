import ImageStock.Toml.Malformed

/-!
The line of a document that a message is about, with a mark under the place.
-/

namespace ImageStock.Toml

structure Excerpt where
  line : Nat
  column : Nat
  content : String
  width : Nat
  deriving DecidableEq, Repr

def utf8Length (cs : List Char) : Nat := cs.foldl (fun n c => n + c.utf8Size) 0

/-- Shows a stretch of a document. At the end of the document the line is that of the last
character. The column counts characters, or bytes where the stretch starts with a character of
several bytes. The mark has the width of the stretch in bytes, within its line and at least one. -/
def Excerpt.ofSpan (document : List Char) (span : Span) : Excerpt :=
  let start := min (document.length - span.start) (document.length - 1)
  let past := (document.length - span.start) - start
  let before := document.take start
  let lineStart := (before.reverse.takeWhile (· ≠ '\n')).reverse
  let content := lineStart ++ (document.drop start).takeWhile (· ≠ '\n')
  let stretch := (document.drop (document.length - span.start)).take (span.start - span.stop)
  let severalBytes := past == 0 && (document[start]?.map Char.utf8Size).getD 1 != 1
  let column := (if severalBytes then utf8Length lineStart else lineStart.length) + past
  { line := before.countP (· == '\n') + 1
    column
    content := String.ofList content
    width := max 1 (min (utf8Length stretch) (utf8Length content - column)) }

def Excerpt.render (e : Excerpt) : String :=
  let gutter := String.ofList (List.replicate ((toString e.line).length + 1) ' ')
  let indent := String.ofList (List.replicate (e.column + 1) ' ')
  let mark := String.ofList (List.replicate e.width '^')
  s!"TOML parse error at line {e.line}, column {e.column + 1}\n" ++
    s!"{gutter}|\n{e.line} | {e.content}\n{gutter}|{indent}{mark}\n"

end ImageStock.Toml
