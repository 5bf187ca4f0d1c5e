import ImageStock.Text.Blank

/-!
Path names.
-/

namespace ImageStock.Path

/-- An absolute path name starts with a slash, or with `root` where that name stands for the
directory at the top. -/
def isAbsolute (root path : String) : Bool :=
  path.startsWith "/" || (root ≠ "" && path.startsWith root)

def join (root dir path : String) : String :=
  if isAbsolute root path || dir = "" then path
  else if dir.endsWith "/" then dir ++ path
  else dir ++ "/" ++ path

def names (path : String) : List String :=
  (Text.splitOn (· == '/') path.toList).map String.ofList

end ImageStock.Path
