/-!
# Paths

A path is a text of names with slashes between them. The name, stem and extension of a path and
its parent are those of its last name; repeated slashes and single dots between names do not
count, and two dots are no name.
-/
namespace CopyOracle.Path

/-- The names of a path, without empty ones and single dots. -/
def names (path : String) : List String :=
  ((path.toList.splitOn '/').map String.ofList).filter fun name => name ≠ "" && name ≠ "."

/-- Whether a path starts at the root. -/
def isAbsolute (path : String) : Bool := path.toList.head? = some '/'

/-- A path below a directory; an absolute path stands for itself. -/
def join (directory path : String) : String :=
  if isAbsolute path || directory = "" then path
  else if directory.toList.getLast? = some '/' then directory ++ path
  else directory ++ "/" ++ path

/-- The last name of a path, if it is one. -/
def fileName? (path : String) : Option String :=
  (names path).getLast?.filter fun name => name ≠ ".."

/-- A name before and after its last dot; a dot in front is part of the name. -/
def splitExtension (name : String) : String × Option String :=
  let reversed := name.toList.reverse
  let extension := reversed.takeWhile (· ≠ '.')
  match reversed.drop extension.length with
  | '.' :: stem@(_ :: _) => (.ofList stem.reverse, some (.ofList extension.reverse))
  | _ => (name, none)

/-- The path above the last name; none for the root and the empty path. -/
def parent? (path : String) : Option String :=
  match names path with
  | [] => if path = "" || isAbsolute path then none else some ""
  | all =>
    let above := "/".intercalate all.dropLast
    some (if isAbsolute path then "/" ++ above else above)

end CopyOracle.Path
