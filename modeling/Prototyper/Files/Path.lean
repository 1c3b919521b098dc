import Prototyper.Text.Split

/-!
# Paths

A path is a text whose names stand between slashes. A dot is the name of a directory within itself,
two dots are that of the directory around it.
-/

namespace Prototyper.Path

/-- The names of a path, dots included. -/
def names (path : String) : List String :=
  (Text.words '/' path.toList).map String.ofList

/-- Whether a path begins at the root. -/
def isAbsolute (path : String) : Bool :=
  path.toList.head? == some '/'

/-- Whether a path ends with a slash. -/
def endsWithSlash (path : String) : Bool :=
  path.toList.getLast? == some '/'

/-- The path of names that begins at the root or does not. -/
def ofNames (absolute : Bool) (names : List String) : String :=
  (if absolute then "/" else "") ++ "/".intercalate names

/-- The path of a name in a directory. -/
def join (directory name : String) : String :=
  if isAbsolute name || directory.isEmpty then name
  else if endsWithSlash directory then directory ++ name
  else directory ++ "/" ++ name

/-- The names of a path without the dots that lead nowhere. A dot that a path begins with stays. -/
def parts (path : String) : List String :=
  match isAbsolute path, names path with
  | false, "." :: rest => "." :: rest.filter (· != ".")
  | _, names => names.filter (· != ".")

/-- The name of the file that a path leads to, unless the path ends with dots. -/
def fileName? (path : String) : Option String :=
  match (parts path).getLast? with
  | none => none
  | some name => if name = "." || name = ".." then none else some name

/-- The path of the directory around the one that a path leads to. -/
def parent? (path : String) : Option String :=
  if (parts path).isEmpty then none else some (ofNames (isAbsolute path) (parts path).dropLast)

/-- The path of names that stand from the last one to the first, and the paths of all the
directories around, the outermost last. -/
def ancestorsOf (absolute : Bool) : List String → List String
  | [] => []
  | name :: outer => ofNames absolute (name :: outer).reverse :: ancestorsOf absolute outer

/-- A path and the paths of all the directories around that it names, the outermost last. -/
def ancestors (path : String) : List String :=
  ancestorsOf (isAbsolute path) (parts path).reverse

end Prototyper.Path
