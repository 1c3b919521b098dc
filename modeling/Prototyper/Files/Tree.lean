import Prototyper.Files.Basic

/-!
# File trees

Files and directories that are kept in a value. A path is followed from the root, or from a working
directory if it does not begin at the root.
-/

namespace Prototyper

/-- A place in a tree: the names that lead to it from the root, the last one first. -/
abbrev Place : Type :=
  List String

/-- What stands at a place. -/
inductive Node where
  | directory
  | file (content : ByteArray)
  deriving Inhabited

/-- Whether a node is a directory. -/
def Node.isDirectory : Node → Bool
  | directory => true
  | file _ => false

/-- Files and directories. The root is always there. -/
structure FileTree where
  /-- What stands at the places below the root. -/
  nodes : List (Place × Node)
  /-- Where paths begin. -/
  workingDirectory : Place
  deriving Inhabited

namespace FileTree

/-- The tree that holds nothing but a working directory of this name. -/
def ofName (name : String) : FileTree :=
  ⟨[([name], .directory)], [name]⟩

/-- What stands at a place. -/
def node? (t : FileTree) (place : Place) : Option Node :=
  if place.isEmpty then some .directory else t.nodes.lookup place

/-- Whether there is a directory at a place. -/
def hasDirectory (t : FileTree) (place : Place) : Bool :=
  (t.node? place).any Node.isDirectory

/-- The tree with something put at a place. -/
def put (t : FileTree) (place : Place) (node : Node) : FileTree :=
  { t with nodes := (place, node) :: t.nodes.filter fun p => p.1 != place }

/-- What is put at a place stands there. -/
theorem node?_put_self (t : FileTree) {place : Place} (node : Node) (h : place ≠ []) :
    (t.put place node).node? place = some node := by
  simp [node?, put, h]

/-- The longest name, in bytes. -/
def nameLimit : Nat :=
  255

/-- The length of the longest path, in bytes. -/
def pathLimit : Nat :=
  4095

/-- The place that a name leads to from a directory. -/
def step (t : FileTree) (directory : Place) (name : String) : Except FileError Place :=
  if !t.hasDirectory directory then .error .notADirectory
  else if name = "." then .ok directory
  else if name = ".." then .ok directory.tail
  else if name.utf8ByteSize > nameLimit then .error .nameTooLong
  else if (t.node? (name :: directory)).isNone then .error .missing
  else .ok (name :: directory)

/-- Where a path begins, if it can be followed at all. -/
def start (t : FileTree) (path : String) : Except FileError Place :=
  if path.toList.contains '\x00' then .error .badPath
  else if path.utf8ByteSize > pathLimit then .error .nameTooLong
  else if path.isEmpty then .error .missing
  else .ok (if Path.isAbsolute path then [] else t.workingDirectory)

/-- The place that a path leads to. With a slash at its end it must be a directory. -/
def find (t : FileTree) (path : String) : Except FileError Place := do
  let place ← (Path.names path).foldlM t.step (← t.start path)
  if Path.endsWithSlash path && !t.hasDirectory place then
    throw .notADirectory
  return place

/-- The directory and the name at the end of a path, where something may be made. There is no name
if the path ends with dots. -/
def findEnd (t : FileTree) (path : String) : Except FileError (Place × Option String) := do
  let names := Path.names path
  let directory ← names.dropLast.foldlM t.step (← t.start path)
  if !t.hasDirectory directory then
    throw .notADirectory
  match names.getLast? with
  | none | some "." | some ".." => return (directory, none)
  | some name =>
    if name.utf8ByteSize > nameLimit then
      throw .nameTooLong
    return (directory, some name)

/-- The content of the file at a path. -/
def read (t : FileTree) (path : String) : Except FileError ByteArray := do
  match t.node? (← t.find path) with
  | some (.file content) => return content
  | some .directory => throw .isADirectory
  | none => throw .missing

/-- The place of the file at a path, which may be missing. -/
def findFile (t : FileTree) (path : String) : Except FileError Place := do
  let (directory, name) ← t.findEnd path
  match name with
  | none => throw .isADirectory
  | some name =>
    if Path.endsWithSlash path || t.hasDirectory (name :: directory) then
      throw .isADirectory
    return name :: directory

/-- The tree after a file has got a content. -/
def write (t : FileTree) (path : String) (content : ByteArray) : Except FileError FileTree := do
  return t.put (← t.findFile path) (.file content)

/-- The tree after a file has been made, unless it was there. -/
def touch (t : FileTree) (path : String) : Except FileError FileTree := do
  let place ← t.findFile path
  return if (t.node? place).isSome then t else t.put place (.file .empty)

/-- The tree after a directory has been made. -/
def makeDirectory (t : FileTree) (path : String) : Except FileError FileTree := do
  let (directory, name) ← t.findEnd path
  match name with
  | none => throw .present
  | some name =>
    if (t.node? (name :: directory)).isSome then
      throw .present
    return t.put (name :: directory) .directory

/-- Whether there is something at a path. -/
def isPresent (t : FileTree) (path : String) : Bool :=
  (t.find path).toOption.isSome

/-- Whether there is a directory at a path. -/
def isDirectory (t : FileTree) (path : String) : Bool :=
  (t.find path).toOption.any t.hasDirectory

/-- The path of a place from the working directory, if it is below it. -/
def relative? (t : FileTree) (place : Place) : Option String :=
  if t.workingDirectory.isSuffixOf place then
    some (Path.ofNames false (place.take (place.length - t.workingDirectory.length)).reverse)
  else none

/-- The paths of the files below the working directory, in order. -/
def files (t : FileTree) : List String :=
  let found := t.nodes.filterMap fun (place, node) =>
    match node with
    | .file _ => t.relative? place
    | .directory => none
  found.mergeSort fun p q => !decide (q < p)

/-- The tree after an operation, which keeps it unless it succeeds. -/
def change (operation : FileTree → Except FileError FileTree) :
    ExceptT FileError (StateM FileTree) Unit := do
  match operation (← get) with
  | .ok t => set t
  | .error e => throw e

instance : Files (StateM FileTree) where
  read path := do ExceptT.mk (pure ((← get).read path))
  write path content := change fun t => t.write path content
  touch path := change fun t => t.touch path
  makeDirectory path := change fun t => t.makeDirectory path
  isPresent path := return (← get).isPresent path
  isDirectory path := return (← get).isDirectory path

end FileTree

end Prototyper
