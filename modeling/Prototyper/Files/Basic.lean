import Prototyper.Files.Path

/-!
# Files

What programs do with files, stated apart from where the files are kept: on a disk, or in a tree
that is a value.
-/

namespace Prototyper

/-- Why something cannot be done with a file. -/
inductive FileError where
  | missing
  | present
  | notADirectory
  | isADirectory
  | nameTooLong
  /-- The path holds a character that no path can hold. -/
  | badPath
  /-- The content is no text. -/
  | notText
  /-- A reason that lies with the place where the files are kept. -/
  | other (reason : String)
  deriving DecidableEq, Inhabited, Repr

/-- The message of a file error. -/
def FileError.message : FileError → String
  | missing => "No such file or directory (os error 2)"
  | present => "File exists (os error 17)"
  | notADirectory => "Not a directory (os error 20)"
  | isADirectory => "Is a directory (os error 21)"
  | nameTooLong => "File name too long (os error 36)"
  | badPath => "file name contained an unexpected NUL byte"
  | notText => "stream did not contain valid UTF-8"
  | other reason => reason

/-- A place where files are kept. -/
class Files (m : Type → Type) where
  /-- The content of the file at a path. -/
  read (path : String) : ExceptT FileError m ByteArray
  /-- Gives the file at a path a content; the file is made if it is missing. -/
  write (path : String) (content : ByteArray) : ExceptT FileError m Unit
  /-- Makes the file at a path, empty, unless it is there. -/
  touch (path : String) : ExceptT FileError m Unit
  /-- Makes the directory at a path, which must not be there. -/
  makeDirectory (path : String) : ExceptT FileError m Unit
  /-- Whether there is something at a path. -/
  isPresent (path : String) : m Bool
  /-- Whether there is a directory at a path. -/
  isDirectory (path : String) : m Bool

namespace Files

variable {m : Type → Type} [Monad m] [Files m]

/-- The text in the file at a path. -/
def readText (path : String) : ExceptT FileError m String := do
  match String.fromUTF8? (← read path) with
  | some text => return text
  | none => throw .notText

/-- Makes the first of several directories, each of which is in the next. Those that are missing are
made as well, and that one is there already is no error. -/
def makeNested : List String → ExceptT FileError m Unit
  | [] => return
  | path :: outer =>
    let attempt : ExceptT FileError m Unit :=
      tryCatch (makeDirectory path) fun e => do
        if e = .missing then
          makeNested outer
          makeDirectory path
        else throw e
    tryCatch attempt fun e => do
      let found ← (isDirectory path : m Bool)
      unless found do throw e

/-- Makes the directory at a path and all directories around it, as far as they are missing. -/
def makeDirectories (path : String) : ExceptT FileError m Unit :=
  makeNested (Path.ancestors path)

end Files

end Prototyper
