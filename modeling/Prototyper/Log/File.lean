import Prototyper.Files.Basic
import Prototyper.Settings.Basic
import Prototyper.Text.Quotation

/-!
# Log files

A log may be kept in a file. The file and the directories around it are made as far as they are
missing.
-/

namespace Prototyper.Log

/-- Why a log cannot be kept. -/
inductive FileFault where
  /-- The path does not end with the name of a file. -/
  | noName (path : String)
  /-- The file cannot be made. -/
  | unusable (path : String) (error : FileError)
  deriving DecidableEq, Inhabited, Repr

/-- The message of a fault of a log file. -/
def FileFault.message : FileFault → String
  | noName path => s!"Log file path {Text.quoted path} has no file name"
  | unusable path error => s!"Log file {Text.quoted path} cannot be made: {error.message}"

/-- The path of a log file, put together from its directory and its name. -/
def filePath? (path : String) : Option String :=
  match Path.fileName? path, Path.parent? path with
  | none, _ => none
  | some name, none => some (Path.join "." name)
  | some name, some directory =>
    some (Path.join (if directory.isEmpty then "." else directory) name)

variable {m : Type → Type} [Monad m] [Files m]

/-- Makes the file at a path. Only when that fails are the directories around it made. -/
def makeFile (path : String) : ExceptT FileError m Unit :=
  tryCatch (Files.touch path) fun _ => do
    Files.makeDirectories ((Path.parent? path).getD "")
    Files.touch path

/-- Makes the file that keeps the log, if there is to be one. -/
def prepareFile (s : LogSettings) : ExceptT FileFault m Unit :=
  match s.file with
  | none => return
  | some given =>
    match filePath? given with
    | none => throw (.noName given)
    | some path =>
      ExceptT.adapt (.unusable path) (makeFile path : ExceptT FileError m Unit)

end Prototyper.Log
