import Prototyper.Fault
import Prototyper.Files.Basic
import Prototyper.Settings.Document
import Prototyper.Text.Quotation

/-!
# Storage of settings

Settings are kept in a file. Which one can be said; otherwise it is one in the user's settings
directory, and if that is missing, everything has its default.
-/

namespace Prototyper.Settings

/-- The user's settings directory, given the values of the environment variables that name it and
the user's home directory. -/
def userDirectory? (named home : Option String) : Option String :=
  match named.filter Path.isAbsolute, home.filter fun h => !h.isEmpty with
  | some directory, _ => some directory
  | none, some home => some (Path.join home ".config")
  | none, none => none

/-- The file that is used unless another one is named, given the user's settings directory. -/
def defaultPath (directory : String) : String :=
  Path.join (Path.join directory "dwarf-prototypes") "config.toml"

variable {m : Type → Type} [Monad m] [Files m]

/-- The settings in the file at a path. -/
def load (path : String) : ExceptT Fault m Settings := do
  let text ← ExceptT.adapt
    (fun e => .settings s!"Failed to read config file {Text.quoted path}: {e.message}")
    (Files.readText path : ExceptT FileError m String)
  match ofText text.toList with
  | .ok settings => return settings
  | .error e =>
    throw (.settings
      s!"Failed to parse config file {Text.quoted path}: {e.message text.toList}")

/-- The settings in the user's settings directory, if there are any. -/
def loadDefault (directory : Option String) : ExceptT Fault m Settings := do
  match directory with
  | none => return {}
  | some directory =>
    if ← (Files.isPresent (defaultPath directory) : m Bool) then load (defaultPath directory)
    else return {}

/-- The settings in the file at a path, or without one in the user's settings directory. -/
def resolve (directory path : Option String) : ExceptT Fault m Settings :=
  match path with
  | some path => load path
  | none => loadDefault directory

/-- Keeps the settings in the file at a path. Missing directories around it are made. -/
def save (s : Settings) (path : String) : ExceptT Fault m Unit := do
  if let some directory := Path.parent? path then
    ExceptT.adapt (fun e => .settings s!"Failed to create config directory: {e.message}")
      (Files.makeDirectories directory : ExceptT FileError m Unit)
  ExceptT.adapt
    (fun e => .settings s!"Failed to write config file {Text.quoted path}: {e.message}")
    (Files.write path (String.ofList s.text).toUTF8 : ExceptT FileError m Unit)

end Prototyper.Settings
