import Prototyper.Command.Run

/-!
# The program

The command line on a disk.
-/

namespace Prototyper

/-- The number and the text of an error of the system. -/
def systemError? : IO.Error → Option (UInt32 × String)
  | .otherError code text | .resourceBusy code text | .resourceVanished code text
  | .unsupportedOperation code text | .hardwareFault code text
  | .unsatisfiedConstraints code text | .illegalOperation code text | .protocolError code text
  | .timeExpired code text | .interrupted _ code text | .noFileOrDirectory _ code text
  | .alreadyExists _ code text | .invalidArgument _ code text | .permissionDenied _ code text
  | .resourceExhausted _ code text | .inappropriateType _ code text | .noSuchThing _ code text =>
    some (code, text)
  | .unexpectedEof | .userError _ => none

/-- The file error that an error of the system is. -/
def FileError.ofSystem (e : IO.Error) : FileError :=
  match systemError? e with
  | none => .other (toString e)
  | some (code, text) =>
    match code.toNat with
    | 2 => .missing
    | 17 => .present
    | 20 => .notADirectory
    | 21 => .isADirectory
    | 36 => .nameTooLong
    | n => .other s!"{text} (os error {n})"

/-- An action on the disk. A path with a null character names nothing. -/
def onDisk {α : Type} (path : String) (action : IO α) : ExceptT FileError BaseIO α := do
  if path.toList.contains '\x00' then
    throw .badPath
  match ← (action.toBaseIO : BaseIO _) with
  | .ok a => return a
  | .error e => throw (.ofSystem e)

/-- Files on the disk. -/
instance : Files BaseIO where
  read path := onDisk path do (← IO.FS.Handle.mk path .read).readBinToEnd
  write path content := onDisk path (IO.FS.writeBinFile path content)
  touch path := onDisk path do let _ ← IO.FS.Handle.mk path .append
  makeDirectory path := onDisk path (IO.FS.createDir path)
  isPresent path := return (← (onDisk path (IO.FS.realPath path)).run).isOk
  isDirectory path := do
    match ← (onDisk path (IO.FS.realPath path)).run with
    | .ok found => found.isDir
    | .error _ => return false

end Prototyper

/-- Runs the command line. -/
def main (arguments : List String) : IO UInt32 := do
  let directory := Prototyper.Settings.userDirectory? (← IO.getEnv "XDG_CONFIG_HOME")
    (← IO.getEnv "HOME")
  let outcome ← (Prototyper.Command.run directory arguments : BaseIO Prototyper.Command.Outcome)
  (← IO.getStderr).putStr outcome.errors
  (← IO.getStdout).putStr outcome.output
  return outcome.status.toUInt32
