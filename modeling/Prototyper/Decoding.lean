import Prototyper.Dwarf.Unit
import Prototyper.Elf.File
import Prototyper.Files.Basic
import Prototyper.Report.Extraction

/-!
# Decoding of object files

From the bytes of an object file to its compilation units, and on to the report of their functions.
-/

namespace Prototyper

/-- The compilation units of an object file. -/
def CompilationUnit.ofObject (bytes : ByteArray) : Except Fault (List CompilationUnit) :=
  match Elf.File.ofBytes bytes with
  | .error e => .error (.object e)
  | .ok file => Dwarf.decode file.debugging

/-- The report of an object file. -/
def Report.ofObject (bytes : ByteArray) (declarations : Bool) : Except Fault Report :=
  (CompilationUnit.ofObject bytes).map fun units => Report.ofUnits units declarations

variable {m : Type → Type} [Monad m] [Files m]

/-- The compilation units of the object file at a path. -/
def CompilationUnit.ofFile (path : String) : ExceptT Fault m (List CompilationUnit) := do
  let bytes ← ExceptT.adapt
    (fun e => .inContext s!"Failed to read {path}" (.io e.message))
    (Files.read path : ExceptT FileError m ByteArray)
  match CompilationUnit.ofObject bytes with
  | .ok units => return units
  | .error fault => throw (.inContext s!"Failed to decode {path}" fault)

/-- The report of the object file at a path. -/
def Report.ofFile (path : String) (declarations : Bool) : ExceptT Fault m Report := do
  let units ← (CompilationUnit.ofFile path : ExceptT Fault m _)
  return Report.ofUnits units declarations

end Prototyper
