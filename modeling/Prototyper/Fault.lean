import Prototyper.Dwarf.Error
import Prototyper.Elf.Error
import Prototyper.Entry.Store

/-!
# Faults

Why a run as a whole fails: a file that cannot be read, bytes that are no object file or hold broken
debugging information, settings that make no sense. A fault may carry a context, which says what was
being done.
-/

namespace Prototyper

/-- Why a run fails. -/
inductive Fault where
  | io (text : String)
  | object (error : Elf.Error)
  | dwarf (error : Dwarf.Error)
  | store (error : StoreError)
  | settings (text : String)
  | serialization (text : String)
  | inContext (context : String) (fault : Fault)
  deriving DecidableEq, Inhabited, Repr

namespace Fault

/-- The message of a fault. -/
def message : Fault → String
  | io text => s!"IO error: {text}"
  | object error => s!"Object parsing error: {error.message}"
  | dwarf error => s!"DWARF error: {error.message}"
  | store error => s!"Entry store error: {error.message}"
  | settings text => s!"Configuration error: {text}"
  | serialization text => s!"Serialization error: {text}"
  | inContext context fault => s!"{context}: {fault.message}"

/-- The messages of what lies behind a fault, the nearest cause first. -/
def causes : Fault → List String
  | io text => [text]
  | object error => [error.message]
  | dwarf error => [error.message]
  | store error => [error.message]
  | settings _ => []
  | serialization _ => []
  | inContext _ fault => fault.message :: fault.causes

end Fault

end Prototyper
