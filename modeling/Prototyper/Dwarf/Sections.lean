import Prototyper.Dwarf.Encoding
import Prototyper.Text.Utf8

/-!
# Debugging sections

The sections of an object file that matter for prototypes, and look-ups by offset in them. A
missing section is an empty one.

Which section holds what is part of the DWARF assumption (see `Dwarf.Encoding`).
-/

namespace Prototyper.Dwarf

/-- The contents of the debugging sections. -/
structure Sections where
  endian : Endian
  info : ByteArray
  abbreviations : ByteArray
  str : ByteArray
  lineStr : ByteArray
  strOffsets : ByteArray
  line : ByteArray
  addr : ByteArray
  deriving Inhabited

/-- The sections of a file that finds them by name. -/
def Sections.ofLookup (endian : Endian) (find : String → ByteArray) : Sections where
  endian
  info := find ".debug_info"
  abbreviations := find ".debug_abbrev"
  str := find ".debug_str"
  lineStr := find ".debug_line_str"
  strOffsets := find ".debug_str_offsets"
  line := find ".debug_line"
  addr := find ".debug_addr"

/-- What a reader takes from an offset in a section. -/
def readAt {α : Type} (bytes : ByteArray) (offset : Nat) (r : ByteReader Error α) :
    Except Error α :=
  match (Window.ofBytes bytes).drop? offset with
  | none => .error .endOfInput
  | some w => (r.run w).map Prod.fst

/-- The text of a window; bytes that encode no character become replacement characters. -/
def textOf (w : Window) : String :=
  String.ofList (Text.decodeUtf8 w.toList)

/-- The text at an offset in a section, if it is terminated. -/
def textAt? (bytes : ByteArray) (offset : Nat) : Option String :=
  ((readAt bytes offset terminated).map textOf).toOption

end Prototyper.Dwarf
