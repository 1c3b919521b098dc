import Prototyper.Bytes.Window

/-!
# Layout of object files

Where the fields of headers lie. Object files come in two classes, which differ in the width of
offsets and sizes.
-/

namespace Prototyper.Elf

/-- The class of an object file. -/
inductive Class where
  | bits32
  | bits64
  deriving DecidableEq, Inhabited, Repr

/-- A number of `width` bytes at an offset, if the file reaches that far. -/
def number? (bytes : ByteArray) (endian : Endian) (offset width : Nat) : Option Nat :=
  if offset + width ≤ bytes.size then
    some (endian.value (bytes.extract offset (offset + width)).toList)
  else
    none

/-- The place of a field: its offset in a header, and its width. -/
structure Field where
  offset : Nat
  width : Nat

namespace Class

/-- The number of bytes of the file header. -/
def headerSize : Class → Nat
  | bits32 => 52
  | bits64 => 64

/-- The number of bytes of an entry of the program table. -/
def programEntrySize : Class → Nat
  | bits32 => 32
  | bits64 => 56

/-- The number of bytes of an entry of the section table. -/
def sectionEntrySize : Class → Nat
  | bits32 => 40
  | bits64 => 64

end Class

/-- The fields of the file header. -/
structure Header where
  programOffset : Nat
  sectionOffset : Nat
  programEntrySize : Nat
  programCount : Nat
  sectionEntrySize : Nat
  sectionCount : Nat
  nameSection : Nat
  deriving Inhabited, Repr

/-- The file header, if the file reaches that far. -/
def header? (c : Class) (bytes : ByteArray) (endian : Endian) : Option Header :=
  let field (offset width : Nat) := number? bytes endian offset width
  match c with
  | .bits32 => do
    return ⟨← field 28 4, ← field 32 4, ← field 42 2, ← field 44 2, ← field 46 2, ← field 48 2,
      ← field 50 2⟩
  | .bits64 => do
    return ⟨← field 32 8, ← field 40 8, ← field 54 2, ← field 56 2, ← field 58 2, ← field 60 2,
      ← field 62 2⟩

/-- An entry of the section table. -/
structure Section where
  nameOffset : Nat
  type : Nat
  offset : Nat
  size : Nat
  link : Nat
  info : Nat
  deriving Inhabited, Repr

/-- The entry of the section table at an offset, if the file reaches that far. -/
def sectionEntry? (c : Class) (bytes : ByteArray) (endian : Endian) (offset : Nat) :
    Option Section :=
  let field (distance width : Nat) := number? bytes endian (offset + distance) width
  if offset + c.sectionEntrySize ≤ bytes.size then
    match c with
    | .bits32 => do
      return ⟨← field 0 4, ← field 4 4, ← field 16 4, ← field 20 4, ← field 24 4, ← field 28 4⟩
    | .bits64 => do
      return ⟨← field 0 4, ← field 4 4, ← field 24 8, ← field 32 8, ← field 40 4, ← field 44 4⟩
  else
    none

/-- Whether a section takes no place in the file. -/
def Section.isEmptyInFile (s : Section) : Bool :=
  s.type == 8

/-- The bytes of a section, if the file reaches that far. -/
def Section.data? (s : Section) (bytes : ByteArray) : Option ByteArray :=
  if s.isEmptyInFile then some .empty
  else if s.offset + s.size ≤ bytes.size then some (bytes.extract s.offset (s.offset + s.size))
  else none

end Prototyper.Elf
