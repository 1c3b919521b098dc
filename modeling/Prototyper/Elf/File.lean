import Prototyper.Dwarf.Sections
import Prototyper.Elf.Error
import Prototyper.Elf.Layout

/-!
# Object files

Opening an object file checks its headers, and the tables of symbols and relocations as far as they
name other sections. After that a section is found by its name; relocations are not applied, and
compressed sections are not unpacked.
-/

namespace Prototyper.Elf

/-- An opened object file. -/
structure File where
  bytes : ByteArray
  endian : Endian
  sections : List Section
  /-- Where the names of sections begin and end; none when the file keeps no names. -/
  names : Option (Nat × Nat)

/-- The class of a file by its first bytes. -/
def classOf (bytes : ByteArray) : Except Error Class :=
  if bytes.size < 16 then .error .noMagic
  else
    match (bytes.extract 0 8).toList with
    | [0x7f, 0x45, 0x4c, 0x46, 1, _, _, _] => .ok .bits32
    | [0x7f, 0x45, 0x4c, 0x46, 2, _, _, _] => .ok .bits64
    | [0x21, 0x3c, 0x61, 0x72, 0x63, 0x68, 0x3e, 0x0a] => .error .unsupportedFormat
    | _ => .error .unknownMagic

/-- The order of bytes that the file header announces, and the header. -/
def headerOf (c : Class) (bytes : ByteArray) : Except Error (Endian × Header) :=
  if bytes.size < c.headerSize then .error .badHeaderSize
  else
    match (bytes.extract 5 7).toList with
    | [1, 1] => found .little
    | [2, 1] => found .big
    | _ => .error .unsupportedHeader
where
  found (endian : Endian) : Except Error (Endian × Header) :=
    match header? c bytes endian with
    | some h => .ok (endian, h)
    | none => .error .badHeaderSize

/-- The first entry of the section table, which holds what does not fit into the file header; none
when there is no table. -/
def firstSection (c : Class) (bytes : ByteArray) (endian : Endian) (h : Header) :
    Except Error (Option Section) := do
  if h.sectionOffset = 0 then
    return none
  if h.sectionEntrySize ≠ c.sectionEntrySize then
    throw .badSectionEntrySize
  match sectionEntry? c bytes endian h.sectionOffset with
  | some s => return some s
  | none => throw .badFirstSection

/-- Whether the program table, if there is one, lies in the file. -/
def checkProgramTable (c : Class) (bytes : ByteArray) (endian : Endian) (h : Header) :
    Except Error Unit := do
  if h.programOffset = 0 then
    return
  let count ← if h.programCount < 0xffff then pure h.programCount else
    match ← firstSection c bytes endian h with
    | some s => pure s.info
    | none => throw .noSectionsForProgramCount
  if count = 0 then
    return
  if h.programEntrySize ≠ c.programEntrySize then
    throw .badProgramEntrySize
  if bytes.size < h.programOffset + count * c.programEntrySize then
    throw .badProgramTable

/-- The section table. -/
def sectionTable (c : Class) (bytes : ByteArray) (endian : Endian) (h : Header) :
    Except Error (List Section) := do
  if h.sectionOffset = 0 then
    return []
  let count ← if 0 < h.sectionCount then pure h.sectionCount else
    match ← firstSection c bytes endian h with
    | some s => pure s.size
    | none => pure 0
  if count = 0 then
    return []
  if h.sectionEntrySize ≠ c.sectionEntrySize then
    throw .badSectionEntrySize
  if bytes.size < h.sectionOffset + count * c.sectionEntrySize then
    throw .badSectionTable
  return (List.range count).filterMap fun i =>
    sectionEntry? c bytes endian (h.sectionOffset + i * c.sectionEntrySize)

/-- Where the names of sections are kept. -/
def nameRange (c : Class) (bytes : ByteArray) (endian : Endian) (h : Header)
    (sections : List Section) : Except Error (Option (Nat × Nat)) := do
  if sections.isEmpty then
    return none
  let index ← if h.nameSection ≠ 0xffff then pure h.nameSection else
    match ← firstSection c bytes endian h with
    | some s => pure s.link
    | none => throw .noNameSection
  if index = 0 then
    throw .noNameSection
  match sections[index]? with
  | none => throw .badNameSection
  | some s =>
    if s.isEmptyInFile then
      return none
    if UInt64.size ≤ s.offset + s.size then
      throw .badNameSectionRange
    return some (s.offset, s.offset + s.size)

/-- Whether the section of texts that a table names is one; no section is named by zero. -/
def checkTexts (sections : List Section) (index : Nat) : Except Error Unit := do
  if index = 0 then
    return
  match sections[index]? with
  | none => throw .badSectionIndex
  | some s =>
    if s.type ≠ 3 then
      throw .badStringSectionType
    if UInt64.size ≤ s.offset + s.size then
      throw .badStringSectionRange

/-- The index of the first symbol table of a type, or zero when there is none. -/
def checkSymbols (bytes : ByteArray) (sections : List Section) (type : Nat) :
    Except Error Nat := do
  match sections.findIdx? fun s => s.type == type with
  | none => return 0
  | some index =>
    let s := sections.getD index default
    if (s.data? bytes).isNone then
      throw .badSymbolTable
    checkTexts sections s.link
    if sections.any fun t => t.type == 18 && t.link == index && (t.data? bytes).isNone then
      throw .badSymbolIndexTable
    return index

/-- Whether a section holds relocations. -/
def Section.isRelocation (s : Section) : Bool :=
  s.type == 4 || s.type == 9

/-- Whether the tables of relocations for the symbols of a table name sections to relocate. -/
def checkRelocations (sections : List Section) (symbols : Nat) : Except Error Unit :=
  sections.reverse.forM fun s => do
    if s.isRelocation && s.link == symbols && s.info != 0 then
      match sections[s.info]? with
      | none => throw .badRelocationTarget
      | some target =>
        if target.isRelocation then
          throw .unsupportedRelocationTarget

/-- Opens an object file. -/
def File.ofBytes (bytes : ByteArray) : Except Error File := do
  let c ← classOf bytes
  let (endian, h) ← headerOf c bytes
  checkProgramTable c bytes endian h
  let sections ← sectionTable c bytes endian h
  let names ← nameRange c bytes endian h sections
  let symbols ← checkSymbols bytes sections 2
  let _ ← checkSymbols bytes sections 11
  checkRelocations sections symbols
  return ⟨bytes, endian, sections, names⟩

/-- The bytes of the name of a section, if it is terminated within the names. -/
def File.name? (f : File) (s : Section) : Option (List UInt8) :=
  match f.names with
  | none => none
  | some (start, stop) =>
    if h : stop ≤ f.bytes.size then
      let names : Window := ⟨f.bytes, start, stop, h⟩
      (names.drop? s.nameOffset).bind fun w =>
        w.indexOfZero?.bind fun n => (w.take? n).map Window.toList
    else
      none

/-- The contents of the first section with a name; a missing section, and one that does not lie in
the file, has none. -/
def File.contents (f : File) (name : String) : ByteArray :=
  let wanted := some name.toUTF8.toList
  match f.sections.find? fun s => f.name? s == wanted with
  | some s => (s.data? f.bytes).getD .empty
  | none => .empty

/-- The debugging sections of a file. -/
def File.debugging (f : File) : Dwarf.Sections :=
  .ofLookup f.endian f.contents

end Prototyper.Elf
