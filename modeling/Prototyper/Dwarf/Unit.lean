import Prototyper.Dwarf.LineHeader
import Prototyper.Dwarf.Tree

/-!
# Units

The section of debugging information is a sequence of units. A unit has a header, names a table of
abbreviations, and holds the tree of its entries. The attributes of the outermost entry also say
where the unit keeps its tables of text offsets, addresses and lines.

How units are laid out is part of the DWARF assumption (see `Dwarf.Encoding`).
-/

namespace Prototyper.Dwarf

/-- The header of a unit, with the window of its entries. -/
structure UnitHeader where
  offset : Nat
  encoding : Encoding
  abbreviationsOffset : Nat
  entries : Window
  deriving Inhabited

/-- What stands in a header of version 5 between the offset of the abbreviations and the entries. -/
def skipUnitTypeFields (endian : Endian) (format : Format) (unitType : UInt8) :
    ByteReader Error Unit := do
  match unitType.toNat with
  | 1 | 3 => return
  | 2 | 6 =>
    let _ ← block 8
    let _ ← fixed endian format.width
  | 4 | 5 => do let _ ← block 8
  | _ => .fail .unsupportedUnitType

/-- The fields of a header after its length: the encoding, and the offset of the abbreviations. -/
def headerFields (endian : Endian) (format : Format) : ByteReader Error (Encoding × Nat) := do
  let version ← fixed endian 2
  if 2 ≤ version ∧ version ≤ 4 then
    let abbreviations ← fixed endian format.width
    let width ← addressWidth
    return (⟨endian, format, version, width⟩, abbreviations)
  else if version = 5 then
    let unitType ← byte
    let width ← addressWidth
    let abbreviations ← fixed endian format.width
    skipUnitTypeFields endian format unitType
    return (⟨endian, format, version, width⟩, abbreviations)
  else
    .fail .unknownVersion

/-- The header of the next unit. -/
def unitHeader (endian : Endian) : ByteReader Error UnitHeader := do
  let offset ← ByteReader.position
  let (length, format) ← initialLength endian
  let body ← block length
  let ((encoding, abbreviationsOffset), entries) ←
    ByteReader.within body (headerFields endian format)
  return ⟨offset, encoding, abbreviationsOffset, entries⟩

/-- The header of a unit takes bytes. -/
theorem consumes_unitHeader (endian : Endian) : (unitHeader endian).Consumes :=
  Reader.consumes_bind_of_forall fun _ =>
    Reader.Consumes.bind (Reader.Consumes.bind (consumes_fixed (by decide)) _) _

/-- The abbreviation of the first entry that is not empty, if there is one before the end. -/
def firstHead (table : AbbreviationTable) : ByteReader Error (Option Abbreviation) :=
  Reader.iterate
    (fun found : Option Abbreviation =>
      match found with
      | some _ => pure none
      | none => (entryHead table >>= fun a => pure (some a)).unlessAtEnd)
    (fun found => by
      cases found with
      | some a => exact Reader.advances_pure_none
      | none =>
        exact Reader.Advances.unlessAtEnd
          (Reader.Consumes.advances (Reader.Consumes.bind (consumes_entryHead table) _)))
    none

/-- The attributes of the outermost entry of a unit, as they are encoded. -/
def rootAttributes (enc : Encoding) (table : AbbreviationTable) :
    ByteReader Error (List RawAttribute) := do
  match ← firstHead table with
  | none => .fail .missingUnitDie
  | some a => attributesFrom enc (fun _ e => e) [] a.specs

/-- The last value of an attribute that satisfies a test. -/
def lastValue? {α : Type} (raw : List RawAttribute) (names : List UInt16)
    (f : FormValue → Option α) : Option α :=
  (raw.filter fun r => names.contains r.name).reverse.findSome? fun r => f r.value

/-- The offset into another section that a value is. -/
def FormValue.sectionOffset? : FormValue → Option Nat
  | sectionOffset offset => some offset
  | _ => none

/-- The offset of a line table that a value is: older versions write it as a constant. -/
def FormValue.lineOffset? (format : Format) : FormValue → Option Nat
  | sectionOffset offset => some offset
  | data width offset => if width = format.width then some offset else none
  | _ => none

/-- Whether the line table that a unit names has a sound header. -/
def checkLineTable (sections : Sections) (enc : Encoding) (raw : List RawAttribute) :
    Except Error Unit :=
  match lastValue? raw [0x10] (FormValue.lineOffset? enc.format) with
  | none => .ok ()
  | some offset => readAt sections.line offset (lineHeader sections.endian enc.addressWidth)

/-- Whether the address at which a unit begins exists, if the unit names it by its index. -/
def checkLowAddress (sections : Sections) (enc : Encoding) (raw : List RawAttribute) :
    Except Error Unit :=
  let base := (lastValue? raw [0x73, 0x2133] FormValue.sectionOffset?).getD 0
  match lastValue? raw [0x11] some with
  | some (.addressIndex index) =>
    let distance := index * enc.addressWidth % UInt64.size
    (readAt sections.addr (base + distance) (block enc.addressWidth)).map fun _ => ()
  | _ => .ok ()

/-- The unit with a given header. -/
def unit (sections : Sections) (header : UnitHeader) : Except Fault CompilationUnit := do
  let table ← (readAt sections.abbreviations header.abbreviationsOffset abbreviationTable).mapError
    Fault.dwarf
  let enc := header.encoding
  let (raw, _) ← ((rootAttributes enc table).run header.entries).mapError Fault.dwarf
  (checkLineTable sections enc raw).mapError Fault.dwarf
  (checkLowAddress sections enc raw).mapError Fault.dwarf
  let base := (lastValue? raw [0x72] FormValue.sectionOffset?).getD 0
  let tree ← tree ⟨sections, header.offset, enc, base⟩ table header.entries
  (CompilationUnit.ofTree (UInt64.ofNat header.offset) tree).mapError fun e =>
    .inContext s!"Failed to index unit at 0x{Text.hexString header.offset}" (.store e)

/-- The units at the front of a window, after those already read, the last one first. -/
def unitsFrom (sections : Sections) (units : List CompilationUnit) (w : Window) :
    Except Fault (List CompilationUnit) :=
  if w.size = 0 then
    .ok units.reverse
  else
    match _ : (unitHeader sections.endian).run w with
    | .error e => .error (.dwarf e)
    | .ok (header, w') =>
      match unit sections header with
      | .error fault => .error fault
      | .ok u => unitsFrom sections (u :: units) w'
  termination_by w.size
  decreasing_by exact consumes_unitHeader _ (by assumption)

/-- The units of a file, in order. The first fault ends the decoding. -/
def decode (sections : Sections) : Except Fault (List CompilationUnit) :=
  unitsFrom sections [] (.ofBytes sections.info)

end Prototyper.Dwarf
