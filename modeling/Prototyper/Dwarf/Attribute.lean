import Prototyper.Dwarf.Form
import Prototyper.Entry.Basic

/-!
# Attributes of entries

The value of an attribute follows from its form and from the attribute: a name has to be text, a
flag a flag and a number an integer, and anything else counts as absent. A reference never does: in
a form that leads nowhere it stays an unresolved reference.

The codes of attributes are part of the DWARF assumption (see `Dwarf.Encoding`).
-/

namespace Prototyper

/-- The code of an attribute in the debugging format. -/
def Attr.code : Attr → UInt16
  | name => 0x03
  | type => 0x49
  | inline => 0x20
  | upperBound => 0x2f
  | count => 0x37
  | declaration => 0x3c
  | external => 0x3f
  | abstractOrigin => 0x31
  | specification => 0x47
  | prototyped => 0x27
  | declFile => 0x3a
  | declLine => 0x3b
  | byteSize => 0x0b
  | encoding => 0x3e

namespace Dwarf

/-- An attribute of an entry as it is encoded. -/
structure RawAttribute where
  name : UInt16
  value : FormValue
  deriving Inhabited

/-- What a unit adds to the forms of its entries: where it begins, and where its table of text
offsets begins. -/
structure UnitContext where
  sections : Sections
  offset : Nat
  encoding : Encoding
  textOffsetsBase : Nat

/-- The offset of a text with an index, from the table of text offsets. -/
def UnitContext.textOffset? (u : UnitContext) (index : Nat) : Option Nat :=
  let distance := index * u.encoding.format.width % UInt64.size
  (readAt u.sections.strOffsets (u.textOffsetsBase + distance) u.encoding.offset).toOption

/-- The text that a value stands for. -/
def UnitContext.text? (u : UnitContext) : FormValue → Option String
  | .text w => some (textOf w)
  | .textOffset offset => textAt? u.sections.str offset
  | .lineTextOffset offset => textAt? u.sections.lineStr offset
  | .textIndex index => (u.textOffset? index).bind (textAt? u.sections.str)
  | _ => none

/-- The reference that a value stands for. A reference within the unit counts from where the unit
begins. -/
def UnitContext.reference (u : UnitContext) : FormValue → Value
  | .unitReference distance => .ref ⟨UInt64.ofNat (u.offset + distance)⟩
  | .sectionReference offset => .ref ⟨UInt64.ofNat offset⟩
  | .typeSignature signature =>
    .unresolvedRef s!"type signature 0x{String.ofList (Text.hexPadded 16 signature)}"
  | .supplementaryReference offset =>
    .unresolvedRef s!"supplementary .debug_info offset 0x{Text.hexString offset}"
  | _ => .unresolvedRef "non-reference form"

/-- A flag. -/
def FormValue.flag? : FormValue → Option Value
  | flag set => some (.flag set)
  | _ => none

/-- An integer, as its form has it. -/
def FormValue.integer? : FormValue → Option Value
  | data _ n | unsigned n => some (.unsigned (UInt64.ofNat n))
  | signed n => some (.signed (Int64.ofInt n))
  | _ => none

/-- An integer; below a bound it is unsigned even in a signed form. -/
def FormValue.integerBelow? (bound : Nat) (v : FormValue) : Option Value :=
  match v with
  | signed (.ofNat n) => if n < bound then some (.unsigned (UInt64.ofNat n)) else v.integer?
  | _ => v.integer?

/-- The value of an attribute; absent when the form has none for it. -/
def UnitContext.value? (u : UnitContext) (a : Attr) (v : FormValue) : Option Value :=
  match a with
  | .name => (u.text? v).map Value.string
  | .type | .abstractOrigin | .specification => some (u.reference v)
  | .declaration | .external | .prototyped => v.flag?
  | .inline | .encoding => v.integerBelow? UInt8.size
  | .declFile | .declLine | .byteSize => v.integerBelow? (1 <<< 63)
  | .upperBound | .count => v.integer?

/-- The first value of an attribute. -/
def firstValue? (raw : List RawAttribute) (a : Attr) : Option FormValue :=
  (raw.find? fun r => r.name == a.code).map RawAttribute.value

/-- The attributes of an entry, of each the first value. -/
def UnitContext.attributes (u : UnitContext) (raw : List RawAttribute) : Attributes :=
  .ofList (Attr.all.filterMap fun a =>
    ((firstValue? raw a).bind (u.value? a)).map (a, ·))

end Dwarf

end Prototyper
