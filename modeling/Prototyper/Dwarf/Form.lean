import Prototyper.Dwarf.Abbreviation

/-!
# Forms

A form is the encoding of an attribute in an entry. All forms have to be read, since the next
attribute begins where one ends; of the values only those matter that a prototype may need.

Which bytes a form takes is part of the DWARF assumption (see `Dwarf.Encoding`).
-/

namespace Prototyper.Dwarf

/-- The value of an attribute as its form encodes it. -/
inductive FormValue where
  /-- A constant of fixed width in bytes. -/
  | data (width n : Nat)
  | unsigned (n : Nat)
  | signed (n : Int)
  | flag (set : Bool)
  /-- A text in the entry itself. -/
  | text (w : Window)
  /-- A text by its offset among the texts of the file. -/
  | textOffset (offset : Nat)
  /-- A text by its offset among the texts of line tables. -/
  | lineTextOffset (offset : Nat)
  /-- A text by its index in the table of text offsets. -/
  | textIndex (index : Nat)
  /-- An entry by its distance from the beginning of the unit. -/
  | unitReference (distance : Nat)
  /-- An entry by its offset in the section. -/
  | sectionReference (offset : Nat)
  | typeSignature (signature : Nat)
  /-- An entry of a supplementary file. -/
  | supplementaryReference (offset : Nat)
  /-- An offset into another section. -/
  | sectionOffset (offset : Nat)
  /-- An address by its index in the table of addresses. -/
  | addressIndex (index : Nat)
  /-- A value without a use for prototypes. -/
  | unused
  deriving Inhabited

/-- The form that a form stands for: an indirect one is given in front of the value. -/
def directForm (form : UInt16) : ByteReader Error UInt16 :=
  Reader.iterate
    (fun form =>
      if form = 0x16 then shortLeb >>= fun direct => pure (some direct) else pure none)
    (fun form => by
      split
      · exact Reader.Consumes.advances (Reader.Consumes.bind consumes_shortLeb _)
      · exact Reader.advances_pure_none)
    form

/-- A value whose form leaves some bytes without a use. -/
def unusedBlock (n : Nat) : ByteReader Error FormValue := do
  let _ ← block n
  return .unused

/-- The value of an attribute in a form that is not indirect. The abbreviation may hold the value
itself. -/
def directValue (enc : Encoding) (implicit : Option Int) (form : UInt16) :
    ByteReader Error FormValue := do
  let number := fixed enc.endian
  match form.toNat with
  | 0x01 => unusedBlock enc.addressWidth
  | 0x03 => unusedBlock (← number 2)
  | 0x04 => unusedBlock (← number 4)
  | 0x05 => return .data 2 (← number 2)
  | 0x06 => return .data 4 (← number 4)
  | 0x07 => return .data 8 (← number 8)
  | 0x08 => return .text (← terminated)
  | 0x09 => unusedBlock (← unsignedLeb)
  | 0x0a => unusedBlock (← number 1)
  | 0x0b => return .data 1 (← number 1)
  | 0x0c => return .flag ((← number 1) ≠ 0)
  | 0x0d => return .signed (← signedLeb)
  | 0x0e => return .textOffset (← enc.offset)
  | 0x0f => return .unsigned (← unsignedLeb)
  | 0x10 =>
    let width := if enc.version = 2 then enc.addressWidth else enc.format.width
    return .sectionReference (← number width)
  | 0x11 => return .unitReference (← number 1)
  | 0x12 => return .unitReference (← number 2)
  | 0x13 => return .unitReference (← number 4)
  | 0x14 => return .unitReference (← number 8)
  | 0x15 => return .unitReference (← unsignedLeb)
  | 0x17 => return .sectionOffset (← enc.offset)
  | 0x18 => unusedBlock (← unsignedLeb)
  | 0x19 => return .flag true
  | 0x1a => return .textIndex (← unsignedLeb)
  | 0x1b => return .addressIndex (← unsignedLeb)
  | 0x1c => return .supplementaryReference (← number 4)
  | 0x1d => unusedBlock enc.format.width
  | 0x1e => unusedBlock 16
  | 0x1f => return .lineTextOffset (← enc.offset)
  | 0x20 => return .typeSignature (← number 8)
  | 0x21 =>
    match implicit with
    | some n => return .signed n
    | none => .fail .invalidImplicitConst
  | 0x22 => do let _ ← unsignedLeb; return .unused
  | 0x23 => do let _ ← unsignedLeb; return .unused
  | 0x24 => return .supplementaryReference (← number 8)
  | 0x25 => return .textIndex (← number 1)
  | 0x26 => return .textIndex (← number 2)
  | 0x27 => return .textIndex (← number 3)
  | 0x28 => return .textIndex (← number 4)
  | 0x29 => return .addressIndex (← number 1)
  | 0x2a => return .addressIndex (← number 2)
  | 0x2b => return .addressIndex (← number 3)
  | 0x2c => return .addressIndex (← number 4)
  | 0x1f01 => return .addressIndex (← unsignedLeb)
  | 0x1f02 => return .textIndex (← unsignedLeb)
  | 0x1f20 => return .supplementaryReference (← enc.offset)
  | 0x1f21 => unusedBlock enc.format.width
  | _ => .fail .unknownForm

/-- The value of an attribute in any form. -/
def formValue (enc : Encoding) (spec : AttributeSpec) : ByteReader Error FormValue := do
  directValue enc spec.implicit (← directForm spec.form)

end Prototyper.Dwarf
