import Prototyper.Dwarf.Sections

/-!
# Headers of line tables

A unit may name its line table. Nothing of it matters for prototypes, but a unit whose line table
has a broken header is refused.

What makes a header broken is part of the DWARF assumption (see `Dwarf.Encoding`).
-/

namespace Prototyper.Dwarf

/-- Texts up to an empty one, each followed by what `tail` skips. -/
def skipTexts (tail : ByteReader Error Unit) : ByteReader Error Unit :=
  Reader.skipWhile
    (byte >>= fun first =>
      if first = 0 then pure false else terminated >>= fun _ => tail >>= fun _ => pure true)
    (Reader.Consumes.bind (ByteReader.consumes_byte _) _)

/-- A value in the description of a directory or file. -/
def skipEntryValue (enc : Encoding) (form : UInt16) : ByteReader Error Unit := do
  let skip (n : Nat) : ByteReader Error Unit := do let _ ← block n
  match form.toNat with
  | 0x03 => skip (← fixed enc.endian 2)
  | 0x04 => skip (← fixed enc.endian 4)
  | 0x05 => skip 2
  | 0x06 => skip 4
  | 0x07 => skip 8
  | 0x08 => do let _ ← terminated
  | 0x09 => skip (← unsignedLeb)
  | 0x0a => skip (← fixed enc.endian 1)
  | 0x0b => skip 1
  | 0x0c => skip 1
  | 0x0d => do let _ ← signedLeb
  | 0x0e => skip enc.format.width
  | 0x0f => do let _ ← unsignedLeb
  | 0x17 => skip enc.format.width
  | 0x1a => do let _ ← unsignedLeb
  | 0x1d => skip enc.format.width
  | 0x1e => skip 16
  | 0x1f => skip enc.format.width
  | 0x25 => skip 1
  | 0x26 => skip 2
  | 0x27 => skip 3
  | 0x28 => skip 4
  | 0x1f21 => skip enc.format.width
  | _ => .fail .unknownForm

/-- Pairs of what a description says and of its form, as many as the count tells. -/
def entryFormats : (count : Nat) → ByteReader Error (List (Nat × UInt16))
  | 0 => pure []
  | count + 1 => do
    let content ← unsignedLeb
    let form ← shortLeb
    return (content, form) :: (← entryFormats count)

/-- One description after another, as many as the count tells. -/
def skipEntries (enc : Encoding) (formats : List (Nat × UInt16)) :
    (count : Nat) → ByteReader Error Unit
  | 0 => pure ()
  | count + 1 => do
    formats.forM fun f => skipEntryValue enc f.2
    skipEntries enc formats count

/-- The formats of descriptions, of which exactly one is a path, and the descriptions. -/
def skipEntryTable (enc : Encoding) : ByteReader Error Unit := do
  let formats ← entryFormats (← byte).toNat
  if (formats.filter fun f => f.1 == 1).length ≠ 1 then
    .fail .missingPathFormat
  skipEntries enc formats (← unsignedLeb)

/-- A byte that must not be zero. -/
def nonzero (e : Error) : ByteReader Error UInt8 := do
  let b ← byte
  if b = 0 then .fail e else return b

/-- The fields of a header after its length. -/
def lineHeaderFields (enc : Encoding) : ByteReader Error Unit := do
  let _ ← nonzero .minimumInstructionLengthZero
  if enc.version ≥ 4 then
    let _ ← nonzero .maximumOperationsZero
  let _ ← block 2
  let _ ← nonzero .lineRangeZero
  let opcodeBase ← nonzero .opcodeBaseZero
  let _ ← block (opcodeBase.toNat - 1)
  if enc.version ≤ 4 then
    skipTexts (pure ())
    skipTexts do
      let _ ← unsignedLeb
      let _ ← unsignedLeb
      let _ ← unsignedLeb
  else
    skipEntryTable enc
    skipEntryTable enc

/-- The header of a line table, whose unit has addresses of a given width. -/
def lineHeader (endian : Endian) (unitAddressWidth : Nat) : ByteReader Error Unit := do
  let (length, format) ← initialLength endian
  let body ← block length
  let _ ← ByteReader.within body do
    let version ← fixed endian 2
    if version < 2 ∨ 5 < version then
      .fail .unknownVersion
    let width ← if version = 5 then addressWidth else pure unitAddressWidth
    if version = 5 then
      let segmentWidth ← byte
      if segmentWidth ≠ 0 then
        .fail .unsupportedSegmentSize
    let enc : Encoding := ⟨endian, format, version, width⟩
    let fields ← block (← enc.offset)
    let _ ← ByteReader.within fields (lineHeaderFields enc)

end Prototyper.Dwarf
