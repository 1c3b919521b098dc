import Prototyper.Bytes.Reader
import Prototyper.Dwarf.Error

/-!
# Encoded numbers

Numbers of fixed width, the two variable-width encodings (LEB128), and the widths that a unit
chooses for its offsets and addresses.

The modules of `Dwarf` are a reader of their own, and what is proved of decoding is about the units
that this reader finds. That it takes bytes as the documents of DWARF 2 to 5 describe them, and as
other readers of the format do, is not proved: it is the *DWARF assumption*. It covers numbers,
abbreviations, forms, headers, the codes of tags and attributes, and which bytes are refused.
-/

namespace Prototyper.Dwarf

/-- The next byte. -/
def byte : ByteReader Error UInt8 :=
  ByteReader.byte .endOfInput

/-- The next `n` bytes. -/
def block (n : Nat) : ByteReader Error Window :=
  ByteReader.split .endOfInput n

/-- A number of `n` bytes. -/
def fixed (endian : Endian) (n : Nat) : ByteReader Error Nat := do
  return endian.value (← block n).toList

/-- Text up to a zero byte, which is not part of it. -/
def terminated : ByteReader Error Window := do
  match (← Reader.rest).indexOfZero? with
  | none => .fail .endOfInput
  | some n =>
    let text ← block n
    let _ ← byte
    return text

/-- An unsigned variable-width number: seven bits a byte, lowest first, and a high bit on all bytes
but the last. After `more` further bytes only the lowest bit is left. -/
def unsignedLebFrom : (more : Nat) → ByteReader Error Nat
  | 0 => do
    let b ← byte
    if b ≤ 1 then return b.toNat else .fail .badUnsignedLeb
  | more + 1 => do
    let b ← byte
    if b < 128 then return b.toNat
    return b.toNat - 128 + 128 * (← unsignedLebFrom more)

/-- An unsigned variable-width number of 64 bits. -/
def unsignedLeb : ByteReader Error Nat :=
  unsignedLebFrom 9

/-- A signed variable-width number: the last byte has the sign in its seventh bit, and after `more`
further bytes nothing but the sign is left. -/
def signedLebFrom : (more : Nat) → ByteReader Error Int
  | 0 => do
    let b ← byte
    if b = 0 then return 0
    else if b = 0x7f then return -1
    else .fail .badSignedLeb
  | more + 1 => do
    let b ← byte
    if b < 64 then return b.toNat
    else if b < 128 then return (b.toNat : Int) - 128
    return (b.toNat : Int) - 128 + 128 * (← signedLebFrom more)

/-- A signed variable-width number of 64 bits. -/
def signedLeb : ByteReader Error Int :=
  signedLebFrom 9

/-- An unsigned variable-width number of 16 bits, as tags, attributes and forms are. -/
def shortLeb : ByteReader Error UInt16 := do
  let b₀ ← byte
  if b₀ < 128 then return b₀.toUInt16
  let b₁ ← byte
  if b₁ < 128 then return UInt16.ofNat (b₀.toNat - 128 + 128 * b₁.toNat)
  let b₂ ← byte
  if b₂ ≤ 3 then
    return UInt16.ofNat (b₀.toNat - 128 + 128 * (b₁.toNat - 128) + 16384 * b₂.toNat)
  else
    .fail .badUnsignedLeb

/-- Reading an unsigned variable-width number takes a byte. -/
theorem consumes_unsignedLeb : unsignedLeb.Consumes := by
  unfold unsignedLeb unsignedLebFrom
  exact Reader.Consumes.bind (ByteReader.consumes_byte _) _

/-- Reading a short variable-width number takes a byte. -/
theorem consumes_shortLeb : shortLeb.Consumes := by
  unfold shortLeb
  exact Reader.Consumes.bind (ByteReader.consumes_byte _) _

/-- Reading a number of fixed width takes a byte, unless the width is zero. -/
theorem consumes_fixed {endian : Endian} {n : Nat} (h : 0 < n) : (fixed endian n).Consumes := by
  unfold fixed block
  exact Reader.Consumes.bind (ByteReader.consumes_split h) _

/-- The width of offsets. -/
inductive Format where
  | short
  | long
  deriving DecidableEq, Inhabited, Repr

/-- The number of bytes of an offset. -/
def Format.width : Format → Nat
  | short => 4
  | long => 8

/-- The choices on which the encoding of a unit depends. -/
structure Encoding where
  endian : Endian
  format : Format
  version : Nat
  /-- The number of bytes of an address. -/
  addressWidth : Nat
  deriving Inhabited, Repr

/-- An offset into a section. -/
def Encoding.offset (enc : Encoding) : ByteReader Error Nat :=
  fixed enc.endian enc.format.width

/-- A length in front of a unit, which also tells the width of its offsets. -/
def initialLength (endian : Endian) : ByteReader Error (Nat × Format) := do
  let n ← fixed endian 4
  if n < 0xfffffff0 then return (n, .short)
  else if n = 0xffffffff then return (← fixed endian 8, .long)
  else .fail .reservedLength

/-- The number of bytes of an address. -/
def addressWidth : ByteReader Error Nat := do
  let b ← byte
  if b = 1 ∨ b = 2 ∨ b = 4 ∨ b = 8 then return b.toNat
  else .fail .unsupportedAddressSize

end Prototyper.Dwarf
