import Prototyper.Dwarf.Sections
import Std.Data.HashMap

/-!
# Abbreviations

A table of abbreviations says, for each code with which an entry may begin, what the tag of the
entry is, which attributes it has in which forms, and whether it has children.

How tables are laid out is part of the DWARF assumption (see `Dwarf.Encoding`).
-/

namespace Prototyper.Dwarf

/-- An attribute that the entries of an abbreviation have, by the numbers of its name and form. Some
forms hold the value here instead of in the entry. -/
structure AttributeSpec where
  name : UInt16
  form : UInt16
  implicit : Option Int := none
  deriving DecidableEq, Inhabited, Repr

/-- What the entries with a code have in common. -/
structure Abbreviation where
  tag : UInt16
  hasChildren : Bool
  specs : List AttributeSpec
  deriving DecidableEq, Inhabited, Repr

/-- The abbreviations of a unit by code. -/
abbrev AbbreviationTable : Type :=
  Std.HashMap Nat Abbreviation

/-- The next attribute of an abbreviation; two zeros end them. -/
def attributeSpec : ByteReader Error (Option AttributeSpec) := do
  let name ← shortLeb
  let form ← shortLeb
  if name = 0 then
    if form = 0 then return none
    .fail .expectedZero
  if form = 0 then
    .fail .attributeFormZero
  if form = 0x21 then
    return some ⟨name, form, some (← signedLeb)⟩
  return some ⟨name, form, none⟩

/-- An attribute takes bytes. -/
theorem consumes_attributeSpec : attributeSpec.Consumes :=
  Reader.Consumes.bind consumes_shortLeb _

/-- The attributes of an abbreviation. -/
def attributeSpecs : ByteReader Error (List AttributeSpec) :=
  Reader.many attributeSpec (Reader.Consumes.advances consumes_attributeSpec)

/-- The abbreviation after its code. -/
def abbreviation : ByteReader Error Abbreviation := do
  let tag ← shortLeb
  if tag = 0 then
    .fail .abbreviationTagZero
  let children ← byte
  if children > 1 then
    .fail .badHasChildren
  return ⟨tag, children = 1, ← attributeSpecs⟩

/-- A table with the next abbreviation added; the code zero ends the table. -/
def addAbbreviation (table : AbbreviationTable) : ByteReader Error (Option AbbreviationTable) := do
  let code ← unsignedLeb
  if code = 0 then
    return none
  let a ← abbreviation
  if table.contains code then
    .fail .duplicateAbbreviation
  return some (table.insert code a)

/-- A table of abbreviations, which the end of the section ends, too. -/
def abbreviationTable : ByteReader Error AbbreviationTable :=
  Reader.iterate (fun table => (addAbbreviation table).unlessAtEnd)
    (fun _ => Reader.Advances.unlessAtEnd
      (Reader.Consumes.advances (Reader.Consumes.bind consumes_unsignedLeb _))) ∅

end Prototyper.Dwarf
