/-!
# Errors in debugging information

What can be wrong with the bytes of debugging sections.
-/

namespace Prototyper.Dwarf

/-- What is wrong with the bytes. -/
inductive Error where
  | endOfInput
  | badUnsignedLeb
  | badSignedLeb
  | reservedLength
  | unknownVersion
  | unsupportedAddressSize
  | unsupportedSegmentSize
  | unsupportedUnitType
  | abbreviationTagZero
  | badHasChildren
  | attributeFormZero
  | expectedZero
  | duplicateAbbreviation
  | unknownAbbreviation
  | unknownForm
  | invalidImplicitConst
  | missingUnitDie
  | unexpectedNull
  | minimumInstructionLengthZero
  | maximumOperationsZero
  | lineRangeZero
  | opcodeBaseZero
  | missingPathFormat
  deriving DecidableEq, Inhabited, Repr

/-- The break inside a message of two lines. -/
private def continued : String :=
  "\n                 "

/-- The message of an error. -/
def Error.message : Error → String
  | endOfInput => "Hit the end of input before it was expected"
  | badUnsignedLeb => "An error parsing an unsigned LEB128 value"
  | badSignedLeb => "An error parsing a signed LEB128 value"
  | reservedLength => "Found an unknown reserved length value"
  | unknownVersion => "Found an unknown DWARF version"
  | unsupportedAddressSize => "The specified address size is not supported"
  | unsupportedSegmentSize => "The specified segment size is not supported"
  | unsupportedUnitType => "The `DW_UT_*` value for this unit is not supported yet"
  | abbreviationTagZero =>
    "An abbreviation declared that its tag is zero," ++ continued ++
      "but zero is reserved for null records"
  | badHasChildren =>
    "The abbreviation's has-children byte was not one of" ++ continued ++
      "`DW_CHILDREN_\x7byes,no\x7d`"
  | attributeFormZero =>
    "An attribute specification declared that its form is zero," ++ continued ++
      "but zero is reserved for null records"
  | expectedZero => "Expected a zero, found something else"
  | duplicateAbbreviation => "Found an abbreviation code that has already been used"
  | unknownAbbreviation => "Found a record with an unknown abbreviation code"
  | unknownForm => "Found an unknown `DW_FORM_*` type"
  | invalidImplicitConst => "DW_FORM_implicit_const used in an invalid context."
  | missingUnitDie => "A compilation unit or type unit is missing its top level DIE."
  | unexpectedNull => "Read a null entry before it was expected."
  | minimumInstructionLengthZero => "The minimum instruction length must not be zero."
  | maximumOperationsZero => "The maximum operations per instruction must not be zero."
  | lineRangeZero => "The line range must not be zero."
  | opcodeBaseZero => "The opcode base must not be zero."
  | missingPathFormat => "A file entry format is missing its path."

end Prototyper.Dwarf
