/-!
# Errors in object files

What can be wrong with the bytes of an object file before its debugging sections are reached.
-/

namespace Prototyper.Elf

/-- What is wrong with an object file. -/
inductive Error where
  | noMagic
  | unknownMagic
  | unsupportedFormat
  | badHeaderSize
  | unsupportedHeader
  | noSectionsForProgramCount
  | badProgramEntrySize
  | badProgramTable
  | badFirstSection
  | badSectionEntrySize
  | badSectionTable
  | noNameSection
  | badNameSection
  | badNameSectionRange
  | badSectionIndex
  | badSymbolTable
  | badStringSectionType
  | badStringSectionRange
  | badSymbolIndexTable
  | badRelocationTarget
  | unsupportedRelocationTarget
  deriving DecidableEq, Inhabited, Repr

/-- The message of an error. -/
def Error.message : Error → String
  | noMagic => "Could not read file magic"
  | unknownMagic => "Unknown file magic"
  | unsupportedFormat => "Unsupported file format"
  | badHeaderSize => "Invalid ELF header size or alignment"
  | unsupportedHeader => "Unsupported ELF header"
  | noSectionsForProgramCount => "Missing ELF section headers for e_phnum overflow"
  | badProgramEntrySize => "Invalid ELF program header entry size"
  | badProgramTable => "Invalid ELF program header size or alignment"
  | badFirstSection => "Invalid ELF section header offset or size"
  | badSectionEntrySize => "Invalid ELF section header entry size"
  | badSectionTable => "Invalid ELF section header offset/size/alignment"
  | noNameSection => "Missing ELF e_shstrndx"
  | badNameSection => "Invalid ELF e_shstrndx"
  | badNameSectionRange => "Invalid ELF shstrtab offset or size"
  | badSectionIndex => "Invalid ELF section index"
  | badSymbolTable => "Invalid ELF symbol table data"
  | badStringSectionType => "Invalid ELF string section type"
  | badStringSectionRange => "Invalid ELF string section offset or size"
  | badSymbolIndexTable => "Invalid ELF symtab_shndx data"
  | badRelocationTarget => "Invalid ELF sh_info for relocation section"
  | unsupportedRelocationTarget => "Unsupported ELF sh_info for relocation section"

end Prototyper.Elf
