import Prototyper.Text.CharSet

/-!
# Blank characters

The characters of all scripts that Unicode calls white space.
-/

namespace Prototyper.Text

/-- The characters that are white space. -/
def blank : CharSet where
  changes :=
    [0x9, 0xe, 0x20, 0x21, 0x85, 0x86, 0xa0, 0xa1, 0x1680, 0x1681, 0x2000, 0x200b, 0x2028, 0x202a,
      0x202f, 0x2030, 0x205f, 0x2060, 0x3000, 0x3001]

/-- Whether a character is white space. -/
def isBlank (c : Char) : Bool :=
  blank.contains c

/-- A text without the blanks at both ends. -/
def trim (s : List Char) : List Char :=
  (s.dropWhile isBlank).reverse.dropWhile isBlank |>.reverse

end Prototyper.Text
