/-!
# Numerals

Unsigned numbers as text: decimal digits for lengths and line numbers, lower-case hexadecimal for
offsets, without leading zeros unless a width asks for them. Hexadecimal digits are read in capital
letters too.
-/

namespace Prototyper.Text

/-- The decimal digits of `n`, most significant first. -/
def decimal (n : Nat) : List Char :=
  Nat.toDigits 10 n

/-- The lower-case hexadecimal digits of `n`, most significant first. -/
def hex (n : Nat) : List Char :=
  Nat.toDigits 16 n

/-- The hexadecimal digits of `n`, filled up with zeros on the left to at least `width` digits. -/
def hexPadded (width n : Nat) : List Char :=
  (hex n).leftpad width '0'

/-- The hexadecimal digits of `n` as a string. -/
def hexString (n : Nat) : String :=
  String.ofList (hex n)

/-- Whether a character is a hexadecimal digit. -/
def isHexDigit (c : Char) : Bool :=
  c.isDigit || ('a' ≤ c && c ≤ 'f') || ('A' ≤ c && c ≤ 'F')

/-- The value of a digit; letters go on after nine. -/
def digitValue (c : Char) : Nat :=
  if c.isDigit then c.toNat - '0'.toNat
  else if c.isLower then c.toNat - 'a'.toNat + 10
  else c.toNat - 'A'.toNat + 10

/-- The number that digits write in a base. -/
def ofDigits (base : Nat) (digits : List Char) : Nat :=
  digits.foldl (fun n c => n * base + digitValue c) 0

/-- Reading the decimal digits of `n` gives `n` back. -/
theorem ofDigitChars_decimal (n : Nat) : Nat.ofDigitChars 10 (decimal n) 0 = n :=
  Nat.ofDigitChars_toDigits (by decide) (by decide)

/-- Different numbers have different decimal texts. -/
theorem decimal_injective {m n : Nat} (h : decimal m = decimal n) : m = n := by
  rw [← ofDigitChars_decimal m, h, ofDigitChars_decimal]

/-- A decimal text holds digits only. -/
theorem isDigit_of_mem_decimal {n : Nat} {c : Char} (h : c ∈ decimal n) : c.isDigit = true :=
  Nat.isDigit_of_mem_toDigits (by decide) (by decide) h

end Prototyper.Text
