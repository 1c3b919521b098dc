import Prototyper.Text.Numeral
import Prototyper.Toml.Basic

/-!
# Numbers and moments

The forms of integers, floating-point numbers, dates and times. A form that denotes no number that
can be stored, or no day of the calendar, is refused.

Which forms there are is part of the TOML assumption (see `Toml.Basic`).
-/

namespace Prototyper.Toml

/-- Whether digits, which may have single underscores between them, are all of a kind. -/
def isDigits (test : Char → Bool) : List Char → Bool
  | [] => false
  | [c] => test c
  | c :: '_' :: rest => test c && isDigits test rest
  | c :: rest => test c && isDigits test rest

/-- The value of digits in a base; underscores do not count. -/
def digitsValue (base : Nat) (digits : List Char) : Nat :=
  Text.ofDigits base (digits.filter (· != '_'))

/-- A text without its sign, and whether the sign is a minus. -/
def dropSign : List Char → Bool × List Char
  | '-' :: rest => (true, rest)
  | '+' :: rest => (false, rest)
  | text => (false, text)

/-- Whether a text is a decimal number without a sign and without leading zeros. -/
def isDecimal (text : List Char) : Bool :=
  isDigits Char.isDigit text && (text.head? != some '0' || text.length == 1)

/-- The number of integers of 64 bits that are not negative. -/
def integerCount : Nat :=
  1 <<< 63

/-- Whether a text is an integer of 64 bits. -/
def isInteger (text : List Char) : Bool :=
  let based (base : Nat) (test : Char → Bool) (digits : List Char) : Bool :=
    isDigits test digits && digitsValue base digits < integerCount
  match text with
  | '0' :: 'x' :: digits => based 16 Text.isHexDigit digits
  | '0' :: 'o' :: digits => based 8 (fun c => '0' ≤ c && c ≤ '7') digits
  | '0' :: 'b' :: digits => based 2 (fun c => c == '0' || c == '1') digits
  | _ =>
    let (negative, digits) := dropSign text
    let bound := if negative then integerCount + 1 else integerCount
    isDecimal digits && digitsValue 10 digits < bound

/-- The exponent at the front of a text, if the text is an exponent. -/
def exponent? (text : List Char) : Option Int :=
  let (negative, digits) := dropSign text
  if isDigits Char.isDigit digits then
    some (if negative then -(digitsValue 10 digits : Int) else digitsValue 10 digits)
  else
    none

/-- The least number that is rounded to infinity: half a step above the largest finite one. -/
def infinityThreshold : Nat :=
  1 <<< 1024 - 1 <<< 970

/-- Whether the number of some digits, times a power of ten, is too large for a floating-point
number. The number of places decides unless it is near the limit. -/
def overflows (digits : Nat) (power : Int) : Bool :=
  let places : Int := (Nat.toDigits 10 digits).length + power
  if digits == 0 || places < 300 then false
  else if places > 320 then true
  else if 0 ≤ power then infinityThreshold ≤ digits * Nat.pow 10 power.toNat
  else infinityThreshold * Nat.pow 10 (-power).toNat ≤ digits

/-- Whether a text is a floating-point number, not too large if it is positive. -/
def isFloat (text : List Char) : Bool :=
  let (negative, body) := dropSign text
  if body == "inf".toList || body == "nan".toList then true
  else
    let whole := body.takeWhile fun c => c.isDigit || c == '_'
    let rest := body.dropWhile fun c => c.isDigit || c == '_'
    let sound (fraction : List Char) (power : Int) : Bool :=
      let digits := digitsValue 10 (whole ++ fraction)
      let places := (fraction.filter (· != '_')).length
      isDecimal whole && (negative || !overflows digits (power - places))
    let isMark (c : Char) : Bool := c == 'e' || c == 'E'
    match rest with
    | '.' :: rest =>
      let fraction := rest.takeWhile fun c => !isMark c
      isDigits Char.isDigit fraction &&
        match rest.dropWhile fun c => !isMark c with
        | [] => sound fraction 0
        | _ :: power => (exponent? power).any (sound fraction)
    | c :: power => isMark c && (exponent? power).any (sound [])
    | [] => false

/-- The number of two digits. -/
def twoDigits? (a b : Char) : Option Nat :=
  if a.isDigit && b.isDigit then some (digitsValue 10 [a, b]) else none

/-- The number of days of a month. -/
def daysIn (year month : Nat) : Nat :=
  if month == 2 then
    if year % 4 == 0 && (year % 100 != 0 || year % 400 == 0) then 29 else 28
  else if month == 4 || month == 6 || month == 9 || month == 11 then 30
  else 31

/-- Whether a text is a day of the calendar. -/
def isDate : List Char → Bool
  | [y₁, y₂, y₃, y₄, '-', m₁, m₂, '-', d₁, d₂] =>
    let year := [y₁, y₂, y₃, y₄]
    match twoDigits? m₁ m₂, twoDigits? d₁ d₂ with
    | some month, some day =>
      year.all Char.isDigit && 1 ≤ month && month ≤ 12 && 1 ≤ day &&
        day ≤ daysIn (digitsValue 10 year) month
    | _, _ => false
  | _ => false

/-- Whether a text is an hour and a minute. -/
def isHourMinute : List Char → Bool
  | [h₁, h₂, ':', m₁, m₂] => (twoDigits? h₁ h₂).any (· < 24) && (twoDigits? m₁ m₂).any (· < 60)
  | _ => false

/-- Whether a text is a time of the day, which may have a leap second and a fraction of a second. -/
def isTime (text : List Char) : Bool :=
  isHourMinute (text.take 5) &&
    match text.drop 5 with
    | ':' :: s₁ :: s₂ :: rest =>
      (twoDigits? s₁ s₂).any (· ≤ 60) &&
        match rest with
        | [] => true
        | '.' :: fraction => !fraction.isEmpty && fraction.all Char.isDigit
        | _ => false
    | _ => false

/-- Whether a text is a time of the day with the distance of its time zone. -/
def isZonedTime (text : List Char) : Bool :=
  let isZone (c : Char) : Bool := c == 'Z' || c == 'z' || c == '+' || c == '-'
  let time := text.takeWhile fun c => !isZone c
  isTime time &&
    match text.dropWhile fun c => !isZone c with
    | ['Z'] | ['z'] => true
    | '+' :: zone | '-' :: zone => isHourMinute zone
    | _ => false

/-- Whether a text is a date, a time, or both with a mark or a space between them. -/
def isMoment (text : List Char) : Bool :=
  isTime text || isDate text ||
    (isDate (text.take 10) &&
      match text.drop 10 with
      | mark :: time =>
        (mark == 'T' || mark == 't' || mark == ' ') && (isTime time || isZonedTime time)
      | [] => false)

/-- Whether a character may belong to a value without quotes. -/
def isScalarChar (c : Char) : Bool :=
  c.isAlphanum || c == '+' || c == '-' || c == '.' || c == '_' || c == ':'

/-- The value that a text without quotes is. -/
def scalar? (text : List Char) : Option Literal :=
  if text == "true".toList then some (.boolean true)
  else if text == "false".toList then some (.boolean false)
  else if isInteger text || isFloat text then some .number
  else if isMoment text then some .moment
  else none

/-- The value without quotes that begins with a character. A date may be followed by a space and a
time. -/
def scalar (first : Char) : Grammar Literal := do
  let text := first :: (← TextReader.takeWhile isScalarChar)
  let following ← Reader.rest
  let full ← if isDate text && (following.drop 1).head?.any Char.isDigit then
      if ← TextReader.accept [' '] then
        pure (text ++ ' ' :: (← TextReader.takeWhile isScalarChar))
      else
        pure text
    else
      pure text
  match scalar? full with
  | some value => return value
  | none => fail

end Prototyper.Toml
