import Prototyper.Pattern.Support
import Prototyper.Text.Split

/-!
# Fields of spans

What a log filter asks of a field of a span: that the span has it, or that it has a value. The value
is a number or a pattern; a truth value is a pattern too.
-/

namespace Prototyper.Log

/-- A text without the sign in front. -/
def dropSign : List Char → List Char
  | '+' :: s | '-' :: s => s
  | s => s

/-- Whether a text is nothing or the exponent of a number. -/
def isExponent : List Char → Bool
  | [] => true
  | mark :: s =>
    let digits := dropSign s
    (mark == 'e' || mark == 'E') && !digits.isEmpty && digits.all Char.isDigit

/-- Whether a text is a number: digits, with at most one point before, among or after them, and
perhaps an exponent. -/
def isNumber (text : List Char) : Bool :=
  let s := dropSign text
  if ["inf", "infinity", "nan"].contains (String.ofList (s.map Char.toLower)) then true
  else
    let whole := s.takeWhile Char.isDigit
    match s.dropWhile Char.isDigit with
    | '.' :: rest =>
      let fraction := rest.takeWhile Char.isDigit
      !(whole ++ fraction).isEmpty && isExponent (rest.dropWhile Char.isDigit)
    | rest => !whole.isEmpty && isExponent rest

/-- What is asked of a field: that there is one, or its value. -/
inductive FieldTest where
  | isPresent
  | hasValue
  deriving DecidableEq, Inhabited, Repr

/-- What a text, with the value after an equals sign, asks of a field. The text after a second
equals sign does not count. -/
def FieldTest.ofText? (s : List Char) : Option FieldTest :=
  match Text.pieces '=' s with
  | _ :: value :: _ => if isNumber value || Pattern.isPattern value then some .hasValue else none
  | _ => some .isPresent

end Prototyper.Log
