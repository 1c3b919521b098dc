/-!
# Log levels

How much is logged: nothing, errors only, and so on up to everything. A level has a name and a
number.
-/

namespace Prototyper.Log

/-- How much is logged. -/
inductive Level where
  | off
  | error
  | warn
  | info
  | debug
  | trace
  deriving DecidableEq, Inhabited, Repr

namespace Level

/-- All levels, the one that logs least first. -/
def all : List Level :=
  [off, error, warn, info, debug, trace]

/-- The name of a level. -/
def label : Level → String
  | off => "off"
  | error => "error"
  | warn => "warn"
  | info => "info"
  | debug => "debug"
  | trace => "trace"

/-- The number of a level: the more is logged, the greater. -/
def number : Level → Nat
  | off => 0
  | error => 1
  | warn => 2
  | info => 3
  | debug => 4
  | trace => 5

/-- The level that logs more. -/
def max (l l' : Level) : Level :=
  if l.number < l'.number then l' else l

/-- The greatest of several levels. -/
def greatest (levels : List Level) : Level :=
  levels.foldr max off

/-- The number that a text writes in decimal digits, after a plus sign or without one. -/
def numeral? (s : List Char) : Option Nat :=
  let digits := if s.head? = some '+' then s.tail else s
  if !digits.isEmpty && digits.all Char.isDigit then some (Nat.ofDigitChars 10 digits 0) else none

/-- The level with a number, or with a name in small or capital letters. -/
def ofText? (s : List Char) : Option Level :=
  all.find? fun l => numeral? s = some l.number || s.map Char.toLower = l.label.toList

end Level

end Prototyper.Log
