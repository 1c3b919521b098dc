import Prototyper.Pattern.Grammar

/-!
# Supported patterns

A pattern is matched without tables of Unicode. So nothing in it may need to know which characters
of Unicode are letters, digits, blanks or parts of words, or the capital forms of letters; for the
characters of ASCII, this is known. What is matched is text, so no part of a pattern may match bytes
that are none.
-/

namespace Prototyper.Pattern

/-- How a part of a pattern is matched. -/
structure Mode where
  unicode : Bool := true
  ignoreCase : Bool := false
  deriving DecidableEq, Inhabited, Repr

/-- The mode after switches have been turned. -/
def Mode.turn (m : Mode) (s : Switches) : Mode where
  unicode := s.apply .unicode m.unicode
  ignoreCase := s.apply .ignoreCase m.ignoreCase

/-- Whether an assertion asks what is part of a word. -/
def Assertion.isOfWords : Assertion → Bool
  | .wordBoundary | .noWordBoundary | .wordStart | .wordEnd => true
  | .lineStart | .lineEnd | .textStart | .textEnd => false

/-- Whether an atom can be matched in a mode. Among bytes, a byte outside of ASCII is no text, and
neither is what a dot or the opposite of a class may match. -/
def Atom.isSupported (m : Mode) : Atom → Bool
  | .literal l => if m.unicode then !m.ignoreCase else !l.isByte || l.char.toNat < 128
  | .dot => m.unicode
  | .assertion a => !(m.unicode && a.isOfWords)
  | .shorthand _ negated => !m.unicode && !negated

/-- Whether a character in brackets can be matched in a mode. -/
def Literal.isClassSupported (m : Mode) (l : Literal) : Bool :=
  if m.unicode then !m.ignoreCase else l.char.toNat < 128

mutual

/-- Whether a class can be matched in a mode. -/
def CharClass.isSupported (m : Mode) : CharClass → Bool
  | .empty => true
  | .literal l => l.isClassSupported m
  | .range first last => first.isClassSupported m && last.isClassSupported m
  | .named _ negated => if m.unicode then !m.ignoreCase else !negated
  | .shorthand _ negated => !m.unicode && !negated
  | .bracket negated inner => inner.isSupported m && (m.unicode || !negated)
  | .union items => areClassesSupported m items
  | .operation _ left right => left.isSupported m && right.isSupported m

/-- Whether several classes can be matched in a mode. -/
def areClassesSupported (m : Mode) : List CharClass → Bool
  | [] => true
  | item :: items => item.isSupported m && areClassesSupported m items

end

mutual

/-- The mode after a pattern, if it can be matched in the mode before it. Switches in a group do not
outlast it. -/
def modeAfter? (m : Mode) : Pattern → Option Mode
  | .empty => some m
  | .switches s => some (m.turn s)
  | .atom a => if a.isSupported m then some m else none
  | .bracketed c => if c.isSupported m then some m else none
  | .repetition inner => modeAfter? m inner
  | .group s inner => (modeAfter? (m.turn s) inner).map fun _ => m
  | .sequence items | .choice items => modeAfterAll? m items

/-- The mode after several patterns, one after another. -/
def modeAfterAll? (m : Mode) : List Pattern → Option Mode
  | [] => some m
  | item :: items => do modeAfterAll? (← modeAfter? m item) items

end

/-- Whether a text is a pattern that can be matched. -/
def isPattern (s : List Char) : Bool :=
  (ofText? s).any fun p => (modeAfter? {} p).isSome

end Prototyper.Pattern
