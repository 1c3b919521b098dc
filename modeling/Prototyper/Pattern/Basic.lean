/-!
# Patterns

Regular expressions. A pattern is built from atoms and bracketed classes of characters by sequence,
choice, repetition and groups; switches change how the rest of a group is read and what it matches.
-/

namespace Prototyper

namespace Pattern

/-- What can be switched on and off within a pattern. -/
inductive Switch where
  /-- Capital and small letters match each other. -/
  | ignoreCase
  /-- The assertions about the ends of a text hold at the ends of its lines. -/
  | multiLine
  /-- The dot matches line breaks too. -/
  | dotMatchesAll
  /-- Repetitions are lazy unless a question mark follows. -/
  | swapGreed
  /-- The pattern is about characters rather than bytes. -/
  | unicode
  /-- A carriage return with a line feed is one line break. -/
  | carriageReturn
  /-- Space and comments in the pattern have no meaning. -/
  | spaced
  deriving DecidableEq, Inhabited, Repr

/-- Switches that are turned at one place. -/
structure Switches where
  on : List Switch := []
  off : List Switch := []
  deriving DecidableEq, Inhabited, Repr

/-- The state of a switch after others have been turned. -/
def Switches.apply (s : Switches) (switch : Switch) (state : Bool) : Bool :=
  (state || s.on.contains switch) && !s.off.contains switch

/-- A character that stands for itself. -/
structure Literal where
  char : Char
  /-- Whether it is written as a byte, by two hexadecimal digits. -/
  isByte : Bool := false
  deriving DecidableEq, Inhabited, Repr

/-- A place in a text that a pattern can ask for. -/
inductive Assertion where
  | lineStart
  | lineEnd
  | textStart
  | textEnd
  | wordBoundary
  | noWordBoundary
  | wordStart
  | wordEnd
  deriving DecidableEq, Inhabited, Repr

/-- A class of characters that has a short name. -/
inductive Shorthand where
  | digit
  | space
  | word
  deriving DecidableEq, Inhabited, Repr

/-- The smallest part of a pattern. -/
inductive Atom where
  | literal (l : Literal)
  | dot
  | assertion (a : Assertion)
  | shorthand (s : Shorthand) (negated : Bool)
  deriving DecidableEq, Inhabited, Repr

/-- What two classes of characters can be put together by. -/
inductive ClassOperation where
  | intersection
  | difference
  | symmetricDifference
  deriving DecidableEq, Inhabited, Repr

/-- A class of characters, as it is written in brackets. -/
inductive CharClass where
  | empty
  | literal (l : Literal)
  | range (first last : Literal)
  | named (name : String) (negated : Bool)
  | shorthand (s : Shorthand) (negated : Bool)
  | bracket (negated : Bool) (inner : CharClass)
  | union (items : List CharClass)
  | operation (op : ClassOperation) (left right : CharClass)
  deriving Inhabited

/-- The class of all that several classes hold. -/
def CharClass.ofItems : List CharClass → CharClass
  | [] => .empty
  | [item] => item
  | items => .union items

end Pattern

/-- A regular expression. -/
inductive Pattern where
  | empty
  | switches (s : Pattern.Switches)
  | atom (a : Pattern.Atom)
  | bracketed (c : Pattern.CharClass)
  | repetition (repeated : Pattern)
  /-- A group, with the switches that are turned at its start. -/
  | group (s : Pattern.Switches) (inner : Pattern)
  | sequence (items : List Pattern)
  | choice (branches : List Pattern)
  deriving Inhabited

namespace Pattern

/-- The pattern of several items in sequence. -/
def ofItems : List Pattern → Pattern
  | [] => .empty
  | [item] => item
  | items => .sequence items

/-- The pattern of several branches. -/
def ofBranches : List Pattern → Pattern
  | [branch] => branch
  | branches => .choice branches

mutual

/-- How deep the parts of a class nest. -/
def CharClass.depth : CharClass → Nat
  | .empty | .literal _ | .range _ _ | .named _ _ | .shorthand _ _ => 0
  | .bracket _ inner => inner.depth + 1
  | .union items => classesDepth items + 1
  | .operation _ left right => max left.depth right.depth + 1

/-- How deep the parts of several classes nest. -/
def classesDepth : List CharClass → Nat
  | [] => 0
  | item :: items => max item.depth (classesDepth items)

end

mutual

/-- How deep the parts of a pattern nest. -/
def depth : Pattern → Nat
  | .empty | .switches _ | .atom _ => 0
  | .bracketed c => c.depth
  | .repetition inner | .group _ inner => inner.depth + 1
  | .sequence items | .choice items => patternsDepth items + 1

/-- How deep the parts of several patterns nest. -/
def patternsDepth : List Pattern → Nat
  | [] => 0
  | item :: items => max item.depth (patternsDepth items)

end

end Pattern

end Prototyper
