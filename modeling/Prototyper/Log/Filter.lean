import Prototyper.Log.Field
import Prototyper.Log.Level
import Prototyper.Settings.Basic
import Prototyper.Text.Alphanumeric
import Prototyper.Text.Blank
import Prototyper.Text.Place

/-!
# Log filters

Which events are logged is said by directives with commas between them. A directive is a level, or
the target that events come from with a level or without one; without one, all events of the target
are logged. In brackets, a target may be followed by a span that events must lie in, with the fields
that the span must have in braces.
-/

namespace Prototyper.Log

/-- Whether a directive may begin with a character, apart from the bracket of a span. -/
def beginsTarget (c : Char) : Bool :=
  c == '-' || c == ':' || c == '_' || Text.isAlphanumeric c

/-- The level at the end of a directive, from a place on. An empty level means all events. -/
def levelFrom (directive : List Char) (place : Nat) : Option Level := do
  let s ← Text.fromPlace? place directive
  if s.isEmpty then some .trace else Level.ofText? s

/-- The level of a directive after its span. -/
def levelAfterSpan (directive : List Char) (place : Nat) : List Char → Option Level
  | [] => some .trace
  | '=' :: _ => levelFrom directive (place + 1)
  | _ => none

/-- What a directive asks of a field whose text stands at a place and has some bytes. -/
def fieldTest? (directive : List Char) (place size : Nat) : Option FieldTest := do
  if size = 0 then none
  FieldTest.ofText? (← Text.upToPlace? size (← Text.fromPlace? place directive))

/-- The level of a directive from the place of its span on. If the value of a field must be known,
all events have to be looked at. -/
def levelFromSpan (directive : List Char) (place : Nat) (s : List Char) : Option Level :=
  let name := s.takeWhile fun c => c != ']' && c != '\x7b'
  let place := place + Text.byteSize name + 1
  match s.drop name.length with
  | ']' :: rest => levelAfterSpan directive place rest
  | '\x7b' :: rest =>
    let field := rest.takeWhile (· != '\x7d')
    let size := Text.byteSize field
    match rest.drop field.length with
    | '\x7d' :: ']' :: rest => do
      let test ← fieldTest? directive place size
      let level ← levelAfterSpan directive (place + size + 2) rest
      return if test = .hasValue then .trace else level
    | _ => none
  | _ => none

/-- The greatest level of the events that a directive lets pass. Blanks at both ends do not count
for its form, but its places are counted without the blanks and found with them: a level with blanks
around it is taken for a target, and after an equals sign it cannot be read. -/
def directiveLevel (directive : List Char) : Option Level :=
  match Text.trim directive with
  | [] => none
  | '[' :: span => levelFromSpan directive 1 span
  | c :: s =>
    if beginsTarget c then
      let target := (c :: s).takeWhile fun c => c != '=' && c != '['
      let place := Text.byteSize target + 1
      match (c :: s).drop target.length with
      | '=' :: _ => levelFrom directive place
      | '[' :: span => levelFromSpan directive place span
      | _ => some ((Level.ofText? directive).getD .trace)
    else none

/-- The greatest level of the events that a filter lets pass, if it is one. Without any directive,
errors pass. -/
def filterLevel (filter : String) : Option Level := do
  match ← (Text.words ',' filter.toList).mapM directiveLevel with
  | [] => return .error
  | levels => return Level.greatest levels

/-- The filter that is used in place of one that is missing or cannot be read. -/
def defaultFilter : String :=
  "info,dwarf_prototypes=info"

/-- The greatest level of the events that are logged. -/
def level (s : LogSettings) : Level :=
  match filterLevel (s.filter.getD defaultFilter) with
  | some level => level
  | none => (filterLevel defaultFilter).getD .off

end Prototyper.Log
