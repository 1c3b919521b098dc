import Prototyper.Pattern.CharClass
import Prototyper.Text.Alphanumeric

/-!
# Grammar of patterns

How patterns are written: branches with bars between them, of items one after another. A group, in
parentheses, may have a name or turn switches; alone in parentheses, switches hold up to the end of
the group that they stand in. Groups nest up to a limit.
-/

namespace Prototyper.Pattern

/-- How deep a pattern may nest. -/
def nestingLimit : Nat :=
  250

/-- The switch that has a letter. -/
def Switch.ofLetter? : Char → Option Switch
  | 'i' => some .ignoreCase
  | 'm' => some .multiLine
  | 's' => some .dotMatchesAll
  | 'U' => some .swapGreed
  | 'u' => some .unicode
  | 'R' => some .carriageReturn
  | 'x' => some .spaced
  | _ => none

/-- The switches that letters turn: off after a dash, on without it. None is named twice, and some
follow the dash. -/
def Switches.ofLetters? (s : List Char) : Option Switches := do
  let isOn (c : Char) : Bool := c != '-'
  let on ← (s.takeWhile isOn).mapM Switch.ofLetter?
  let off ← ((s.dropWhile isOn).drop 1).mapM Switch.ofLetter?
  if (on ++ off).Nodup && (!s.contains '-' || !off.isEmpty) then some ⟨on, off⟩ else none

/-- Whether a text can name a group. -/
def isGroupName : List Char → Bool
  | [] => false
  | c :: s =>
    (c == '_' || Text.isAlphabetic c) &&
      s.all fun c => ['_', '.', '[', ']'].contains c || Text.isAlphanumeric c

/-- What has been read of a group. -/
structure OpenGroup where
  /-- Whether space and comments are passed over from here on. -/
  spaced : Bool
  /-- The names of the groups so far, in this group and outside of it. -/
  names : List (List Char)
  /-- The branches before the current one, the last one first. -/
  reversedBranches : List Pattern := []
  /-- The items of the current branch, the last one first. -/
  reversed : List Pattern := []

namespace OpenGroup

/-- The current branch. -/
def branch (o : OpenGroup) : Pattern :=
  Pattern.ofItems o.reversed.reverse

/-- The pattern that has been read. -/
def value (o : OpenGroup) : Pattern :=
  Pattern.ofBranches (o.branch :: o.reversedBranches).reverse

/-- What has been read with one more item. -/
def push (o : OpenGroup) (item : Pattern) : OpenGroup :=
  { o with reversed := item :: o.reversed }

/-- What has been read when a new branch begins. -/
def nextBranch (o : OpenGroup) : OpenGroup :=
  { o with reversedBranches := o.branch :: o.reversedBranches, reversed := [] }

/-- What has been read with the last item repeated. Switches cannot be repeated. -/
def repeatLast? (o : OpenGroup) : Option OpenGroup :=
  match o.reversed with
  | [] | .switches _ :: _ => none
  | item :: items => some { o with reversed := .repetition item :: items }

end OpenGroup

/-- How the inside of a group is read, given whether it is spaced and the names so far. It ends in
front of the mark that closes the group, or at the end of the text. -/
abbrev GroupReader : Type :=
  Bool → List (List Char) → Grammar OpenGroup

/-- A group from its inside on, which begins with turned switches and more names. Afterwards space
counts as it did before the group. -/
def groupWith (inner : GroupReader) (o : OpenGroup) (s : Switches) (names : List (List Char)) :
    Grammar OpenGroup := do
  let o' ← inner (s.apply .spaced o.spaced) names
  expect [')']
  return { o with names := o'.names }.push (.group s o'.value)

/-- A group whose name comes next. -/
def namedGroup (inner : GroupReader) (o : OpenGroup) : Grammar OpenGroup := do
  let name ← TextReader.takeWhile (· != '>')
  expect ['>']
  if isGroupName name && !o.names.contains name then groupWith inner o {} (name :: o.names)
  else fail

/-- Switches, which come next, alone or with a group. -/
def switched (inner : GroupReader) (o : OpenGroup) : Grammar OpenGroup := do
  let letters ← TextReader.takeWhile fun c => c != ':' && c != ')'
  let close ← next
  match Switches.ofLetters? letters with
  | none => fail
  | some s =>
    if close = ':' then groupWith inner o s o.names
    else if letters.isEmpty then fail
    else return { o with spaced := s.apply .spaced o.spaced }.push (.switches s)

/-- A group, or switches alone, after the parenthesis. -/
def parenthesis (inner : GroupReader) (o : OpenGroup) : Grammar OpenGroup := do
  space o.spaced
  if ← TextReader.accept ['?', 'P', '<'] then namedGroup inner o
  else if ← TextReader.accept ['?', '<'] then namedGroup inner o
  else if ← TextReader.accept ['?'] then switched inner o
  else groupWith inner o {} o.names

/-- What has been read after one more part that begins with a character. -/
def partFrom (inner : Option GroupReader) (o : OpenGroup) (first : Char) : Grammar OpenGroup := do
  match first with
  | '(' =>
    match inner with
    | some inner => parenthesis inner o
    | none => fail
  | '|' => return o.nextBranch
  | '[' => return o.push (.bracketed (← bracket o.spaced nestingLimit))
  | '?' | '*' | '+' =>
    let _ ← TextReader.accept ['?']
    match o.repeatLast? with
    | some o => return o
    | none => fail
  | '\x7b' => fail
  | _ => return o.push (.atom (← atomFrom o.spaced first))

/-- What has been read after one more part, or none at the end of the group. -/
def part (inner : Option GroupReader) (o : OpenGroup) : Grammar (Option OpenGroup) :=
  space o.spaced >>= fun _ => Reader.rest >>= fun rest =>
    if rest.isEmpty || rest.head? = some ')' then pure none
    else next >>= fun first => partFrom inner o first >>= fun o => pure (some o)

/-- A part takes characters. -/
theorem advances_part (inner : Option GroupReader) (o : OpenGroup) : (part inner o).Advances :=
  Reader.advances_bind_of_forall fun _ => Reader.advances_bind_of_forall fun rest => by
    split
    · exact Reader.advances_pure_none
    · exact Reader.Consumes.advances (Reader.Consumes.bind consumes_next _)

/-- The inside of a group, given how to read the groups in it, if there may be any. -/
def insideFrom (inner : Option GroupReader) : GroupReader := fun spaced names =>
  Reader.iterate (part inner) (advances_part inner) { spaced, names }

/-- The inside of a group, with at most so many levels of groups in it. -/
def inside : (levels : Nat) → GroupReader
  | 0 => insideFrom none
  | levels + 1 => insideFrom (some (inside levels))

/-- A pattern that is a whole text. -/
def whole : Grammar Pattern := do
  let o ← inside nestingLimit false []
  if ← Reader.atEnd then return o.value else fail

/-- The pattern that a text writes, if it is one that does not nest too deep. -/
def ofText? (s : List Char) : Option Pattern :=
  match whole.run s with
  | .ok (p, _) => if p.depth ≤ nestingLimit then some p else none
  | .error _ => none

end Prototyper.Pattern
