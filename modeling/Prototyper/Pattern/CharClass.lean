import Prototyper.Pattern.Atom

/-!
# Classes of characters

How a class of characters is written in brackets: items one after another, of which a dash between
two characters makes a range, with operators between them that bind less and group to the left.
Brackets nest up to a limit.
-/

namespace Prototyper.Pattern

/-- The names of the classes that can stand in brackets within brackets. -/
def classNames : List String :=
  ["alnum", "alpha", "ascii", "blank", "cntrl", "digit", "graph", "lower", "print", "punct",
    "space", "upper", "word", "xdigit"]

/-- A named class after its bracket. -/
def namedClass : Grammar CharClass := do
  expect [':']
  let negated ← TextReader.accept ['^']
  let name := String.ofList (← TextReader.takeWhile (· != ':'))
  expect [':', ']']
  if classNames.contains name then return .named name negated else fail

/-- The class that an atom is within brackets. -/
def Atom.class? : Atom → Option CharClass
  | .literal l => some (.literal l)
  | .shorthand s negated => some (.shorthand s negated)
  | .dot | .assertion _ => none

/-- The range from one atom to another. -/
def Atom.range? : Atom → Atom → Option CharClass
  | .literal first, .literal last =>
    if first.char ≤ last.char then some (.range first last) else none
  | _, _ => none

/-- The next character that counts after a dash. Within a comment, whose mark is passed over once,
blanks do not count either. -/
def afterDash (spaced : Bool) (s : List Char) : Option Char :=
  if spaced then
    match s.dropWhile Text.isBlank with
    | '#' :: rest => (rest.dropWhile Text.isBlank).head?
    | rest => rest.head?
  else
    s.head?

/-- The item of a class that begins with a character: a range if a dash follows that neither ends
the class nor begins an operator. -/
def classItem (spaced : Bool) (first : Char) : Grammar CharClass := do
  let a ← classAtomFrom spaced first
  space spaced
  let item ← match ← Reader.rest with
    | '-' :: rest =>
      let following := afterDash spaced rest
      if following = some ']' || following = some '-' then
        pure a.class?
      else do
        expect ['-']
        space spaced
        let last ← classAtomFrom spaced (← next)
        pure (a.range? last)
    | _ => pure a.class?
  match item with
  | some c => return c
  | none => fail

/-- What has been read of the inside of a bracket. -/
structure OpenClass where
  /-- Whether there have been only dashes yet. -/
  leading : Bool := true
  /-- The operator that has a left side, and that side. -/
  pending : Option (ClassOperation × CharClass) := none
  /-- The items since then, the last one first. -/
  reversed : List CharClass := []

namespace OpenClass

/-- The class that has been read. -/
def value (o : OpenClass) : CharClass :=
  let items := CharClass.ofItems o.reversed.reverse
  match o.pending with
  | some (op, left) => .operation op left items
  | none => items

/-- What has been read with one more item. -/
def push (o : OpenClass) (item : CharClass) : OpenClass :=
  { o with leading := false, reversed := item :: o.reversed }

/-- What has been read with an operator after it. -/
def operate (o : OpenClass) (op : ClassOperation) : OpenClass :=
  { leading := false, pending := some (op, o.value), reversed := [] }

/-- What has been read after one more part that begins with a character, or none at the end of the
class. Dashes in front, or a closing bracket, stand for themselves. -/
def partFrom (inner : Option (Grammar CharClass)) (spaced : Bool) (o : OpenClass) (first : Char) :
    Grammar (Option OpenClass) := do
  if o.leading && first = '-' then
    return some { o.push (.literal ⟨'-', false⟩) with leading := true }
  else if o.leading && o.reversed.isEmpty && first = ']' then
    return some (o.push (.literal ⟨']', false⟩))
  else if first = ']' then
    return none
  else if first = '[' then
    match ← namedClass.attempt, inner with
    | some c, _ => return some (o.push c)
    | none, some bracket => return some (o.push (← bracket))
    | none, none => fail
  else
    let operator? : Option ClassOperation := match first with
      | '&' => some .intersection
      | '-' => some .difference
      | '~' => some .symmetricDifference
      | _ => none
    match operator? with
    | some op => if ← TextReader.accept [first] then return some (o.operate op)
    | none => pure ()
    return some (o.push (← classItem spaced first))

/-- What has been read after one more part. -/
def part (inner : Option (Grammar CharClass)) (spaced : Bool) (o : OpenClass) :
    Grammar (Option OpenClass) :=
  space spaced >>= fun _ => next >>= o.partFrom inner spaced

/-- A part takes characters. -/
theorem advances_part (inner : Option (Grammar CharClass)) (spaced : Bool) (o : OpenClass) :
    (o.part inner spaced).Advances :=
  Reader.Consumes.advances (Reader.consumes_bind_of_forall fun _ =>
    Reader.Consumes.bind consumes_next _)

end OpenClass

/-- A class after its bracket, given how to read the ones inside of it, if there may be any. -/
def bracketFrom (inner : Option (Grammar CharClass)) (spaced : Bool) : Grammar CharClass := do
  space spaced
  let negated ← TextReader.accept ['^']
  let o ← Reader.iterate (OpenClass.part inner spaced) (OpenClass.advances_part inner spaced) {}
  return .bracket negated o.value

/-- A class after its bracket, with at most so many levels of brackets inside of it. -/
def bracket (spaced : Bool) : (levels : Nat) → Grammar CharClass
  | 0 => bracketFrom none spaced
  | levels + 1 => bracketFrom (some (bracket spaced levels)) spaced

end Prototyper.Pattern
