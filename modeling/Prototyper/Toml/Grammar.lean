import Prototyper.Toml.Quoted

/-!
# Grammar of TOML

Keys, values, and the lines of a text. Values nest, and keys are paths, up to a limit.

The grammar is part of the TOML assumption (see `Toml.Basic`).
-/

namespace Prototyper.Toml

/-- Keys have fewer parts than this, and values nest to fewer levels. -/
def nestingLimit : Nat :=
  80

/-- Whether a character may stand in a key without quotes. -/
def isKeyChar (c : Char) : Bool :=
  c.isAlphanum || c == '_' || c == '-'

/-- The part of a key that begins with a character. -/
def keyPart (first : Char) : Grammar String := do
  if first = '"' then return String.ofList (← basicText)
  else if first = '\'' then return String.ofList (← literalText)
  else if isKeyChar first then
    return String.ofList (first :: (← TextReader.takeWhile isKeyChar))
  else fail

/-- A further part of a key after a dot, with blanks around it. -/
def furtherPart : Grammar String :=
  blanks >>= fun _ => next >>= fun first => do
    let part ← keyPart first
    blanks
    return part

/-- A further part of a key, if a dot comes next. -/
def furtherPart? : Grammar (Option String) :=
  TextReader.accept ['.'] >>= fun found =>
    if found then furtherPart >>= fun part => pure (some part) else pure none

/-- A further part takes characters. -/
theorem advances_furtherPart? : furtherPart?.Advances :=
  Reader.advances_bind_of_forall fun found => by
    split
    · exact Reader.Consumes.advances (Reader.Consumes.bind
        (Reader.consumes_bind_of_forall fun _ => Reader.Consumes.bind consumes_next _) _)
    · exact Reader.advances_pure_none

/-- The path of a key that begins with a character, with the blanks after it. -/
def keyPath (first : Char) : Grammar (List String) := do
  let part ← keyPart first
  blanks
  let path := part :: (← Reader.many furtherPart? advances_furtherPart?)
  if path.length < nestingLimit then return path else fail

/-- A text without the blanks, line breaks and comments in front. -/
def dropSpaceAndComments : List Char → List Char
  | ' ' :: s | '\t' :: s | '\n' :: s => dropSpaceAndComments s
  | '\r' :: '\n' :: s => dropSpaceAndComments s
  | '#' :: s =>
    have : (s.dropWhile isPlain).length ≤ s.length := (List.dropWhile_sublist _).length_le
    dropSpaceAndComments (s.dropWhile isPlain)
  | s => s
  termination_by s => s.length

/-- Dropping space and comments makes no text longer. -/
theorem length_dropSpaceAndComments_le (s : List Char) :
    (dropSpaceAndComments s).length ≤ s.length := by
  fun_induction dropSpaceAndComments s <;> simp only [List.length_cons, Nat.le_refl] <;> omega

/-- The space between the items of an array. -/
def space : Grammar Unit :=
  TextReader.skip dropSpaceAndComments length_dropSpaceAndComments_le

/-- The next item of an array with the comma after it, or none at the end of the array. -/
def arrayItem (value : Char → Grammar Literal) : Grammar (Option Literal) :=
  space >>= fun _ => next >>= fun first => do
    if first = ']' then return none
    let item ← value first
    space
    if ← TextReader.accept [','] then return some item
    if (← Reader.rest).head? = some ']' then return some item
    fail

/-- The items of an array after its bracket. -/
def array (value : Char → Grammar Literal) : Grammar (List Literal) :=
  Reader.many (arrayItem value)
    (Reader.Consumes.advances (Reader.consumes_bind_of_forall fun _ =>
      Reader.Consumes.bind consumes_next _))

/-- A key with its value, the key beginning with a character. -/
def pairFrom (value : Char → Grammar Literal) (first : Char) : Grammar (List String × Literal) := do
  let path ← keyPath first
  TextReader.expect malformed ['=']
  blanks
  return (path, ← value (← next))

/-- A key with its value, and blanks around them. -/
def pair (value : Char → Grammar Literal) : Grammar (List String × Literal) :=
  blanks >>= fun _ => next >>= fun first => do
    let p ← pairFrom value first
    blanks
    return p

/-- A further pair of an inline table, if a comma comes next. -/
def furtherPair? (value : Char → Grammar Literal) : Grammar (Option (List String × Literal)) :=
  TextReader.accept [','] >>= fun found =>
    if found then pair value >>= fun p => pure (some p) else pure none

/-- A further pair takes characters. -/
theorem advances_furtherPair? (value : Char → Grammar Literal) : (furtherPair? value).Advances :=
  Reader.advances_bind_of_forall fun found => by
    split
    · exact Reader.Consumes.advances (Reader.Consumes.bind
        (Reader.consumes_bind_of_forall fun _ => Reader.Consumes.bind consumes_next _) _)
    · exact Reader.advances_pure_none

/-- The pairs of an inline table after its brace. -/
def inlineTable (value : Char → Grammar Literal) : Grammar (List (List String × Literal)) := do
  blanks
  if ← TextReader.accept ['\x7d'] then return []
  let first ← pair value
  let others ← Reader.many (furtherPair? value) (advances_furtherPair? value)
  TextReader.expect malformed ['\x7d']
  return first :: others

/-- The value that begins with a character, given how to read the values inside of it, if there may
be any. -/
def valueFrom (inner : Option (Char → Grammar Literal)) (first : Char) : Grammar Literal := do
  if first = '"' then return .string (String.ofList (← basicString))
  else if first = '\'' then return .string (String.ofList (← literalString))
  else if first = '[' then
    match inner with
    | some value => return .array (← array value)
    | none => fail
  else if first = '\x7b' then
    match inner with
    | some value => return .inline (← inlineTable value)
    | none => fail
  else scalar first

/-- The value that begins with a character, with at most so many levels of values inside of it. -/
def value : (levels : Nat) → Char → Grammar Literal
  | 0 => valueFrom none
  | levels + 1 => valueFrom (some (value levels))

/-- The path of a header, and its end. -/
def headerPath (close : List Char) : Grammar (List String) := do
  blanks
  let path ← keyPath (← next)
  TextReader.expect malformed close
  lineEnd
  return path

/-- A header after its first bracket. -/
def header : Grammar Expression := do
  if ← TextReader.accept ['['] then return .element (← headerPath [']', ']'])
  else return .table (← headerPath [']'])

/-- The line that begins with a character; a line without meaning has no expression. -/
def lineFrom (first : Char) : Grammar (Option Expression) := do
  if first = '\n' then return none
  else if first = '\r' then
    TextReader.expect malformed ['\n']
    return none
  else if first = '#' then
    comment
    lineEnd
    return none
  else if first = '[' then return some (← header)
  else
    let (path, value) ← pairFrom (value (nestingLimit - 1)) first
    lineEnd
    return some (.pair path value)

/-- The next line, or none at the end of the text. -/
def line : Grammar (Option (Option Expression)) :=
  blanks >>= fun _ => Reader.unlessAtEnd (next >>= fun first =>
    lineFrom first >>= fun found => pure (some found))

/-- A line takes characters. -/
theorem advances_line : line.Advances :=
  Reader.advances_bind_of_forall fun _ =>
    Reader.Advances.unlessAtEnd (Reader.Consumes.advances (Reader.Consumes.bind consumes_next _))

/-- The expressions of a text, in order. A byte order mark in front is passed over. -/
def expressions (text : List Char) : Except Error (List Expression) :=
  let body := match text with
    | '\uFEFF' :: rest => rest
    | _ => text
  ((Reader.many line advances_line).run body).map fun found => found.1.filterMap fun e => e

end Prototyper.Toml
