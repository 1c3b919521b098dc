import Prototyper.Text.Reader

/-!
# TOML texts

What a text says before its tables are put together: keys with values, and headers that name
tables. Numbers and moments occur in no setting, so only their form is checked.

The modules of `Toml` are a reader of their own, with a writer of quoted texts. That they take and
write texts as TOML 1.0 describes them, and as other programs for the format do, is not proved: it
is the *TOML assumption*. It covers the grammar of documents, the forms of quoted texts and their
escapes, and which texts are refused.
-/

namespace Prototyper.Toml

/-- What is wrong with a text. -/
inductive Error where
  /-- The text does not follow the grammar; so many characters were left. -/
  | malformed (left : Nat)
  /-- A key or table is defined twice. -/
  | duplicateKey (key : String)
  /-- A key leads through something that is no table. -/
  | notATable (key : String)
  deriving DecidableEq, Inhabited, Repr

/-- The line and the column at which a text ends, both counted from one. -/
def endPosition (text : List Char) : Nat × Nat :=
  (text.count '\n' + 1, (text.reverse.takeWhile (· != '\n')).length + 1)

/-- The message of an error in a text. -/
def Error.message (text : List Char) : Error → String
  | malformed left =>
    let (line, column) := endPosition (text.take (text.length - left))
    s!"TOML parse error at line {line}, column {column}"
  | duplicateKey key => s!"TOML parse error: duplicate key {key}"
  | notATable key => s!"TOML parse error: {key} is not a table"

/-- A value as it is written. The keys of an inline table are paths. -/
inductive Literal where
  | string (s : String)
  | boolean (b : Bool)
  | number
  | moment
  | array (items : List Literal)
  | inline (pairs : List (List String × Literal))
  deriving Inhabited

/-- One line of meaning: a header, of a table or of one more element of a list of tables, or a key
with a value. -/
inductive Expression where
  | table (path : List String)
  | element (path : List String)
  | pair (path : List String) (value : Literal)
  deriving Inhabited

/-- A reader of TOML. -/
abbrev Grammar (α : Type) : Type :=
  TextReader Error α

/-- The error of a text that does not follow the grammar. -/
def malformed (rest : List Char) : Error :=
  .malformed rest.length

/-- The failure of a text that does not follow the grammar. -/
def fail {α : Type} : Grammar α :=
  TextReader.fail malformed

/-- The next character. -/
def next : Grammar Char :=
  TextReader.next malformed

/-- Reading a character takes it. -/
theorem consumes_next : next.Consumes :=
  TextReader.consumes_next _

/-- Whether a character is a blank within a line. -/
def isBlank (c : Char) : Bool :=
  c == ' ' || c == '\t'

/-- Whether a character may stand for itself in comments and strings. -/
def isPlain (c : Char) : Bool :=
  c == '\t' || (0x20 ≤ c.toNat && c.toNat != 0x7f)

/-- Blanks within a line. -/
def blanks : Grammar Unit := do
  let _ ← TextReader.takeWhile isBlank

/-- The end of a line, if it comes next. -/
def lineBreak : Grammar Bool := do
  if ← TextReader.accept ['\n'] then return true
  TextReader.accept ['\r', '\n']

/-- A comment after its mark. -/
def comment : Grammar Unit := do
  let _ ← TextReader.takeWhile isPlain

/-- What may follow a value or a header: blanks, a comment, and the end of the line or of the
text. -/
def lineEnd : Grammar Unit := do
  blanks
  if ← TextReader.accept ['#'] then
    comment
  if ← lineBreak then return
  if ← Reader.atEnd then return
  fail

end Prototyper.Toml
