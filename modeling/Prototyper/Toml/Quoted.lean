import Prototyper.Toml.Scalar

/-!
# Quoted texts

A text is quoted by double quotes, within which a backslash begins an escape, or by single quotes,
within which every character stands for itself. Three quotes in place of one let the text run over
several lines; a line break right after them is not part of the text.

What a quoted text says is part of the TOML assumption (see `Toml.Basic`).
-/

namespace Prototyper.Toml

/-- The character with a hexadecimal code of so many digits. -/
def codedChar (digits : Nat) : Grammar Char := do
  let code ← go digits []
  if code.isValidChar then return Char.ofNat code else fail
where
  go : Nat → List Char → Grammar Nat
    | 0, read => return Text.ofDigits 16 read
    | n + 1, read => do
      let c ← next
      if Text.isHexDigit c then go n (read ++ [c]) else fail

/-- The character of an escape after its backslash. -/
def escaped : Grammar Char := do
  match ← next with
  | 'b' => return '\x08'
  | 't' => return '\t'
  | 'n' => return '\n'
  | 'f' => return '\x0c'
  | 'r' => return '\r'
  | '"' => return '"'
  | '\\' => return '\\'
  | 'u' => codedChar 4
  | 'U' => codedChar 8
  | _ => fail

/-- The next character of a text in double quotes, or none at its end. -/
def basicChar : Grammar (Option Char) := do
  let c ← next
  if c = '"' then return none
  if c = '\\' then return some (← escaped)
  if isPlain c then return some c
  fail

/-- The rest of a text after its double quote. -/
def basicText : Grammar (List Char) :=
  Reader.many basicChar (Reader.Consumes.advances (Reader.Consumes.bind consumes_next _))

/-- The rest of a text after its single quote. -/
def literalText : Grammar (List Char) := do
  let text ← TextReader.takeWhile fun c => isPlain c && c != '\''
  TextReader.expect malformed ['\'']
  return text

/-- Quotes within a text of several lines. One or two are part of the text, and so are up to two in
front of the three that end it; more cannot stand together. -/
def innerQuotes (quote : Char) : Grammar (Option (List Char)) := do
  let run := quote :: (← Reader.rest).takeWhile (· == quote)
  if 5 < run.length then fail
  let inner := if run.length < 3 then run.length else run.length - 3
  if inner = 0 then
    TextReader.expect malformed [quote, quote]
    return none
  TextReader.expect malformed (List.replicate (inner - 1) quote)
  return some (List.replicate inner quote)

/-- A text without the blanks and line breaks in front. -/
def dropSpace : List Char → List Char
  | ' ' :: s | '\t' :: s | '\n' :: s => dropSpace s
  | '\r' :: '\n' :: s => dropSpace s
  | s => s

/-- Dropping space makes no text longer. -/
theorem length_dropSpace_le (s : List Char) : (dropSpace s).length ≤ s.length := by
  fun_induction dropSpace s <;> simp only [List.length_cons, Nat.le_refl] <;> omega

/-- Whether a line ends after the blanks in front of a text. -/
def endsLine (s : List Char) : Bool :=
  match s.dropWhile isBlank with
  | '\n' :: _ | '\r' :: '\n' :: _ => true
  | _ => false

/-- The next piece of a text of several lines in double quotes, or none at its end. A backslash at
the end of a line swallows the space up to the next word. -/
def basicPiece : Grammar (Option (List Char)) := do
  let c ← next
  if c = '"' then innerQuotes '"'
  else if c = '\\' then
    if endsLine (← Reader.rest) then
      TextReader.skip dropSpace length_dropSpace_le
      return some []
    return some [← escaped]
  else if c = '\n' || isPlain c then return some [c]
  else if c = '\r' then
    TextReader.expect malformed ['\n']
    return some ['\n']
  else fail

/-- The next piece of a text of several lines in single quotes, or none at its end. -/
def literalPiece : Grammar (Option (List Char)) := do
  let c ← next
  if c = '\'' then innerQuotes '\''
  else if c = '\n' || isPlain c then return some [c]
  else if c = '\r' then
    TextReader.expect malformed ['\n']
    return some ['\n']
  else fail

/-- A text of several lines after its three double quotes. -/
def basicLines : Grammar (List Char) := do
  let _ ← lineBreak
  let pieces ← Reader.many basicPiece
    (Reader.Consumes.advances (Reader.Consumes.bind consumes_next _))
  return pieces.flatten

/-- A text of several lines after its three single quotes. -/
def literalLines : Grammar (List Char) := do
  let _ ← lineBreak
  let pieces ← Reader.many literalPiece
    (Reader.Consumes.advances (Reader.Consumes.bind consumes_next _))
  return pieces.flatten

/-- The value of a text after its first double quote. -/
def basicString : Grammar (List Char) := do
  if ← TextReader.accept ['"', '"'] then basicLines else basicText

/-- The value of a text after its first single quote. -/
def literalString : Grammar (List Char) := do
  if ← TextReader.accept ['\'', '\''] then literalLines else literalText

end Prototyper.Toml
