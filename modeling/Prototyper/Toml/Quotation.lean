import Prototyper.Text.Numeral
import Prototyper.Toml.Basic

/-!
# Quotation of texts

A text is written in the form that leaves most of it as it is: within a line rather than over
several, and in double quotes rather than in single ones, as long as nothing needs an escape.
Control characters need one in any form, and only double quotes have escapes.

How a text may be quoted is part of the TOML assumption (see `Toml.Basic`).
-/

namespace Prototyper.Toml

/-- The quotes around a text. -/
inductive Quotes where
  /-- One double quote on either side. -/
  | double
  /-- One single quote on either side. -/
  | single
  /-- Three double quotes on either side. -/
  | tripleDouble
  /-- Three single quotes on either side. -/
  | tripleSingle
  deriving DecidableEq, Inhabited, Repr

/-- The quotes on one side of a text. -/
def Quotes.mark : Quotes → List Char
  | double => ['"']
  | single => ['\'']
  | tripleDouble => ['"', '"', '"']
  | tripleSingle => ['\'', '\'', '\'']

/-- Whether a character can only be written as an escape. -/
def needsEscape (c : Char) : Bool :=
  !isPlain c && c != '\n'

/-- Whether three copies of a character stand together in a text. -/
def hasTriple (c : Char) : List Char → Bool
  | [] => false
  | d :: s => [c, c, c].isPrefixOf (d :: s) || hasTriple c s

/-- The quotes that a text is written in. -/
def Quotes.ofText (s : List Char) : Quotes :=
  let escaped := s.any needsEscape
  let lines := s.contains '\n'
  let bare := !escaped && !s.contains '\\'
  if bare && !s.contains '"' && !lines then double
  else if !escaped && !s.contains '\'' && !lines then single
  else if bare && !hasTriple '"' s then tripleDouble
  else if !escaped && !hasTriple '\'' s then tripleSingle
  else if lines then tripleDouble
  else double

/-- A character other than a double quote within double quotes. A line break stands for itself. -/
def writeChar (c : Char) : List Char :=
  if c = '\x08' then ['\\', 'b']
  else if c = '\t' then ['\\', 't']
  else if c = '\x0c' then ['\\', 'f']
  else if c = '\r' then ['\\', 'r']
  else if c = '\\' then ['\\', '\\']
  else if c = '\n' || isPlain c then [c]
  else '\\' :: 'u' :: (Text.hexPadded 4 c.toNat).map Char.toUpper

/-- A text within double quotes. Up to `free` double quotes that stand together stand for
themselves, and the next one is written as an escape; `run` of them stand in front. -/
def writeText (free : Nat) : (run : Nat) → List Char → List Char
  | _, [] => []
  | run, c :: s =>
    if c = '"' then
      if run < free then '"' :: writeText free (run + 1) s
      else '\\' :: '"' :: writeText free 0 s
    else writeChar c ++ writeText free 0 s

/-- What is written between quotes for a text. -/
def Quotes.content (s : List Char) : Quotes → List Char
  | double => writeText 0 0 s
  | tripleDouble => writeText 2 0 s
  | single | tripleSingle => s

/-- A text in quotes. If it has several lines, the first one begins on a line of its own. -/
def quote (s : List Char) : List Char :=
  let quotes := Quotes.ofText s
  let opening := if s.contains '\n' then ['\n'] else []
  quotes.mark ++ opening ++ quotes.content s ++ quotes.mark

end Prototyper.Toml
