import Prototyper.Text.Numeral
import Prototyper.Text.Printable

/-!
# Quotations

How a message quotes a path: in double quotes, with escapes for quotes, backslashes and characters
that do not show.
-/

namespace Prototyper.Text

/-- A character in a quotation. -/
def quoteChar (c : Char) : List Char :=
  if c = '\x00' then ['\\', '0']
  else if c = '\t' then ['\\', 't']
  else if c = '\n' then ['\\', 'n']
  else if c = '\r' then ['\\', 'r']
  else if c = '"' || c = '\'' || c = '\\' then ['\\', c]
  else if isPrintable c then [c]
  else ['\\', 'u', '\x7b'] ++ hex c.toNat ++ ['\x7d']

/-- The quotation of a text. -/
def quoted (s : String) : String :=
  String.ofList ('"' :: s.toList.flatMap quoteChar ++ ['"'])

end Prototyper.Text
