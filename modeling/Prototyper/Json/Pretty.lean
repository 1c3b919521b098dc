import Prototyper.Json.Basic
import Prototyper.Text.Numeral

/-!
# Printed JSON

The layout of a printed value: one item or field per line, indented by two spaces for each level,
and nothing between the brackets of an empty list or object.
-/

namespace Prototyper.Json

/-- A character inside a string: quotes, backslashes and control characters are escaped. -/
def escapeChar (c : Char) : List Char :=
  if c = '"' then ['\\', '"']
  else if c = '\\' then ['\\', '\\']
  else if c = '\n' then ['\\', 'n']
  else if c = '\r' then ['\\', 'r']
  else if c = '\t' then ['\\', 't']
  else if c = '\x08' then ['\\', 'b']
  else if c = '\x0c' then ['\\', 'f']
  else if c.toNat < 0x20 then '\\' :: 'u' :: Text.hexPadded 4 c.toNat
  else [c]

/-- A string in quotes. -/
def quote (s : String) : List Char :=
  '"' :: s.toList.flatMap escapeChar ++ ['"']

/-- A new line at a level of nesting. -/
def newline (level : Nat) : List Char :=
  '\n' :: List.replicate (2 * level) ' '

mutual

/-- The text of a value at a level of nesting. -/
def write (level : Nat) : Json → List Char
  | null => "null".toList
  | bool true => "true".toList
  | bool false => "false".toList
  | number n => Text.decimal n
  | string s => quote s
  | list [] => ['[', ']']
  | list (item :: items) =>
    '[' :: newline (level + 1) ++ write (level + 1) item ++ writeItems level items
  | object [] => ['\x7b', '\x7d']
  | object ((key, value) :: fields) =>
    '\x7b' :: newline (level + 1) ++ quote key ++ [':', ' '] ++ write (level + 1) value ++
      writeFields level fields

/-- The further items of a list, and its end. -/
def writeItems (level : Nat) : List Json → List Char
  | [] => newline level ++ [']']
  | item :: items =>
    ',' :: newline (level + 1) ++ write (level + 1) item ++ writeItems level items

/-- The further fields of an object, and its end. -/
def writeFields (level : Nat) : List (String × Json) → List Char
  | [] => newline level ++ ['\x7d']
  | (key, value) :: fields =>
    ',' :: newline (level + 1) ++ quote key ++ [':', ' '] ++ write (level + 1) value ++
      writeFields level fields

end

/-- The printed text of a value. -/
def pretty (json : Json) : String :=
  String.ofList (json.write 0)

end Prototyper.Json
