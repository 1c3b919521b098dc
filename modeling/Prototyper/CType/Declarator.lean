import Prototyper.CType.Basic

/-!
# Declarators

C writes the type of a name around the name: arrays as a suffix, pointers in front, and parentheses
around a pointer to an array. `CType.declare` builds that text from the inside out, starting with
the declared name, the outermost layer first. Stars stand close to what precedes them, as in
`char* p` and `char* const* p`.
-/

namespace Prototyper

namespace Declarator

/-- The qualifiers of a specifier, each followed by a space. -/
def qualifiersBefore (qs : List Qualifier) : List Char :=
  qs.flatMap fun q => q.keyword.toList ++ [' ']

/-- The qualifiers of a pointer, each preceded by a space. -/
def qualifiersAfter (qs : List Qualifier) : List Char :=
  qs.flatMap fun q => ' ' :: q.keyword.toList

/-- The suffix of an array, such as `[4]`, or `[]` without a length. -/
def bounds : Option UInt64 → List Char
  | some n => '[' :: Text.decimal n.toNat ++ [']']
  | none => ['[', ']']

/-- A pointer in front of a declarator: a space stands between them unless the declarator is empty
or is a pointer itself. -/
def joinPointer (star inner : List Char) : List Char :=
  match inner with
  | [] => star
  | '*' :: _ => star ++ inner
  | _ => star ++ ' ' :: inner

/-- A specifier in front of a declarator: pointers and array bounds follow it closely, a name or a
group after a space. -/
def attach (specifier inner : List Char) : List Char :=
  match inner with
  | [] => specifier
  | '*' :: _ | '[' :: _ => specifier ++ inner
  | _ => specifier ++ ' ' :: inner

/-- A character of a word of C. -/
def isWordChar (c : Char) : Bool :=
  c.isAlphanum || c == '_'

/-- Whether a declarator begins with the word of a qualifier. -/
def startsWithQualifier (declarator : List Char) : Bool :=
  let word := declarator.takeWhile isWordChar
  word == "const".toList || word == "volatile".toList || word == "restrict".toList

/-- Inside a group the name stands close to a run of bare stars, as in `**p`. A star followed by a
qualifier keeps its space. -/
def hugName (inner : List Char) : List Char :=
  let stars := inner.takeWhile (· == '*')
  match inner.dropWhile (· == '*') with
  | ' ' :: rest => if stars.isEmpty || startsWithQualifier rest then inner else stars ++ rest
  | _ => inner

/-- The declarator of a pointer, in parentheses, as an array needs it. -/
def group (qs : List Qualifier) (inner : List Char) : List Char :=
  let star := '*' :: qualifiersAfter qs
  let pointer := if qs.isEmpty then star ++ hugName inner else joinPointer star inner
  '(' :: pointer ++ [')']

end Declarator

namespace CType

open Declarator

/-- The declarator `inner` wrapped in the layers of a type, outermost layer first. -/
def declare : CType → List Char → List Char
  | leaf qs spec, inner => attach (qualifiersBefore qs ++ spec.spelling.toList) inner
  | pointer qs pointee, inner =>
    if pointee.isArray then pointee.declare (group qs inner)
    else pointee.declare (joinPointer ('*' :: qualifiersAfter qs) inner)
  | array _ length element, inner => element.declare (inner ++ bounds length)

/-- The declaration of a name with this type, such as `char* const p`. -/
def declaration (t : CType) (name : String) : String :=
  String.ofList (t.declare name.toList)

/-- The type without a name, such as `const char*`. -/
def text (t : CType) : String :=
  t.declaration ""

end CType

end Prototyper
