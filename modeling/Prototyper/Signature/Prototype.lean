import Prototyper.CType.Declarator
import Prototyper.Signature.Basic

/-!
# The text of a signature

A function is declared like any other name, with its parameter list as part of the declared text.
-/

namespace Prototyper

/-- Texts with a comma and a space between them. -/
def commaSeparated : List (List Char) → List Char
  | [] => []
  | [text] => text
  | text :: rest => text ++ [',', ' '] ++ commaSeparated rest

/-- The declaration of a parameter; without a name it is the text of its type. -/
def Parameter.declare (p : Parameter) : List Char :=
  p.type.declare (p.name.getD "").toList

namespace Signature

/-- The parts of the parameter list: the parameters and, for a variadic function, the dots. -/
def parameterTexts (sig : Signature) : List (List Char) :=
  sig.parameters.map Parameter.declare ++ if sig.isVariadic then [['.', '.', '.']] else []

/-- The parameter list; an empty one is written `void`. -/
def parameterList (sig : Signature) : List Char :=
  match sig.parameterTexts with
  | [] => "void".toList
  | texts => commaSeparated texts

/-- The text of a signature as characters. -/
def declare (sig : Signature) : List Char :=
  (if sig.isInline then "static inline ".toList else []) ++
    sig.returnType.declare (sig.name.toList ++ '(' :: sig.parameterList ++ [')']) ++ [';']

/-- The declaration of a function. A function declared `inline` stands alone as `static inline`. -/
def text (sig : Signature) : String :=
  String.ofList sig.declare

end Signature

end Prototyper
