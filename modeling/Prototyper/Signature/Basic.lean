import Prototyper.CType.Basic

/-!
# Signatures

What is known of a function: its name, its types, and how its source declared it.
-/

namespace Prototyper

/-- How a function relates to inlining: whether it was declared `inline`, and whether it was
inlined. -/
inductive InlineState where
  | notInlined
  | inlined
  | declaredNotInlined
  | declaredInlined
  deriving DecidableEq, Inhabited, Repr

namespace InlineState

/-- The state with a given code of the debugging format. -/
def ofCode? (code : UInt64) : Option InlineState :=
  match code.toNat with
  | 0 => some notInlined
  | 1 => some inlined
  | 2 => some declaredNotInlined
  | 3 => some declaredInlined
  | _ => none

/-- Whether the source declared the function `inline`. -/
def isDeclared : InlineState → Bool
  | declaredNotInlined | declaredInlined => true
  | _ => false

end InlineState

/-- A formal parameter. -/
structure Parameter where
  name : Option String
  type : CType
  deriving DecidableEq, Inhabited, Repr

/-- Where a function is declared: the index of the file and the line. -/
structure Location where
  file : Option UInt64
  line : Option UInt64
  deriving DecidableEq, Inhabited, Repr

/-- The location of a file and a line, of which at least one is known. -/
def Location.of? (file line : Option UInt64) : Option Location :=
  if file.isSome || line.isSome then some ⟨file, line⟩ else none

/-- The signature of a function. -/
structure Signature where
  entry : EntryId
  name : String
  /-- The type `void` when nothing is returned. -/
  returnType : CType
  parameters : List Parameter
  isInline : Bool
  isVariadic : Bool
  /-- Whether the entry only declares the function. -/
  isDeclaration : Bool
  isExternal : Bool
  inlineState : Option InlineState
  location : Option Location
  deriving DecidableEq, Inhabited, Repr

end Prototyper
