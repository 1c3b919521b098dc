import Prototyper.Entry.Basic

/-!
# C types

A type is a chain of layers. Pointers and arrays wrap the layer below them, and the chain ends in a
specifier: `void`, a base type, or a structure, union, enumeration or type name that is referred to
by name and never expanded, which keeps self-referential types finite.
-/

namespace Prototyper

/-- A type qualifier. -/
inductive Qualifier where
  | const
  | volatile
  | restrict
  deriving DecidableEq, Inhabited, Repr

/-- The keyword of a qualifier. -/
def Qualifier.keyword : Qualifier → String
  | const => "const"
  | volatile => "volatile"
  | restrict => "restrict"

/-- The kinds of types that are referred to by name. -/
inductive NamedKind where
  | struct
  | union
  | enum
  | typedef
  deriving DecidableEq, Inhabited, Repr

/-- The keyword in front of the name; a type name stands alone. -/
def NamedKind.keyword? : NamedKind → Option String
  | struct => some "struct"
  | union => some "union"
  | enum => some "enum"
  | typedef => none

/-- A type referred to by name, with its entry; an anonymous type has no name. -/
structure NamedType where
  kind : NamedKind
  id : EntryId
  name : Option String
  deriving DecidableEq, Inhabited, Repr

/-- The spelling of a named type, such as `struct point` or `size_t`. -/
def NamedType.spelling (t : NamedType) : String :=
  let name := t.name.getD "<anonymous>"
  match t.kind.keyword? with
  | some keyword => s!"{keyword} {name}"
  | none => name

/-- What a chain of layers ends in. -/
inductive Specifier where
  | void
  | base (name : String)
  | named (type : NamedType)
  deriving DecidableEq, Inhabited, Repr

/-- The spelling of a specifier. -/
def Specifier.spelling : Specifier → String
  | void => "void"
  | base name => name
  | named type => type.spelling

/-- A C type. Each layer keeps its qualifiers in the order in which they were met, outermost
first. -/
inductive CType where
  | leaf (qualifiers : List Qualifier) (specifier : Specifier)
  | pointer (qualifiers : List Qualifier) (pointee : CType)
  /-- An array; without a length it is unbounded. -/
  | array (qualifiers : List Qualifier) (length : Option UInt64) (element : CType)
  deriving DecidableEq, Inhabited, Repr

namespace CType

/-- The type `void` without qualifiers. -/
def void : CType :=
  leaf [] .void

/-- Whether the type is `void` without qualifiers. -/
def isVoid : CType → Bool
  | leaf [] .void => true
  | _ => false

/-- Whether the outermost layer is a pointer. -/
def isPointer : CType → Bool
  | pointer _ _ => true
  | _ => false

/-- Whether the outermost layer is an array. -/
def isArray : CType → Bool
  | array _ _ _ => true
  | _ => false

/-- The number of layers above the specifier. -/
def depth : CType → Nat
  | leaf _ _ => 0
  | pointer _ pointee => pointee.depth + 1
  | array _ _ element => element.depth + 1

/-- The specifier in which the chain ends. -/
def specifier : CType → Specifier
  | leaf _ spec => spec
  | pointer _ pointee => pointee.specifier
  | array _ _ element => element.specifier

/-- The type with one more qualifier in front. A qualified array is an array of qualified
elements, so there the qualifier moves down. -/
def qualify (q : Qualifier) : CType → CType
  | leaf qs spec => leaf (q :: qs) spec
  | pointer qs pointee => pointer (q :: qs) pointee
  | array qs length element => array qs length (element.qualify q)

/-- Qualifying keeps arrays arrays, and makes none. -/
theorem isArray_qualify (q : Qualifier) (t : CType) : (t.qualify q).isArray = t.isArray := by
  cases t <;> rfl

end CType

end Prototyper
