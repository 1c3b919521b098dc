import Prototyper.Entry.Store

/-!
# Census of a store

How many entries of each kind a unit holds.
-/

namespace Prototyper

/-- The classes into which a census sorts tags. -/
inductive Tag.Class where
  | subprogram
  | formalParameter
  | pointer
  | qualifier
  | baseType
  | aggregate
  | array
  | typedef
  | other
  deriving DecidableEq, Repr

/-- The class of a tag. -/
def Tag.class : Tag → Tag.Class
  | .subprogram => .subprogram
  | .formalParameter => .formalParameter
  | .pointerType => .pointer
  | .constType | .volatileType | .restrictType => .qualifier
  | .baseType => .baseType
  | .structureType | .unionType | .enumerationType => .aggregate
  | .arrayType => .array
  | .typedef => .typedef
  | _ => .other

/-- The number of entries whose tag is of a given class. -/
def Store.count (s : Store) (c : Tag.Class) : Nat :=
  s.toList.countP fun e => e.tag.class == c

end Prototyper
