import Prototyper.Entry.Store

/-!
# Defects

Why the signature of a function, or a type in it, cannot be reconstructed. A defect concerns one
function and names the entry at fault; other functions of the unit are not affected by it.
-/

namespace Prototyper

/-- A construct that is recognised but has no rendering. -/
inductive Construct where
  /-- An array with more than one subrange. -/
  | multiDimensionalArray
  /-- An array whose elements are arrays. -/
  | arrayOfArrays
  /-- A type that is a function, as behind a function pointer. -/
  | functionPointer
  deriving DecidableEq, Inhabited, Repr

/-- The description of a construct in messages. -/
def Construct.text : Construct → String
  | multiDimensionalArray => "multi-dimensional array"
  | arrayOfArrays => "array of arrays"
  | functionPointer => "function pointer type"

/-- Why a signature or a type cannot be reconstructed, with the entry at fault. -/
inductive Defect where
  | unknownEntry (id : EntryId)
  | unexpectedTag (id : EntryId) (tag : Tag)
  | missingType (id : EntryId)
  | unresolvedReference (id : EntryId) (attr : Attr) (form : String)
  | missingName (id : EntryId)
  | malformedVariadic (id : EntryId)
  | misplacedRestrict (id : EntryId)
  | referenceCycle (id : EntryId)
  | unsupported (id : EntryId) (construct : Construct)
  deriving DecidableEq, Inhabited, Repr

namespace Defect

/-- Whether data is broken, or sound but out of reach. -/
inductive Category where
  | decodeInconsistency
  | unsupportedConstruct
  deriving DecidableEq, Repr

/-- The description of a category in messages. -/
def Category.text : Category → String
  | decodeInconsistency => "decode inconsistency"
  | unsupportedConstruct => "unsupported construct"

/-- Only a construct without a rendering is out of reach; all other defects are broken data. -/
def category : Defect → Category
  | unsupported _ _ => .unsupportedConstruct
  | _ => .decodeInconsistency

/-- The entry at fault. -/
def entry : Defect → EntryId
  | unknownEntry id
  | unexpectedTag id _
  | missingType id
  | unresolvedReference id _ _
  | missingName id
  | malformedVariadic id
  | misplacedRestrict id
  | referenceCycle id
  | unsupported id _ => id

/-- The message of a defect. -/
def message : Defect → String
  | unknownEntry id => s!"reference to unknown entry {id.text}"
  | unexpectedTag id tag => s!"unexpected {tag.text} at {id.text} in a type chain"
  | missingType id => s!"entry {id.text} has no usable type"
  | unresolvedReference id attr form =>
    s!"{attr.text} of {id.text} uses a reference form that cannot be followed ({form})"
  | missingName id => s!"subprogram {id.text} has no name"
  | malformedVariadic id => s!"formal parameter {id.text} follows the variadic marker"
  | misplacedRestrict id => s!"restrict at {id.text} does not qualify a pointer"
  | referenceCycle id => s!"type chain loops back to {id.text}"
  | unsupported id construct => s!"{construct.text} at {id.text} is not supported"

/-- A store error as a defect: the entry it names is not available. -/
def ofStoreError : StoreError → Defect
  | .unknownEntry id | .duplicateEntry id => unknownEntry id

end Defect

/-- The entry with this identifier, whose absence is a defect. -/
def Store.lookup (s : Store) (id : EntryId) : Except Defect Entry :=
  (s.get id).mapError Defect.ofStoreError

/-- The entry that a reference attribute names, if the entry carries the attribute. A reference
that names no entry is a defect, and never taken for an absent one. -/
def Entry.reference (e : Entry) (a : Attr) : Except Defect (Option EntryId) :=
  match e.attr a with
  | none => .ok none
  | some (.ref target) => .ok (some target)
  | some (.unresolvedRef form) => .error (.unresolvedReference e.id a form)
  | some _ =>
    if a = .type then .error (.missingType e.id)
    else .error (.unresolvedReference e.id a "non-reference form")

end Prototyper
