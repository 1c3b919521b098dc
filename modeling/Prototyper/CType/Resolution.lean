import Prototyper.Defect
import Prototyper.CType.Basic

/-!
# Resolution of type references

`Store.resolve` follows the type attributes from an entry through qualifiers, pointers and arrays
down to a specifier. Every entry on the way is visited once: coming back to one is a defect, so the
walk ends because each step leaves fewer entries unvisited.
-/

namespace Prototyper

namespace Store

/-- The number of entries that are not on a path. -/
def unvisited (s : Store) (path : List EntryId) : Nat :=
  s.toList.countP fun e => decide (e.id ∉ path)

/-- Visiting an entry of the store leaves fewer entries. -/
theorem unvisited_lt {s : Store} {path : List EntryId} {id : EntryId} {e : Entry}
    (fresh : id ∉ path) (found : s.get? id = some e) :
    s.unvisited (id :: path) < s.unvisited path := by
  obtain ⟨he, rfl⟩ := get?_eq_some_iff.1 found
  have grows : ∀ l : List Entry,
      (l.countP fun x => decide (x.id ∉ e.id :: path)) ≤
        l.countP fun x => decide (x.id ∉ path) := by
    intro l
    apply List.countP_mono_left
    intro x _ hx
    simp_all
  obtain ⟨l, r, hl⟩ := List.append_of_mem he
  have hleft := grows l
  have hright := grows r
  simp only [unvisited, hl, List.countP_append, List.countP_cons]
  simp [fresh] at hleft hright ⊢
  omega

/-- Whether an entry is a pointer, possibly behind qualifiers and type names, given the entries
already seen on the walk. -/
def isPointerLikeFrom (s : Store) (seen : List EntryId) (id : EntryId) : Except Defect Bool :=
  if _ : id ∈ seen then
    .error (.referenceCycle id)
  else
    match _ : s.get? id with
    | none => .error (.unknownEntry id)
    | some e =>
      match e.tag with
      | .pointerType => .ok true
      | .constType | .volatileType | .restrictType | .typedef =>
        match e.reference .type with
        | .error d => .error d
        | .ok none => .ok false
        | .ok (some target) => s.isPointerLikeFrom (id :: seen) target
      | _ => .ok false
  termination_by s.unvisited seen
  decreasing_by exact unvisited_lt (by assumption) (by assumption)

/-- Whether a reference leads to a pointer, possibly behind qualifiers and type names. Only there
`restrict` has a meaning. -/
def isPointerLike (s : Store) (target : Option EntryId) : Except Defect Bool :=
  match target with
  | none => .ok false
  | some id => s.isPointerLikeFrom [] id

end Store

/-- The number of elements that a subrange describes: its count, else one more than its upper
bound; neither, or a bound that leaves no room for one more, is an unbounded array. -/
def Entry.elementCount? (subrange : Entry) : Option UInt64 :=
  match (subrange.attr .count).bind Value.unsigned? with
  | some n => some n
  | none =>
    match (subrange.attr .upperBound).bind Value.unsigned? with
    | some n => if n.toNat + 1 < UInt64.size then some (n + 1) else none
    | none => none

/-- A type that is referred to by name. -/
def Entry.namedType (e : Entry) (kind : NamedKind) : CType :=
  .leaf [] (.named ⟨kind, e.id, e.name?⟩)

namespace Store

/-- The subranges among the children of an array entry. All children have to be in the store. -/
def subranges (s : Store) (e : Entry) : Except Defect (List Entry) := do
  let children ← e.children.mapM s.lookup
  return children.filter fun c => c.tag == .subrangeType

/-- The type that the type attribute of an entry leads to; a wrapper without one wraps `void`. -/
def targetType (typeAt : EntryId → Except Defect CType) (e : Entry) : Except Defect CType := do
  match ← e.reference .type with
  | none => return .void
  | some target => typeAt target

/-- The type of an array entry, which has at most one subrange and no arrays as elements. -/
def arrayType (s : Store) (typeAt : EntryId → Except Defect CType) (e : Entry) :
    Except Defect CType := do
  let subranges ← s.subranges e
  if subranges.length > 1 then
    throw (.unsupported e.id .multiDimensionalArray)
  match ← e.reference .type with
  | none => throw (.missingType e.id)
  | some target =>
    let element ← typeAt target
    if element.isArray then
      throw (.unsupported e.id .arrayOfArrays)
    return .array [] (subranges.head?.bind Entry.elementCount?) element

/-- The type of an entry, given the types of the entries that it refers to. -/
def typeOf (s : Store) (typeAt : EntryId → Except Defect CType) (e : Entry) :
    Except Defect CType := do
  match e.tag with
  | .constType => return (← targetType typeAt e).qualify .const
  | .volatileType => return (← targetType typeAt e).qualify .volatile
  | .restrictType =>
    if ← s.isPointerLike (← e.reference .type) then
      return (← targetType typeAt e).qualify .restrict
    else
      throw (.misplacedRestrict e.id)
  | .pointerType => return .pointer [] (← targetType typeAt e)
  | .arrayType => s.arrayType typeAt e
  | .baseType =>
    match e.name? with
    | some name => return .leaf [] (.base name)
    | none => throw (.missingName e.id)
  | .structureType => return e.namedType .struct
  | .unionType => return e.namedType .union
  | .enumerationType => return e.namedType .enum
  | .typedef =>
    match e.name? with
    | some _ => return e.namedType .typedef
    | none => throw (.missingName e.id)
  | .subroutineType => throw (.unsupported e.id .functionPointer)
  | tag => throw (.unexpectedTag e.id tag)

/-- The type of the entry with an identifier, given the entries on the way to it. -/
def resolveFrom (s : Store) (path : List EntryId) (id : EntryId) : Except Defect CType :=
  if _ : id ∈ path then
    .error (.referenceCycle id)
  else
    match _ : s.get? id with
    | none => .error (.unknownEntry id)
    | some e => s.typeOf (fun target => s.resolveFrom (id :: path) target) e
  termination_by s.unvisited path
  decreasing_by exact unvisited_lt (by assumption) (by assumption)

/-- The type of the entry with an identifier. -/
def resolve (s : Store) (id : EntryId) : Except Defect CType :=
  s.resolveFrom [] id

end Store

end Prototyper
