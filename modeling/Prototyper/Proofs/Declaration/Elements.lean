import Prototyper.Proofs.Declaration.Pointers
import Prototyper.Proofs.Resolution.Termination

/-!
# Qualified arrays

A qualifier in front of an array belongs to its elements. So an array of qualified elements has two
spellings: qualifiers that lead to an array, and an array whose element type they stand in front of.
`resolve_qualifiedArray` says that both give the same type. Qualifiers move down through an array
one at a time, and arrive at the elements in the order that they have in the other spelling.

Elements that are arrays are refused. A qualifier keeps an array an array, so it does not matter
whether the elements are looked at before or after the qualifiers have moved down.
-/

namespace Prototyper

/-- The length that a subrange gives follows from its count and its upper bound. -/
lemma Entry.HasLength.of_attributes {r r' : Entry} {length : Option UInt64}
    (h : r.HasLength length) (count : r.attr .count = r'.attr .count)
    (upperBound : r.attr .upperBound = r'.attr .upperBound) : r'.HasLength length := by
  cases h with
  | count h => exact .count (count ▸ h)
  | upperBound none h room => exact .upperBound (count ▸ none) (upperBound ▸ h) room
  | unbounded none full => exact .unbounded (count ▸ none) (upperBound ▸ full)

/-- A constant or a volatile qualifies any target. -/
lemma Tag.isUnconditional_of_qualifier? {tag : Tag} {q : Qualifier} (h : tag.qualifier? = some q)
    (plain : q ≠ .restrict) : tag.isUnconditional = true := by
  cases tag <;> first | rfl | cases h
  exact absurd rfl plain

/-- Qualifiers in front of an array belong to its elements. -/
lemma foldr_qualify_array (qs : List Qualifier) (length : Option UInt64) (element : CType) :
    qs.foldr CType.qualify (.array [] length element) =
      .array [] length (qs.foldr CType.qualify element) := by
  induction qs with
  | nil => rfl
  | cons q qs ih => rw [List.foldr_cons, ih]; rfl

/-- Qualifiers keep arrays arrays, and make none. -/
lemma isArray_foldr_qualify (qs : List Qualifier) (d : CType) :
    (qs.foldr CType.qualify d).isArray = d.isArray := by
  induction qs with
  | nil => rfl
  | cons q qs ih => rw [List.foldr_cons, CType.isArray_qualify, ih]

/-- What is no array is none behind qualifiers. -/
lemma noArray_foldr_qualify_iff {qs : List Qualifier} {d : CType} :
    (qs.foldr CType.qualify d).NoArray ↔ d.NoArray := by
  rw [CType.noArray_iff, isArray_foldr_qualify, CType.noArray_iff]

namespace Store

/-- An array with all its children in the store, and the entry of its element type. -/
structure ArrayAt (s : Store) (id : EntryId) (e : Entry) (children : List Entry)
    (element : EntryId) : Prop where
  found : s.get? id = some e
  tag : e.tag = .arrayType
  children : List.Forall₂ (fun c child => s.get? c = some child) e.children children
  type : e.attr .type = some (.ref element)

/-- The subranges among two lists of children say the same of the length of an array: they have the
same counts and the same upper bounds, in the same order. -/
def SameBounds (children children' : List Entry) : Prop :=
  List.Forall₂
    (fun r r' => r.attr .count = r'.attr .count ∧ r.attr .upperBound = r'.attr .upperBound)
    (children.filter fun c => c.tag = .subrangeType)
    (children'.filter fun c => c.tag = .subrangeType)

lemma SameBounds.symm {children children' : List Entry} (h : SameBounds children children') :
    SameBounds children' children :=
  h.flip.imp fun _ _ same => ⟨same.1.symm, same.2.symm⟩

/-- Arrays with the same bounds have the same lengths. -/
lemma SameBounds.arrayLength {children children' : List Entry} {length : Option UInt64}
    (h : SameBounds children children')
    (lengths : ArrayLength (children.filter fun c => c.tag = .subrangeType) length) :
    ArrayLength (children'.filter fun c => c.tag = .subrangeType) length := by
  unfold SameBounds at h
  generalize children.filter (fun c => c.tag = .subrangeType) = rs at h lengths
  cases lengths with
  | none =>
    rw [List.forall₂_nil_left_iff.1 h]
    exact .none
  | one gives =>
    obtain ⟨r', _, same, none, rs'⟩ := List.forall₂_cons_left_iff.1 h
    rw [rs', List.forall₂_nil_left_iff.1 none]
    exact .one (gives.of_attributes same.1 same.2)

variable {s : Store}

/-! ## What the two spellings denote -/

/-- Qualifiers with a target denote what the target denotes, qualified. -/
lemma Qualifies.of_denotes {qs : List Qualifier} {id t : EntryId} {d : CType}
    (h : s.Qualifies qs id t) (hd : s.Denotes id d) :
    ∃ d', s.Denotes t d' ∧ d = qs.foldr CType.qualify d' := by
  induction h generalizing d with
  | none => exact ⟨d, hd, rfl⟩
  | before he tag type _ ih =>
    have wrapper := Tag.isWrapper_of_qualifier? tag
    cases hd with
    | qualifiedVoid he' _ _ untyped =>
      cases he.symm.trans he'
      cases untyped.symm.trans type
    | qualified he' tag' _ type' ht front =>
      cases he.symm.trans he'
      cases tag.symm.trans tag'
      cases type.symm.trans type'
      obtain rfl := CType.qualified_iff.1 front
      obtain ⟨d', below, rfl⟩ := ih ht
      exact ⟨d', below, rfl⟩
    | voidPointer he' tag' | pointer he' tag' | array he' tag' | base he' tag' | typedef he' tag' =>
      cases he.symm.trans he'
      rw [tag'] at tag
      cases tag
    | aggregate he' tag' _ =>
      cases he.symm.trans he'
      rw [Tag.isWrapper_of_aggregate? tag'] at wrapper
      cases wrapper

/-- An array denotes what its subranges and its elements allow, and its elements are no arrays. -/
lemma ArrayAt.denotes_iff {id t : EntryId} {e : Entry} {children : List Entry} {d : CType}
    (h : s.ArrayAt id e children t) :
    s.Denotes id d ↔ ∃ length element,
      ArrayLength (children.filter fun c => c.tag = .subrangeType) length ∧
      s.Denotes t element ∧ element.NoArray ∧ d = .array [] length element := by
  constructor
  · intro hd
    have resolved := hd.resolve
    rw [resolve, resolveFrom_of_fresh List.not_mem_nil h.found, typeOf, h.tag] at resolved
    obtain ⟨children', length, t', element, found, lengths, type, ht, flat, rfl⟩ :=
      arrayType_eq_ok_iff.1 resolved
    cases h.type.symm.trans type
    -- the children that the walk found are those that are named here
    have unique : Relator.RightUnique fun (c : EntryId) (x : Entry) => s.get? c = some x :=
      fun _ _ _ hx hy => Option.some.inj (hx.symm.trans hy)
    cases unique.forall₂ h.children found
    exact ⟨length, element, lengths, denotes_of_walk ht, flat, rfl⟩
  · rintro ⟨length, element, lengths, ht, flat, rfl⟩
    exact .array h.found h.tag h.children lengths h.type ht flat

/-- What qualifiers in front of an array denote, an array of qualified elements denotes as well. -/
lemma denotes_qualifiedArray_iff {qs : List Qualifier} {x y i u t : EntryId} {a b : Entry}
    {children children' : List Entry} {d : CType} (plain : .restrict ∉ qs)
    (outside : s.Qualifies qs x i) (ha : s.ArrayAt i a children t)
    (hb : s.ArrayAt y b children' u) (inside : s.Qualifies qs u t)
    (bounds : SameBounds children children') : s.Denotes x d ↔ s.Denotes y d := by
  have noRestrict {t : EntryId} : .restrict ∈ qs → s.PointerLike t := fun h => absurd h plain
  rw [hb.denotes_iff]
  constructor
  · intro h
    obtain ⟨d', array, rfl⟩ := outside.of_denotes h
    obtain ⟨length, element, lengths, ht, flat, rfl⟩ := ha.denotes_iff.1 array
    exact ⟨length, qs.foldr CType.qualify element, bounds.arrayLength lengths,
      inside.denotes ht noRestrict, noArray_foldr_qualify_iff.2 flat,
      foldr_qualify_array qs length element⟩
  · rintro ⟨length, element', lengths, hu, flat, rfl⟩
    obtain ⟨element, ht, rfl⟩ := inside.of_denotes hu
    rw [← foldr_qualify_array]
    refine outside.denotes (ha.denotes_iff.2 ?_) noRestrict
    exact ⟨length, element, bounds.symm.arrayLength lengths, ht,
      noArray_foldr_qualify_iff.1 flat, rfl⟩

/-! ## Arrays of arrays -/

/-- The construct that an array of arrays is refused for, given its subranges: more than one of them
is noticed before the elements are. -/
def refused (children : List Entry) : Construct :=
  if 1 < (children.filter fun c => c.tag = .subrangeType).length then .multiDimensionalArray
  else .arrayOfArrays

/-- Arrays with the same bounds are refused for the same reason. -/
lemma SameBounds.refused_eq {children children' : List Entry} (h : SameBounds children children') :
    refused children = refused children' := by
  unfold refused
  rw [h.length_eq]

/-- A walk ends from qualifiers if it ends from their target. -/
lemma Qualifies.acc {qs : List Qualifier} {id t : EntryId} (h : s.Qualifies qs id t)
    (ends : Acc (fun b a => s.TypeLink Tag.isWrapper a b) t) :
    Acc (fun b a => s.TypeLink Tag.isWrapper a b) id := by
  induction h with
  | none => exact ends
  | before he tag type _ ih =>
    exact TypeLink.acc ⟨_, he, Tag.isWrapper_of_qualifier? tag, type⟩ (ih ends)

/-- A defect that the walk finds behind qualifiers is the one that it finds. -/
lemma Qualifies.resolveFrom_eq_error {qs : List Qualifier} {id t : EntryId} {defect : Defect}
    (h : s.Qualifies qs id t) (plain : .restrict ∉ qs)
    (ends : Acc (fun b a => s.TypeLink Tag.isWrapper a b) t)
    (fails : ∀ path, (∀ p ∈ path, Relation.TransGen (s.TypeLink Tag.isWrapper) p t) →
      s.resolveFrom path t = .error defect)
    (path : List EntryId)
    (reach : ∀ p ∈ path, Relation.TransGen (s.TypeLink Tag.isWrapper) p id) :
    s.resolveFrom path id = .error defect := by
  have fresh : id ∉ path := fun old => TypeLink.acyclic (h.acc ends) (reach id old)
  induction h generalizing path with
  | none => exact fails path reach
  | @before q qs id e t target he tag type rest ih =>
    have first : q ≠ .restrict := fun eq => plain (eq ▸ List.mem_cons_self)
    have others : .restrict ∉ qs := fun mem => plain (List.mem_cons_of_mem q mem)
    have reach' := TypeLink.reach ⟨e, he, Tag.isWrapper_of_qualifier? tag, type⟩ reach
    have below := ih others ends fails (id :: path) reach' fun old =>
      TypeLink.acyclic (rest.acc ends) (reach' t old)
    rw [resolveFrom_of_fresh fresh he]
    exact typeOf_of_target (Tag.isUnconditional_of_qualifier? tag first) type below

/-- An array whose elements are arrays is refused. -/
lemma ArrayAt.resolveFrom_eq_error {id t : EntryId} {e : Entry} {children : List Entry} {d : CType}
    (h : s.ArrayAt id e children t) (ht : s.Denotes t d) (array : ¬ d.NoArray)
    (path : List EntryId)
    (reach : ∀ p ∈ path, Relation.TransGen (s.TypeLink Tag.isWrapper) p id) :
    s.resolveFrom path id = .error (.unsupported id (refused children)) := by
  have link : s.TypeLink Tag.isWrapper id t := ⟨e, h.found, by rw [h.tag]; rfl, h.type⟩
  have fresh : id ∉ path := fun old =>
    TypeLink.acyclic (TypeLink.acc link ht.acc) (reach id old)
  have target := ht.walk (id :: path) (link.reach reach)
  have subranges := subranges_eq_ok_iff.2 ⟨children, h.children, rfl⟩
  rw [resolveFrom_of_fresh fresh h.found, typeOf, h.tag, ← id_of_get? h.found]
  refine bind_eq_error_iff.2 (.inr ⟨_, subranges, ?_⟩)
  unfold refused
  split
  case isTrue many => rfl
  case isFalse few =>
    rw [Entry.reference_eq_some_iff.2 h.type]
    change (s.resolveFrom _ t >>= _) = _
    rw [id_of_get? h.found, target]
    change (if d.isArray = true then _ else _) = _
    rw [if_pos (by simpa [CType.noArray_iff] using array)]
    rfl

/-! ## The two spellings -/

/-- An array of arrays is refused, whether the qualifiers stand before it or before its elements. -/
lemma resolve_arrayOfArrays {qs : List Qualifier} {x y i t u : EntryId} {a b : Entry}
    {children children' : List Entry} {d : CType} (plain : .restrict ∉ qs)
    (outside : s.Qualifies qs x i) (ha : s.ArrayAt i a children t)
    (hb : s.ArrayAt y b children' u) (inside : s.Qualifies qs u t)
    (bounds : SameBounds children children') (ht : s.Denotes t d) (array : ¬ d.NoArray) :
    s.resolve x = .error (.unsupported i (refused children)) ∧
      s.resolve y = .error (.unsupported y (refused children)) := by
  constructor
  · have link : s.TypeLink Tag.isWrapper i t := ⟨a, ha.found, by rw [ha.tag]; rfl, ha.type⟩
    exact outside.resolveFrom_eq_error plain (TypeLink.acc link ht.acc)
      (ha.resolveFrom_eq_error ht array) [] (by simp)
  · have hu := inside.denotes ht fun h => absurd h plain
    rw [bounds.refused_eq]
    exact hb.resolveFrom_eq_error hu (mt noArray_foldr_qualify_iff.1 array) [] (by simp)

/-- An array behind qualifiers and an array of elements behind the same qualifiers, with the same
bounds and the same unqualified elements, have the same type, if either has one, and so they are
written alike. An array of arrays is refused in both spellings. -/
theorem resolve_qualifiedArray (s : Store) {qs : List Qualifier} {x y i t u : EntryId} {a b : Entry}
    {children children' : List Entry} (plain : .restrict ∉ qs)
    (outside : s.Qualifies qs x i) (ha : s.ArrayAt i a children t)
    (hb : s.ArrayAt y b children' u) (inside : s.Qualifies qs u t)
    (bounds : SameBounds children children') :
    (∀ d, s.resolve x = .ok d ↔ s.resolve y = .ok d) ∧
    (∀ name text, (∃ d, s.resolve x = .ok d ∧ d.declaration name = text) ↔
      ∃ d, s.resolve y = .ok d ∧ d.declaration name = text) ∧
    ∀ qs' length d, s.resolve t = .ok (.array qs' length d) → ∃ construct,
      s.resolve x = .error (.unsupported i construct) ∧
      s.resolve y = .error (.unsupported y construct) := by
  have same (d : CType) : s.resolve x = .ok d ↔ s.resolve y = .ok d := by
    have denotes : s.Denotes x d ↔ s.Denotes y d :=
      denotes_qualifiedArray_iff plain outside ha hb inside bounds
    constructor
    · exact fun h => (denotes.1 (denotes_of_walk h)).resolve
    · exact fun h => (denotes.2 (denotes_of_walk h)).resolve
  refine ⟨same, fun name text => exists_congr fun d => and_congr_left fun _ => same d,
    fun qs' length d resolved => ⟨refused children, ?_⟩⟩
  have array : ¬ (CType.array qs' length d).NoArray := fun none => none qs' length d rfl
  exact resolve_arrayOfArrays plain outside ha hb inside bounds (denotes_of_walk resolved) array

/-- Three constant pointers to `char`, which are made volatile and constant: from `<0x38>` as an
array, from `<0x68>` as its elements. -/
def qualifiedPointers : List Entry :=
  [⟨⟨0x10⟩, .baseType, .ofList [(.name, .string "char")], []⟩,
   ⟨⟨0x18⟩, .pointerType, .ofList [(.type, .ref ⟨0x10⟩)], []⟩,
   ⟨⟨0x20⟩, .constType, .ofList [(.type, .ref ⟨0x18⟩)], []⟩,
   ⟨⟨0x28⟩, .arrayType, .ofList [(.type, .ref ⟨0x20⟩)], [⟨0x2c⟩]⟩,
   ⟨⟨0x2c⟩, .subrangeType, .ofList [(.upperBound, .unsigned 2)], []⟩,
   ⟨⟨0x30⟩, .constType, .ofList [(.type, .ref ⟨0x28⟩)], []⟩,
   ⟨⟨0x38⟩, .volatileType, .ofList [(.type, .ref ⟨0x30⟩)], []⟩,
   ⟨⟨0x50⟩, .constType, .ofList [(.type, .ref ⟨0x20⟩)], []⟩,
   ⟨⟨0x58⟩, .volatileType, .ofList [(.type, .ref ⟨0x50⟩)], []⟩,
   ⟨⟨0x60⟩, .subrangeType, .ofList [(.upperBound, .unsigned 2)], []⟩,
   ⟨⟨0x68⟩, .arrayType, .ofList [(.type, .ref ⟨0x58⟩)], [⟨0x60⟩]⟩]

/-- The qualifiers of the array come before those that its elements have anyway. -/
theorem resolve_qualifiedArray_pointers :
    ∃ s d, Store.ofList qualifiedPointers = .ok s ∧
      s.resolve ⟨0x38⟩ = .ok d ∧ s.resolve ⟨0x68⟩ = .ok d ∧
      d.declaration "names" = "char* volatile const const names[3]" := by
  have distinct : (qualifiedPointers.map Entry.id).Nodup := by decide
  obtain ⟨s, made, list⟩ := Store.ofList_of_nodup distinct
  have found := Store.get?_of_toList list
  have outside : s.Qualifies [.volatile, .const] ⟨0x38⟩ ⟨0x28⟩ :=
    .before (found _) rfl rfl (.before (found _) rfl rfl .none)
  have inside : s.Qualifies [.volatile, .const] ⟨0x58⟩ ⟨0x20⟩ :=
    .before (found _) rfl rfl (.before (found _) rfl rfl .none)
  have array : s.ArrayAt ⟨0x28⟩ _ _ ⟨0x20⟩ :=
    ⟨found _, rfl, .cons (found _) .nil, rfl⟩
  have array' : s.ArrayAt ⟨0x68⟩ _ _ ⟨0x58⟩ :=
    ⟨found _, rfl, .cons (found _) .nil, rfl⟩
  have same := resolve_qualifiedArray s (by decide) outside array array' inside
    (.cons ⟨rfl, rfl⟩ .nil)
  have element : s.Denotes ⟨0x20⟩ (.pointer [.const] (.leaf [] (.base "char"))) :=
    .qualified (found _) rfl (by simp) rfl (.pointer (found _) rfl rfl (.base (found _) rfl rfl))
      .pointer
  have three := array.denotes_iff.2
    ⟨some 3, _, .one (Entry.hasLength_iff.2 rfl), element, CType.noArray_iff.2 rfl, rfl⟩
  have resolved := (outside.denotes three (by simp)).resolve
  exact ⟨s, _, made, resolved, (same.1 _).1 resolved, by decide⟩

end Store

end Prototyper
