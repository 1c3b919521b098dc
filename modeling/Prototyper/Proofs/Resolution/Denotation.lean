import Prototyper.Proofs.Entry.Values
import Prototyper.Proofs.Resolution.Walk

/-!
# What a type reference denotes

`Denotes` gives the meaning of a type reference without a walk: a finite chain of entries from
qualifiers, pointers and arrays down to a specifier. `PointerLike` is the part of it that decides
where `restrict` may stand, and it alone looks behind type names.

`resolve_eq_ok_iff` is the main result. One direction follows the recursion of `resolveFrom`. For
the other, a finite chain never comes back to one of its entries (`Denotes.acyclic`), so none of
them is on the path when the walk arrives there.
-/

namespace Prototyper

/-- The length that a subrange gives to its array. The upper bound counts only without a readable
count, and only if one more can be written. -/
inductive Entry.HasLength (subrange : Entry) : Option UInt64 → Prop where
  | count {n} :
    Value.HoldsNumber (subrange.attr .count) n →
    subrange.HasLength (some n)
  | upperBound {n m} :
    (∀ c, ¬ Value.HoldsNumber (subrange.attr .count) c) →
    Value.HoldsNumber (subrange.attr .upperBound) n →
    m.toNat = n.toNat + 1 →
    subrange.HasLength (some m)
  | unbounded :
    (∀ c, ¬ Value.HoldsNumber (subrange.attr .count) c) →
    (∀ n, Value.HoldsNumber (subrange.attr .upperBound) n → UInt64.size ≤ n.toNat + 1) →
    subrange.HasLength none

/-- The length of an array with these subranges: at most one. -/
inductive ArrayLength : List Entry → Option UInt64 → Prop where
  | none :
    ArrayLength [] none
  | one {subrange length} :
    subrange.HasLength length →
    ArrayLength [subrange] length

namespace CType

/-- A type with one more qualifier in front: one that belongs to the specifier or the pointer on the
outside, and to the elements of an array. -/
inductive Qualified (q : Qualifier) : CType → CType → Prop where
  | leaf {qs spec} :
    Qualified q (.leaf qs spec) (.leaf (q :: qs) spec)
  | pointer {qs d} :
    Qualified q (.pointer qs d) (.pointer (q :: qs) d)
  | array {qs length d d'} :
    Qualified q d d' →
    Qualified q (.array qs length d) (.array qs length d')

/-- The outermost layer of a type is no array. -/
def NoArray (d : CType) : Prop :=
  ∀ qs length element, d ≠ .array qs length element

/-- To qualify a type is to put the qualifier where it belongs. -/
lemma qualified_iff {q : Qualifier} {d d' : CType} : d.Qualified q d' ↔ d.qualify q = d' := by
  constructor
  · intro h
    induction h with
    | leaf => rfl
    | pointer => rfl
    | array _ ih => rw [qualify, ih]
  · rintro rfl
    induction d with
    | leaf => exact .leaf
    | pointer => exact .pointer
    | array _ _ _ ih => exact .array ih

/-- The outermost layers that are no arrays are told by `isArray`. -/
lemma noArray_iff {d : CType} : d.NoArray ↔ d.isArray = false := by
  unfold NoArray
  cases d <;> simp [isArray]

end CType

namespace Store

/-- An entry is a pointer, possibly behind qualifiers and type names. -/
inductive PointerLike (s : Store) : EntryId → Prop where
  | pointer {id e} :
    s.get? id = some e →
    e.tag = .pointerType →
    PointerLike s id
  | behind {id e t} :
    s.get? id = some e →
    e.tag.isTransparent = true →
    e.attr .type = some (.ref t) →
    PointerLike s t →
    PointerLike s id

/-- The type that the entry with an identifier denotes. -/
inductive Denotes (s : Store) : EntryId → CType → Prop where
  | qualifiedVoid {id e q} :
    s.get? id = some e →
    e.tag.qualifier? = some q → q ≠ .restrict →
    e.attr .type = none →
    Denotes s id (.leaf [q] .void)
  | qualified {id e q t d d'} :
    s.get? id = some e →
    e.tag.qualifier? = some q → (q = .restrict → s.PointerLike t) →
    e.attr .type = some (.ref t) →
    Denotes s t d → d.Qualified q d' →
    Denotes s id d'
  | voidPointer {id e} :
    s.get? id = some e →
    e.tag = .pointerType →
    e.attr .type = none →
    Denotes s id (.pointer [] (.leaf [] .void))
  | pointer {id e t d} :
    s.get? id = some e →
    e.tag = .pointerType →
    e.attr .type = some (.ref t) →
    Denotes s t d →
    Denotes s id (.pointer [] d)
  | array {id e children length t d} :
    s.get? id = some e →
    e.tag = .arrayType →
    List.Forall₂ (fun c child => s.get? c = some child) e.children children →
    ArrayLength (children.filter fun c => c.tag = .subrangeType) length →
    e.attr .type = some (.ref t) →
    Denotes s t d → d.NoArray →
    Denotes s id (.array [] length d)
  | base {id e name} :
    s.get? id = some e →
    e.tag = .baseType →
    e.attr .name = some (.string name) →
    Denotes s id (.leaf [] (.base name))
  | typedef {id e name} :
    s.get? id = some e →
    e.tag = .typedef →
    e.attr .name = some (.string name) →
    Denotes s id (.leaf [] (.named ⟨.typedef, id, some name⟩))
  | aggregate {id e kind name} :
    s.get? id = some e →
    e.tag.aggregate? = some kind →
    Value.TextOf (e.attr .name) name →
    Denotes s id (.leaf [] (.named ⟨kind, id, name⟩))

/-! ## Finite chains do not come back -/

/-- A chain of qualifiers and type names down to a pointer ends. -/
lemma PointerLike.acc {s : Store} {id : EntryId} (h : s.PointerLike id) :
    Acc (fun t p => s.TypeLink Tag.isTransparent p t) id := by
  induction h with
  | @pointer id e he tag =>
    constructor
    rintro t ⟨e', he', follows, -⟩
    rw [he] at he'
    cases he'
    rw [tag] at follows
    exact absurd follows (by decide)
  | behind he tag type _ ih => exact TypeLink.acc ⟨_, he, tag, type⟩ ih

/-- The chain of a type ends at its specifier. -/
lemma Denotes.acc {s : Store} {id : EntryId} {d : CType} (h : s.Denotes id d) :
    Acc (fun t p => s.TypeLink Tag.isWrapper p t) id := by
  -- an entry at which the chain ends has no link of the walk
  have ends : ∀ {id e}, s.get? id = some e → e.tag.isWrapper = false ∨ e.attr .type = none →
      Acc (fun t p => s.TypeLink Tag.isWrapper p t) id := by
    intro id e he stop
    constructor
    rintro t ⟨e', he', follows, type⟩
    rw [he] at he'
    cases he'
    rcases stop with stop | stop
    · exact absurd follows (by simp [stop])
    · exact absurd type (by simp [stop])
  induction h with
  | qualifiedVoid he _ _ type => exact ends he (.inr type)
  | qualified he tag _ type _ _ ih =>
    exact TypeLink.acc ⟨_, he, Tag.isWrapper_of_qualifier? tag, type⟩ ih
  | voidPointer he _ type => exact ends he (.inr type)
  | pointer he tag type _ ih => exact TypeLink.acc ⟨_, he, by rw [tag]; rfl, type⟩ ih
  | array he tag _ _ type _ _ ih => exact TypeLink.acc ⟨_, he, by rw [tag]; rfl, type⟩ ih
  | base he tag _ => exact ends he (.inl (by rw [tag]; rfl))
  | typedef he tag _ => exact ends he (.inl (by rw [tag]; rfl))
  | aggregate he tag _ => exact ends he (.inl (Tag.isWrapper_of_aggregate? tag))

/-- A chain of qualifiers and type names down to a pointer does not come back to its start. -/
lemma PointerLike.acyclic {s : Store} {id : EntryId} (h : s.PointerLike id) :
    ¬ Relation.TransGen (s.TypeLink Tag.isTransparent) id id :=
  TypeLink.acyclic h.acc

/-- A qualifier in front of an entry qualifies what the entry denotes. -/
lemma Denotes.qualify {s : Store} {id t : EntryId} {e : Entry} {q : Qualifier} {d : CType}
    (ht : s.Denotes t d) (he : s.get? id = some e) (tag : e.tag.qualifier? = some q)
    (restrict : q = .restrict → s.PointerLike t) (type : e.attr .type = some (.ref t)) :
    s.Denotes id (d.qualify q) :=
  .qualified he tag restrict type ht (CType.qualified_iff.2 rfl)

/-- The chain of a type down to its specifier does not come back to its start. -/
lemma Denotes.acyclic {s : Store} {id : EntryId} {d : CType} (h : s.Denotes id d) :
    ¬ Relation.TransGen (s.TypeLink Tag.isWrapper) id id :=
  TypeLink.acyclic h.acc

end Store

/-! ## Lengths -/

/-- One more than a bound that leaves room for it. -/
lemma toNat_add_one {n : UInt64} (fits : n.toNat + 1 < UInt64.size) :
    (n + 1).toNat = n.toNat + 1 := by
  rw [UInt64.toNat_add]
  exact Nat.mod_eq_of_lt fits

/-- The number of elements that a subrange describes is a length of it. -/
lemma Entry.hasLength_elementCount? (e : Entry) : e.HasLength e.elementCount? := by
  have absent {a : Attr} (none : (e.attr a).bind Value.unsigned? = none) (n : UInt64) :
      ¬ Value.HoldsNumber (e.attr a) n := fun h => by
    cases none.symm.trans (Value.holdsNumber_iff.1 h)
  unfold elementCount?
  split
  case h_1 n count => exact .count (Value.holdsNumber_iff.2 count)
  case h_2 noCount =>
    split
    case h_1 n upper =>
      have bound := Value.holdsNumber_iff.2 upper
      split
      case isTrue fits => exact .upperBound (absent noCount) bound (toNat_add_one fits)
      case isFalse full =>
        refine .unbounded (absent noCount) fun m h => ?_
        rw [h.unique bound]
        exact Nat.le_of_not_lt full
    case h_2 noUpper =>
      exact .unbounded (absent noCount) fun n h => absurd h (absent noUpper n)

/-- A subrange has one length. -/
lemma Entry.HasLength.unique {e : Entry} {length length' : Option UInt64}
    (h : e.HasLength length) (h' : e.HasLength length') : length = length' := by
  cases h with
  | count count =>
    cases h' with
    | count count' => rw [count.unique count']
    | upperBound none => exact absurd count (none _)
    | unbounded none => exact absurd count (none _)
  | @upperBound n m none bound next =>
    cases h' with
    | count count => exact absurd count (none _)
    | upperBound _ bound' next' =>
      rw [← bound.unique bound'] at next'
      rw [UInt64.toNat_inj.1 (next.trans next'.symm)]
    | unbounded _ full =>
      exact absurd (next ▸ m.toNat_lt_size) (Nat.not_lt.2 (full n bound))
  | unbounded none full =>
    cases h' with
    | count count => exact absurd count (none _)
    | @upperBound n m _ bound next =>
      exact absurd (next ▸ m.toNat_lt_size) (Nat.not_lt.2 (full n bound))
    | unbounded => rfl

/-- The length of a subrange is the number of elements that it describes. -/
lemma Entry.hasLength_iff {e : Entry} {length : Option UInt64} :
    e.HasLength length ↔ e.elementCount? = length := by
  constructor
  · exact e.hasLength_elementCount?.unique
  · rintro rfl
    exact e.hasLength_elementCount?

/-! ## The walk -/

namespace Store

/-- The children of an array lead to its subranges when all of them are in the store. -/
lemma subranges_eq_ok_iff {s : Store} {e : Entry} {rs : List Entry} :
    s.subranges e = .ok rs ↔ ∃ children,
      List.Forall₂ (fun c child => s.get? c = some child) e.children children ∧
      children.filter (fun c => c.tag = .subrangeType) = rs := by
  have filters : ∀ cs : List Entry,
      cs.filter (fun c => c.tag == .subrangeType) = cs.filter fun c => c.tag = .subrangeType :=
    fun cs => List.filter_congr fun c _ => by by_cases h : c.tag = .subrangeType <;> simp [h]
  unfold subranges
  rw [bind_eq_ok_iff]
  simp only [mapM_eq_ok_iff, lookup_eq_ok_iff, filters]
  exact exists_congr fun children => and_congr_right fun _ =>
    ⟨fun h => Except.ok.inj h, fun h => congrArg Except.ok h⟩

/-- At most one subrange gives its length to an array. -/
lemma arrayLength_iff {rs : List Entry} {length : Option UInt64} :
    ArrayLength rs length ↔ ¬ 1 < rs.length ∧ rs.head?.bind Entry.elementCount? = length := by
  constructor
  · intro h
    cases h with
    | none => exact ⟨by simp, rfl⟩
    | one h => exact ⟨by simp, Entry.hasLength_iff.1 h⟩
  · rintro ⟨few, rfl⟩
    match rs with
    | [] => exact .none
    | [r] => exact .one (Entry.hasLength_iff.2 rfl)
    | _ :: _ :: _ => exact absurd (by simp) few

/-- The look-ahead finds a pointer only where there is one. -/
lemma pointerLike_of_walk {s : Store} {seen : List EntryId} {id : EntryId}
    (h : s.isPointerLikeFrom seen id = .ok true) : s.PointerLike id := by
  induction seen, id using resolveFrom.induct s with
  | case1 seen id old => rw [isPointerLikeFrom_eq, if_pos old] at h; simp at h
  | case2 seen id fresh missing =>
    rw [isPointerLikeFrom_eq, if_neg fresh, lookup_of_missing missing] at h
    cases h
  | case3 seen id fresh e he ih =>
    rw [isPointerLikeFrom_eq, if_neg fresh, lookup_eq_ok_iff.2 he] at h
    change (if e.tag = .pointerType then _ else _) = _ at h
    split at h
    case isTrue pointer => exact .pointer he pointer
    case isFalse =>
      split at h
      case isTrue transparent =>
        obtain ⟨target, type, h⟩ := bind_eq_ok_iff.1 h
        cases target with
        | none => exact absurd (Except.ok.inj h) (by decide)
        | some t => exact .behind he transparent (Entry.reference_eq_some_iff.1 type) (ih t h)
      case isFalse => exact absurd (Except.ok.inj h) (by decide)

/-- The look-ahead arrives at each pointer that a finite chain leads to, with no entry of the chain
seen before. -/
lemma PointerLike.walk {s : Store} {id : EntryId} (h : s.PointerLike id) (seen : List EntryId)
    (reach : ∀ p ∈ seen, Relation.TransGen (s.TypeLink Tag.isTransparent) p id) :
    s.isPointerLikeFrom seen id = .ok true := by
  have fresh : id ∉ seen := fun old => h.acyclic (reach id old)
  induction h generalizing seen with
  | pointer he pointer =>
    rw [isPointerLikeFrom_eq, if_neg fresh, lookup_eq_ok_iff.2 he]
    change (if _ then _ else _) = _
    rw [if_pos pointer]
    rfl
  | @behind id e t he transparent type ht ih =>
    have link : s.TypeLink Tag.isTransparent id t := ⟨e, he, transparent, type⟩
    have notPointer : e.tag ≠ .pointerType := fun pointer => by
      rw [pointer] at transparent
      exact absurd transparent (by decide)
    have reach' := link.reach reach
    have rest := ih (id :: seen) reach' fun old => ht.acyclic (reach' t old)
    rw [isPointerLikeFrom_eq, if_neg fresh, lookup_eq_ok_iff.2 he]
    change (if _ then _ else _) = _
    rw [if_neg notPointer, if_pos transparent, Entry.reference_eq_some_iff.2 type]
    exact rest

/-- A reference leads to a pointer when it names an entry that is one. -/
lemma isPointerLike_eq_true_iff {s : Store} {target : Option EntryId} :
    s.isPointerLike target = .ok true ↔ ∃ t, target = some t ∧ s.PointerLike t := by
  cases target with
  | none => simp [isPointerLike]
  | some t =>
    constructor
    · exact fun h => ⟨t, rfl, pointerLike_of_walk h⟩
    · rintro ⟨_, ⟨⟩, h⟩
      exact h.walk [] (by simp)

/-- The target of a wrapper has a type: `void` without a type attribute. -/
lemma targetType_eq_ok_iff {typeAt : EntryId → Except Defect CType} {e : Entry} {d : CType} :
    targetType typeAt e = .ok d ↔
      e.attr .type = none ∧ d = .void ∨ ∃ t, e.attr .type = some (.ref t) ∧ typeAt t = .ok d := by
  unfold targetType
  rw [bind_eq_ok_iff]
  constructor
  · rintro ⟨target, type, h⟩
    cases target with
    | none => exact .inl ⟨Entry.reference_eq_none_iff.1 type, (Except.ok.inj h).symm⟩
    | some t => exact .inr ⟨t, Entry.reference_eq_some_iff.1 type, h⟩
  · rintro (⟨type, rfl⟩ | ⟨t, type, h⟩)
    · exact ⟨none, Entry.reference_eq_none_iff.2 type, rfl⟩
    · exact ⟨some t, Entry.reference_eq_some_iff.2 type, h⟩

/-- An array has a type when its children, its subranges and its elements allow one. -/
lemma arrayType_eq_ok_iff {s : Store} {typeAt : EntryId → Except Defect CType} {e : Entry}
    {d : CType} :
    s.arrayType typeAt e = .ok d ↔ ∃ children length t element,
      List.Forall₂ (fun c child => s.get? c = some child) e.children children ∧
      ArrayLength (children.filter fun c => c.tag = .subrangeType) length ∧
      e.attr .type = some (.ref t) ∧ typeAt t = .ok element ∧ element.NoArray ∧
      d = .array [] length element := by
  unfold arrayType
  rw [bind_eq_ok_iff]
  constructor
  · rintro ⟨rs, subranges, h⟩
    obtain ⟨children, found, rfl⟩ := subranges_eq_ok_iff.1 subranges
    split at h
    case isTrue many => cases h
    case isFalse few =>
      obtain ⟨-, -, h⟩ := bind_eq_ok_iff.1 h
      obtain ⟨target, type, h⟩ := bind_eq_ok_iff.1 h
      cases target with
      | none => cases h
      | some t =>
        obtain ⟨element, resolved, h⟩ := bind_eq_ok_iff.1 h
        split at h
        case isTrue => cases h
        case isFalse flat =>
          refine ⟨children, _, t, element, found, arrayLength_iff.2 ⟨few, rfl⟩,
            Entry.reference_eq_some_iff.1 type, resolved,
            CType.noArray_iff.2 (by simpa using flat), ?_⟩
          exact (Except.ok.inj h).symm
  · rintro ⟨children, length, t, element, found, lengths, type, resolved, flat, rfl⟩
    obtain ⟨few, rfl⟩ := arrayLength_iff.1 lengths
    refine ⟨_, subranges_eq_ok_iff.2 ⟨children, found, rfl⟩, ?_⟩
    rw [if_neg few, Entry.reference_eq_some_iff.2 type]
    change (typeAt t >>= _) = _
    rw [resolved]
    change (if element.isArray = true then _ else _) = _
    rw [CType.noArray_iff.1 flat]
    rfl

/-- Where targets have the types that they denote, so does a wrapper that qualifies one. -/
lemma denotes_of_targetType {s : Store} {id : EntryId} {e : Entry} {q : Qualifier} {d : CType}
    {typeAt : EntryId → Except Defect CType}
    (he : s.get? id = some e) (tag : e.tag.qualifier? = some q)
    (restrict : q = .restrict → ∃ t, e.attr .type = some (.ref t) ∧ s.PointerLike t)
    (ih : ∀ t d, typeAt t = .ok d → s.Denotes t d)
    (h : targetType typeAt e = .ok d) : s.Denotes id (d.qualify q) := by
  obtain ⟨type, rfl⟩ | ⟨t, type, ht⟩ := targetType_eq_ok_iff.1 h
  · refine .qualifiedVoid he tag (fun eq => ?_) type
    obtain ⟨t, type', -⟩ := restrict eq
    exact absurd type' (by simp [type])
  · refine (ih t d ht).qualify he tag (fun eq => ?_) type
    obtain ⟨t', type', like⟩ := restrict eq
    rw [type] at type'
    cases type'
    exact like

/-- Where targets have the types that they denote, so has the entry that refers to them. -/
lemma denotes_of_typeOf {s : Store} {id : EntryId} {e : Entry} {d : CType}
    {typeAt : EntryId → Except Defect CType} (he : s.get? id = some e)
    (ih : ∀ t d, typeAt t = .ok d → s.Denotes t d)
    (h : s.typeOf typeAt e = .ok d) : s.Denotes id d := by
  have own : e.id = id := id_of_get? he
  unfold typeOf at h
  cases tag : e.tag <;> simp only [tag] at h
  case constType =>
    obtain ⟨d', target, h⟩ := bind_eq_ok_iff.1 h
    cases Except.ok.inj h
    exact denotes_of_targetType he (by rw [tag]; rfl) (fun eq => by simp at eq) ih target
  case volatileType =>
    obtain ⟨d', target, h⟩ := bind_eq_ok_iff.1 h
    cases Except.ok.inj h
    exact denotes_of_targetType he (by rw [tag]; rfl) (fun eq => by simp at eq) ih target
  case restrictType =>
    obtain ⟨reference, type, afterwards⟩ := bind_eq_ok_iff.1 h
    obtain ⟨pointer, ahead, rest⟩ := bind_eq_ok_iff.1 afterwards
    cases pointer with
    | false => cases rest
    | true =>
      obtain ⟨d', target, rest⟩ := bind_eq_ok_iff.1 rest
      obtain ⟨t, rfl, like⟩ := isPointerLike_eq_true_iff.1 ahead
      cases Except.ok.inj rest
      refine denotes_of_targetType he (by rw [tag]; rfl) (fun _ => ?_) ih target
      exact ⟨t, Entry.reference_eq_some_iff.1 type, like⟩
  case pointerType =>
    obtain ⟨d', target, h⟩ := bind_eq_ok_iff.1 h
    cases Except.ok.inj h
    obtain ⟨type, rfl⟩ | ⟨t, type, ht⟩ := targetType_eq_ok_iff.1 target
    · exact .voidPointer he tag type
    · exact .pointer he tag type (ih t d' ht)
  case arrayType =>
    obtain ⟨children, length, t, element, found, lengths, type, ht, flat, rfl⟩ :=
      arrayType_eq_ok_iff.1 h
    exact .array he tag found lengths type (ih t element ht) flat
  case baseType =>
    cases name : e.name? with
    | none => rw [name] at h; cases h
    | some n =>
      simp only [name] at h
      cases Except.ok.inj h
      exact .base he tag (Entry.name?_eq_some_iff.1 name)
  case typedef =>
    cases name : e.name? with
    | none => rw [name] at h; cases h
    | some n =>
      simp only [name] at h
      cases Except.ok.inj h
      rw [Entry.namedType, own, name]
      exact .typedef he tag (Entry.name?_eq_some_iff.1 name)
  case structureType =>
    cases Except.ok.inj h
    rw [Entry.namedType, own]
    exact .aggregate he (by rw [tag]; rfl) (Entry.name?_eq_iff.1 rfl)
  case unionType =>
    cases Except.ok.inj h
    rw [Entry.namedType, own]
    exact .aggregate he (by rw [tag]; rfl) (Entry.name?_eq_iff.1 rfl)
  case enumerationType =>
    cases Except.ok.inj h
    rw [Entry.namedType, own]
    exact .aggregate he (by rw [tag]; rfl) (Entry.name?_eq_iff.1 rfl)
  all_goals cases h

/-- The walk gives only types that are denoted. -/
lemma denotes_of_walk {s : Store} {path : List EntryId} {id : EntryId} {d : CType}
    (h : s.resolveFrom path id = .ok d) : s.Denotes id d := by
  induction path, id using resolveFrom.induct s generalizing d with
  | case1 path id old => rw [resolveFrom_eq, if_pos old] at h; simp at h
  | case2 path id fresh missing =>
    rw [resolveFrom_eq, if_neg fresh, lookup_of_missing missing] at h
    cases h
  | case3 path id fresh e he ih =>
    rw [resolveFrom_eq, if_neg fresh, lookup_eq_ok_iff.2 he] at h
    exact denotes_of_typeOf he (fun t d => ih t) h

/-- A qualifier in front of the type of its target is the type of a wrapper. -/
lemma typeOf_qualifier {s : Store} {e : Entry} {q : Qualifier} {d : CType}
    {typeAt : EntryId → Except Defect CType} (tag : e.tag.qualifier? = some q)
    (restrict : q = .restrict → ∃ t, e.attr .type = some (.ref t) ∧ s.PointerLike t)
    (target : targetType typeAt e = .ok d) : s.typeOf typeAt e = .ok (d.qualify q) := by
  unfold typeOf
  cases tag' : e.tag <;> rw [tag'] at tag <;> simp only [Tag.qualifier?, reduceCtorEq] at tag <;>
    cases tag
  case constType => exact bind_eq_ok_iff.2 ⟨d, target, rfl⟩
  case volatileType => exact bind_eq_ok_iff.2 ⟨d, target, rfl⟩
  case restrictType =>
    obtain ⟨t, type, like⟩ := restrict rfl
    have ahead := isPointerLike_eq_true_iff.2 ⟨t, rfl, like⟩
    refine bind_eq_ok_iff.2 ⟨some t, Entry.reference_eq_some_iff.2 type, ?_⟩
    exact bind_eq_ok_iff.2 ⟨true, ahead, bind_eq_ok_iff.2 ⟨d, target, rfl⟩⟩

/-- The walk arrives at each type that is denoted: no entry of the chain is on the path before. -/
lemma Denotes.walk {s : Store} {id : EntryId} {d : CType} (h : s.Denotes id d)
    (path : List EntryId)
    (reach : ∀ p ∈ path, Relation.TransGen (s.TypeLink Tag.isWrapper) p id) :
    s.resolveFrom path id = .ok d := by
  have fresh : id ∉ path := fun old => h.acyclic (reach id old)
  induction h generalizing path with
  | qualifiedVoid he tag noRestrict type =>
    rw [resolveFrom_of_fresh fresh he]
    exact typeOf_qualifier tag (fun eq => absurd eq noRestrict)
      (targetType_eq_ok_iff.2 (.inl ⟨type, rfl⟩))
  | @qualified id e q t d _ he tag restrict type ht front ih =>
    obtain rfl := CType.qualified_iff.1 front
    -- a target on the path would lead to itself, and its chain would not be finite
    have reach' := TypeLink.reach ⟨e, he, Tag.isWrapper_of_qualifier? tag, type⟩ reach
    have target := ih (id :: path) reach' fun old => ht.acyclic (reach' t old)
    rw [resolveFrom_of_fresh fresh he]
    exact typeOf_qualifier tag (fun eq => ⟨t, type, restrict eq⟩)
      (targetType_eq_ok_iff.2 (.inr ⟨t, type, target⟩))
  | voidPointer he tag type =>
    rw [resolveFrom_of_fresh fresh he, typeOf, tag]
    exact bind_eq_ok_iff.2 ⟨.void, targetType_eq_ok_iff.2 (.inl ⟨type, rfl⟩), rfl⟩
  | @pointer id e t d he tag type ht ih =>
    have reach' := TypeLink.reach ⟨e, he, by rw [tag]; rfl, type⟩ reach
    have target := ih (id :: path) reach' fun old => ht.acyclic (reach' t old)
    rw [resolveFrom_of_fresh fresh he, typeOf, tag]
    exact bind_eq_ok_iff.2 ⟨d, targetType_eq_ok_iff.2 (.inr ⟨t, type, target⟩), rfl⟩
  | @array id e children length t d he tag found lengths type ht flat ih =>
    have reach' := TypeLink.reach ⟨e, he, by rw [tag]; rfl, type⟩ reach
    have target := ih (id :: path) reach' fun old => ht.acyclic (reach' t old)
    rw [resolveFrom_of_fresh fresh he, typeOf, tag]
    exact arrayType_eq_ok_iff.2 ⟨children, length, t, d, found, lengths, type, target, flat, rfl⟩
  | base he tag name =>
    rw [resolveFrom_of_fresh fresh he, typeOf, tag]
    simp only [Entry.name?_eq_some_iff.2 name]
    rfl
  | typedef he tag name =>
    rw [resolveFrom_of_fresh fresh he, typeOf, tag]
    simp only [Entry.name?_eq_some_iff.2 name, Entry.namedType, id_of_get? he]
    rfl
  | @aggregate id e kind name he tag named =>
    rw [resolveFrom_of_fresh fresh he, typeOf, ← id_of_get? he, ← Entry.name?_eq_iff.2 named]
    cases tag' : e.tag <;> rw [tag'] at tag <;> simp only [Tag.aggregate?, reduceCtorEq] at tag <;>
      cases tag <;> rfl

/-- What a reference denotes is what it is resolved to. -/
lemma Denotes.resolve {s : Store} {id : EntryId} {d : CType} (h : s.Denotes id d) :
    s.resolve id = .ok d :=
  h.walk [] (by simp)

/-- Resolution gives exactly the type that the reference denotes. -/
theorem resolve_eq_ok_iff (s : Store) (id : EntryId) (d : CType) :
    s.resolve id = .ok d ↔ s.Denotes id d :=
  ⟨denotes_of_walk, Denotes.resolve⟩

end Store

end Prototyper
