import Mathlib.Logic.Relation
import Prototyper.CType.Resolution
import Prototyper.Proofs.Lookup
import Prototyper.Signature.Origin

/-!
# Walks along references

Two walks follow type attributes: `resolveFrom` down to a specifier, `isPointerLikeFrom` ahead to a
pointer. Each is described by one equation for a step. Both keep the entries visited so far, and
both end for the same reason, so `resolveFrom.induct` serves for proofs about either. A third walk,
`carrierFrom`, follows origins and counts its links.

`TypeLink` is a step as a relation. It never branches, so a walk that ends has met no entry twice.
-/

namespace Prototyper

/-- The tags of the entries behind which the type of an entry lies. -/
def Tag.isWrapper : Tag → Bool
  | constType | volatileType | restrictType | pointerType | arrayType => true
  | _ => false

/-- The tags of the entries behind which a pointer counts as a pointer. -/
def Tag.isTransparent : Tag → Bool
  | constType | volatileType | restrictType | typedef => true
  | _ => false

/-- The tags of the entries through which the walks along type attributes go on. -/
def Tag.isFollowed : Tag → Bool
  | constType | volatileType | restrictType | pointerType | arrayType | typedef => true
  | _ => false

/-- Wrappers are followed. -/
lemma Tag.isFollowed_of_isWrapper {tag : Tag} (h : tag.isWrapper = true) :
    tag.isFollowed = true := by
  cases tag <;> first | rfl | cases h

/-- Qualifiers and type names are followed. -/
lemma Tag.isFollowed_of_isTransparent {tag : Tag} (h : tag.isTransparent = true) :
    tag.isFollowed = true := by
  cases tag <;> first | rfl | cases h

/-- The qualifier that an entry with this tag puts on its target. -/
def Tag.qualifier? : Tag → Option Qualifier
  | constType => some .const
  | volatileType => some .volatile
  | restrictType => some .restrict
  | _ => none

/-- A qualifier stands in front of the type of another entry. -/
lemma Tag.isWrapper_of_qualifier? {tag : Tag} {q : Qualifier} (h : tag.qualifier? = some q) :
    tag.isWrapper = true := by
  cases tag <;> first | rfl | cases h

/-- A pointer counts as a pointer behind a qualifier. -/
lemma Tag.isTransparent_of_qualifier? {tag : Tag} {q : Qualifier} (h : tag.qualifier? = some q) :
    tag.isTransparent = true := by
  cases tag <;> first | rfl | cases h

/-- The kind of the types that an entry with this tag announces. -/
def Tag.aggregate? : Tag → Option NamedKind
  | structureType => some .struct
  | unionType => some .union
  | enumerationType => some .enum
  | _ => none

/-- An entry that announces a type of its own ends a walk. -/
lemma Tag.isWrapper_of_aggregate? {tag : Tag} {kind : NamedKind}
    (h : tag.aggregate? = some kind) : tag.isWrapper = false := by
  cases tag <;> first | rfl | cases h

namespace Store

/-- One step of the look-ahead for a pointer. -/
lemma isPointerLikeFrom_eq (s : Store) (seen : List EntryId) (id : EntryId) :
    s.isPointerLikeFrom seen id =
      if id ∈ seen then .error (.referenceCycle id)
      else do
        let e ← s.lookup id
        if e.tag = .pointerType then return true
        else if e.tag.isTransparent then
          match ← e.reference .type with
          | none => return false
          | some t => s.isPointerLikeFrom (id :: seen) t
        else return false := by
  rw [isPointerLikeFrom]
  by_cases old : id ∈ seen
  · rw [dif_pos old, if_pos old]
  · rw [dif_neg old, if_neg old]
    cases found : s.get? id with
    | none => rw [lookup_of_missing found]; rfl
    | some e =>
      rw [lookup_eq_ok_iff.2 found]
      simp only [bind, Except.bind]
      cases tag : e.tag <;> simp only [Tag.isTransparent, reduceCtorEq, if_true, if_false] <;>
        rcases e.reference .type with d | _ | t <;> rfl

/-- One step of the walk down to a specifier. -/
lemma resolveFrom_eq (s : Store) (path : List EntryId) (id : EntryId) :
    s.resolveFrom path id =
      if id ∈ path then .error (.referenceCycle id)
      else s.lookup id >>= s.typeOf (s.resolveFrom (id :: path)) := by
  rw [resolveFrom]
  by_cases old : id ∈ path
  · rw [dif_pos old, if_pos old]
  · rw [dif_neg old, if_neg old]
    cases found : s.get? id with
    | none => rw [lookup_of_missing found]; rfl
    | some e => rw [lookup_eq_ok_iff.2 found]; rfl

/-- The walk goes on to the type of an entry that it meets for the first time. -/
lemma resolveFrom_of_fresh {s : Store} {path : List EntryId} {id : EntryId} {e : Entry}
    (fresh : id ∉ path) (he : s.get? id = some e) :
    s.resolveFrom path id = s.typeOf (s.resolveFrom (id :: path)) e := by
  rw [resolveFrom_eq, if_neg fresh, lookup_eq_ok_iff.2 he]
  rfl

/-- Without links left, an entry either carries the attribute itself or has no origin. -/
lemma carrierFrom_zero (s : Store) (a : Attr) (visited : List EntryId) (e : Entry) :
    s.carrierFrom a 0 visited e =
      if e.hasAttr a then .ok (some e)
      else e.origin >>= fun
        | none => .ok none
        | some id => .error (.referenceCycle id) := by
  unfold carrierFrom
  refine if_congr Iff.rfl rfl (bind_congr_of_ok fun target _ => ?_)
  cases target with
  | none => rfl
  | some id => exact ite_self _

/-- One link of the search for an attribute. -/
lemma carrierFrom_succ (s : Store) (a : Attr) (links : Nat) (visited : List EntryId) (e : Entry) :
    s.carrierFrom a (links + 1) visited e =
      if e.hasAttr a then .ok (some e)
      else e.origin >>= fun
        | none => .ok none
        | some id =>
          if id ∈ visited then .error (.referenceCycle id)
          else s.lookup id >>= s.carrierFrom a links (id :: visited) := by
  rw [carrierFrom]
  refine if_congr Iff.rfl rfl (bind_congr_of_ok fun target _ => ?_)
  cases target with
  | none => rfl
  | some id => rfl

/-- The reference from an entry, whose tag is one of those that a walk follows, to the entry that
its type attribute names. -/
def TypeLink (s : Store) (follows : Tag → Bool) (id target : EntryId) : Prop :=
  ∃ e, s.get? id = some e ∧ follows e.tag = true ∧ e.attr .type = some (.ref target)

/-- Through the tags of more entries there are more links. -/
lemma TypeLink.mono {s : Store} {follows follows' : Tag → Bool}
    (more : ∀ {tag}, follows tag = true → follows' tag = true) {id t : EntryId}
    (h : s.TypeLink follows id t) : s.TypeLink follows' id t := by
  obtain ⟨e, he, tag, type⟩ := h
  exact ⟨e, he, more tag, type⟩

/-- An entry has one type attribute, so a walk never branches. -/
lemma TypeLink.unique {s : Store} {follows : Tag → Bool} {id t t' : EntryId}
    (h : s.TypeLink follows id t) (h' : s.TypeLink follows id t') : t = t' := by
  obtain ⟨e, he, -, ht⟩ := h
  obtain ⟨e', he', -, ht'⟩ := h'
  rw [he] at he'
  cases he'
  rw [ht] at ht'
  cases ht'
  rfl

/-- A walk ends from an entry if it ends from the one that it goes on to. -/
lemma TypeLink.acc {s : Store} {follows : Tag → Bool} {id t : EntryId}
    (h : s.TypeLink follows id t) (ht : Acc (fun b a => s.TypeLink follows a b) t) :
    Acc (fun b a => s.TypeLink follows a b) id := by
  constructor
  intro t' h'
  cases h.unique h'
  exact ht

/-- A walk that ends does not come back to where it was. -/
lemma TypeLink.acyclic {s : Store} {follows : Tag → Bool} {id : EntryId}
    (h : Acc (fun b a => s.TypeLink follows a b) id) :
    ¬ Relation.TransGen (s.TypeLink follows) id id := by
  induction h with
  | intro id _ ih =>
    intro cycle
    obtain ⟨t, h, back⟩ := Relation.TransGen.head'_iff.1 cycle
    exact ih t h (Relation.TransGen.tail'_iff.2 ⟨id, back, h⟩)

/-- The entries visited so far lead to the next one as well. -/
lemma TypeLink.reach {s : Store} {follows : Tag → Bool} {path : List EntryId} {id t : EntryId}
    (h : s.TypeLink follows id t)
    (reach : ∀ p ∈ path, Relation.TransGen (s.TypeLink follows) p id) :
    ∀ p ∈ id :: path, Relation.TransGen (s.TypeLink follows) p t := by
  intro p hp
  rcases List.mem_cons.1 hp with rfl | hp
  · exact .single h
  · exact (reach p hp).tail h

end Store

end Prototyper
