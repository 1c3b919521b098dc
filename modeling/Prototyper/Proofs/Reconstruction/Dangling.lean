import Prototyper.Proofs.Reconstruction.Defect

/-!
# Identifiers that a store lacks

Every look-up of a walk is for an identifier that stands in an entry: as the value of a reference
attribute, or in a list of children. The references that leave the store are listed, in order and
each once (`pairwise_dangling`). So no walk comes to an identifier that the store lacks, unless it
is the target of one of them, or a missing child. `dangling_announces` says this of types and of
functions.
-/

namespace Prototyper

/-- A reference stands before another one: so does its entry, or it has an attribute of the same
entry that comes first. -/
def Store.Dangling.Before (s : Store) (r r' : Store.Dangling) : Prop :=
  (s.toList.map Entry.id).idxOf r.source < (s.toList.map Entry.id).idxOf r'.source ∨
    r.source = r'.source ∧ Attr.all.idxOf r.attr < Attr.all.idxOf r'.attr

namespace Store

/-- An identifier is wanted by an entry and the store lacks it: it is the target of a listed
reference, or that of a child. -/
inductive Lost (s : Store) (id : EntryId) : Prop where
  | reference {x a} :
    ⟨x, a, id⟩ ∈ s.dangling →
    Lost s id
  | child {e} :
    e ∈ s.toList →
    id ∈ e.children → id ∉ s.toList.map Entry.id →
    Lost s id

variable {s : Store}

/-! ## The list of references -/

/-- A list in which nothing occurs twice stands in the order of its places. -/
lemma pairwise_idxOf {α : Type} [BEq α] [LawfulBEq α] {l : List α} (distinct : l.Nodup) :
    l.Pairwise fun x y => l.idxOf x < l.idxOf y := by
  rw [List.pairwise_iff_getElem]
  intro i j hi hj before
  rwa [distinct.idxOf_getElem i hi, distinct.idxOf_getElem j hj]

/-- An entry lists its references in the order of the attributes. -/
lemma pairwise_references (e : Entry) :
    e.references.Pairwise fun r r' => Attr.all.idxOf r.1 < Attr.all.idxOf r'.1 := by
  unfold Entry.references
  rw [List.pairwise_filterMap]
  refine (pairwise_idxOf Attr.nodup_all).imp fun before r hr r' hr' => ?_
  obtain ⟨t, -, rfl⟩ := Option.map_eq_some_iff.1 hr
  obtain ⟨t', -, rfl⟩ := Option.map_eq_some_iff.1 hr'
  exact before

/-- A store lists its entries by their places. -/
lemma pairwise_toList (s : Store) : s.toList.Pairwise fun e e' =>
    (s.toList.map Entry.id).idxOf e.id < (s.toList.map Entry.id).idxOf e'.id := by
  have order := pairwise_idxOf s.nodup_ids
  rwa [List.pairwise_map] at order

/-- The references that leave the store are listed by entry and attribute, in order. -/
lemma pairwise_dangling (s : Store) : s.dangling.Pairwise (Dangling.Before s) := by
  unfold dangling
  rw [List.pairwise_flatMap]
  constructor
  · intro e _
    rw [List.pairwise_map]
    exact ((pairwise_references e).filter _).imp fun before => .inr ⟨rfl, before⟩
  · refine s.pairwise_toList.imp fun before r hr r' hr' => .inl ?_
    obtain ⟨_, -, rfl⟩ := List.mem_map.1 hr
    obtain ⟨_, -, rfl⟩ := List.mem_map.1 hr'
    exact before

/-- No reference stands before itself, so none is listed twice. -/
lemma nodup_dangling (s : Store) : s.dangling.Nodup := by
  refine s.pairwise_dangling.imp fun before => ?_
  rintro rfl
  obtain before | ⟨-, before⟩ := before <;> exact Nat.lt_irrefl _ before

/-! ## What the walks look up -/

variable {x : EntryId}

/-- An identifier without an entry is that of none. -/
lemma not_mem_ids (absent : s.get? x = none) : x ∉ s.toList.map Entry.id := by
  rw [← contains_iff, contains_eq_isSome_get?, absent]
  exact Bool.false_ne_true

/-- A reference to no entry is lost. -/
lemma lost_of_reference {e : Entry} {a : Attr} (he : e ∈ s.toList)
    (holds : e.attr a = some (.ref x)) (absent : s.get? x = none) : s.Lost x :=
  .reference (mem_dangling_iff.2 ⟨e, he, rfl, holds, not_mem_ids absent⟩)

/-- A child without an entry is lost. -/
lemma lost_of_child {e : Entry} (he : e ∈ s.toList) (child : x ∈ e.children)
    (absent : s.get? x = none) : s.Lost x :=
  .child he child (not_mem_ids absent)

/-- A type that is not found is the one to be resolved, or lost. -/
lemma lost_of_typeDefect {start : EntryId} (h : s.TypeDefect start (.unknownEntry x)) :
    x = start ∧ s.get? x = none ∨ s.Lost x := by
  cases h with
  | missing reach absent =>
    rcases reach.cases_tail with same | ⟨y, -, e, he, -, type⟩
    · exact .inl ⟨same, absent⟩
    · exact .inr (lost_of_reference (mem_of_get? he) type absent)
  | fault _ he fault =>
    cases fault with
    | leadsNowhere _ nowhere => cases nowhere
    | missingChild _ child absent => exact .inr (lost_of_child (mem_of_get? he) child absent)

/-- Origins are entries of the store. -/
lemma mem_toList_of_origin {e o : Entry} (he : e ∈ s.toList)
    (reach : Relation.ReflTransGen s.HasOrigin e o) : o ∈ s.toList := by
  rcases reach.cases_tail with rfl | ⟨_, -, _, -, ho⟩
  · exact he
  · exact mem_of_get? ho

/-- An unknown entry on the way to an attribute is lost. -/
lemma lost_of_inheritedDefect {e : Entry} (he : e ∈ s.toList)
    (h : s.InheritedDefect e (.unknownEntry x)) : s.Lost x := by
  cases h with
  | origin defect =>
    cases defect with
    | missing reach holds absent =>
      rw [← Entry.attr_originAttr] at holds
      exact lost_of_reference (mem_toList_of_origin he reach) holds absent
    | leadsNowhere _ _ nowhere => cases nowhere
  | leadsNowhere _ nowhere => cases nowhere
  | type inherited defect =>
    rcases lost_of_typeDefect defect with ⟨rfl, absent⟩ | lost
    · -- the type itself is missing, so the reference of the carrier is listed
      obtain ⟨c, ⟨_, lineage, -⟩, holds⟩ := inherits_some_iff.1 inherited
      exact lost_of_reference (mem_toList_of_origin he (lineage.reach rfl)) holds absent
    · exact lost

/-- An unknown entry on the way to a signature is lost. -/
lemma lost_of_signatureDefect {f : Entry} (hf : f ∈ s.toList)
    (h : s.SignatureDefect f (.unknownEntry x)) : s.Lost x := by
  cases h with
  | own defect => exact lost_of_inheritedDefect hf defect
  | missingChild child absent => exact lost_of_child hf child absent
  | parameter _ hp _ defect => exact lost_of_inheritedDefect (mem_of_get? hp) defect

/-- What is not found from an entry of the store on, be it for a type or for a function, is lost. -/
lemma lost_of_unknownEntry {id : EntryId} (present : id ∈ s.toList.map Entry.id)
    (h : s.resolve id = .error (.unknownEntry x) ∨ s.signatureAt id = .error (.unknownEntry x)) :
    s.Lost x := by
  obtain ⟨e, he, rfl⟩ := List.mem_map.1 present
  have found : s.get? e.id = some e := get?_eq_some_iff.2 ⟨he, rfl⟩
  rcases h with type | function
  · rcases lost_of_typeDefect (typeDefect_of_resolveFrom (by simp) type) with ⟨rfl, absent⟩ | lost
    · cases absent.symm.trans found
    · exact lost
  · rcases bind_eq_error_iff.1 function with missing | ⟨f, hf, fails⟩
    · cases (lookup_eq_error_iff.1 missing).1.symm.trans found
    · cases found.symm.trans (lookup_eq_ok_iff.1 hf)
      exact lost_of_signatureDefect he (signatureDefect_of_signature found fails)

/-- The references that leave the store are listed, each once, by entry and attribute. If there is
none and no child is missing either, nothing is unknown to a walk that starts in the store; and what
is unknown to one in any store is the target of a listed reference or a missing child. -/
theorem dangling_announces (s : Store) :
    (∀ x a t, ⟨x, a, t⟩ ∈ s.dangling ↔
      ∃ e ∈ s.toList, e.id = x ∧ e.attr a = some (.ref t) ∧ t ∉ s.toList.map Entry.id) ∧
    s.dangling.Nodup ∧ s.dangling.Pairwise (Dangling.Before s) ∧
    (s.dangling = [] → (∀ e ∈ s.toList, ∀ c ∈ e.children, c ∈ s.toList.map Entry.id) →
      ∀ id ∈ s.toList.map Entry.id, ∀ x,
        s.resolve id ≠ .error (.unknownEntry x) ∧ s.signatureAt id ≠ .error (.unknownEntry x)) ∧
    ∀ id ∈ s.toList.map Entry.id, ∀ x,
      s.resolve id = .error (.unknownEntry x) ∨ s.signatureAt id = .error (.unknownEntry x) →
        (∃ y a, ⟨y, a, x⟩ ∈ s.dangling) ∨
        ∃ e ∈ s.toList, x ∈ e.children ∧ x ∉ s.toList.map Entry.id := by
  refine ⟨fun _ _ _ => mem_dangling_iff, s.nodup_dangling, s.pairwise_dangling, ?_, ?_⟩
  · intro none children id present x
    have known : ¬ s.Lost x := by
      rintro (listed | ⟨he, child, absent⟩)
      · rw [none] at listed
        cases listed
      · exact absent (children _ he x child)
    exact ⟨fun type => known (lost_of_unknownEntry present (.inl type)),
      fun function => known (lost_of_unknownEntry present (.inr function))⟩
  · intro id present x unknown
    obtain listed | ⟨he, child, absent⟩ := lost_of_unknownEntry present unknown
    · exact .inl ⟨_, _, listed⟩
    · exact .inr ⟨_, he, child, absent⟩

/-- A function at `<0x10>` that returns a pointer, at `<0x20>`, to an entry that there is not. -/
def strayPointer : List Entry :=
  [⟨⟨0x10⟩, .subprogram, .ofList [(.name, .string "f"), (.type, .ref ⟨0x20⟩)], []⟩,
   ⟨⟨0x20⟩, .pointerType, .ofList [(.type, .ref ⟨0x99⟩)], []⟩]

/-- The entry that the function fails for is the target of a listed reference. -/
theorem dangling_announces_strayPointer :
    ∃ s, ofList strayPointer = .ok s ∧ s.signatureAt ⟨0x10⟩ = .error (.unknownEntry ⟨0x99⟩) ∧
      ∃ y a, ⟨y, a, ⟨0x99⟩⟩ ∈ s.dangling := by
  have distinct : (strayPointer.map Entry.id).Nodup := by decide
  obtain ⟨s, made, list⟩ := ofList_of_nodup distinct
  have found := get?_of_toList list
  have absent : s.get? ⟨0x99⟩ = none := found _
  have pointer : s.resolve ⟨0x20⟩ = .error (.unknownEntry ⟨0x99⟩) := by
    refine (resolveFrom_of_fresh List.not_mem_nil (found ⟨0x20⟩)).trans ?_
    refine bind_eq_error_iff.2 (.inl (bind_eq_error_iff.2 (.inr ⟨some ⟨0x99⟩, rfl, ?_⟩)))
    exact (resolveFrom_eq s _ _).trans (bind_eq_error_iff.2 (.inl (lookup_of_missing absent)))
  have function : s.signatureAt ⟨0x10⟩ = .error (.unknownEntry ⟨0x99⟩) := by
    have named : s.inherited .name strayPointer[0] = .ok (some (.string "f")) :=
      inherited_eq_ok_iff.2 (inherits_of_noOrigin rfl)
    have type : s.inheritedType strayPointer[0] = .error (.unknownEntry ⟨0x99⟩) := by
      refine bind_eq_error_iff.2 (.inr ⟨_, carrier_of_own (by decide), ?_⟩)
      refine bind_eq_error_iff.2 (.inr ⟨some ⟨0x20⟩, rfl, ?_⟩)
      exact bind_eq_error_iff.2 (.inl pointer)
    refine bind_eq_error_iff.2 (.inr ⟨_, lookup_eq_ok_iff.2 (found _), ?_⟩)
    exact bind_eq_error_iff.2 (.inr ⟨_, named, bind_eq_error_iff.2 (.inl type)⟩)
  have present : ⟨0x10⟩ ∈ s.toList.map Entry.id := by
    rw [list]
    exact List.mem_cons_self
  obtain ⟨-, -, -, -, announced⟩ := dangling_announces s
  refine ⟨s, made, function, ?_⟩
  rcases announced _ present _ (.inr function) with listed | ⟨e, he, child, -⟩
  · exact listed
  · have childless : ∀ e ∈ strayPointer, e.children = [] := by simp [strayPointer]
    rw [childless e (list ▸ he)] at child
    cases child

end Store

end Prototyper
