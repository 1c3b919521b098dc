import Prototyper.Proofs.Decoding.Layout
import Prototyper.Proofs.Entry.Values

/-!
# Attributes that are decoded

An entry has an attribute by the first value that it is encoded with for it (`Die.HasFirst`). Three
attributes are references, whose codes are `referenceCodes`. Values of theirs are kept in any form,
as `KeepsReferences` says, and a value of another attribute never becomes a reference.

How bytes hold a tree rests on the DWARF assumption (see `Dwarf.Encoding`).
-/

namespace Prototyper.Dwarf

/-- The attributes that are references, with their codes in the debugging format. -/
def referenceCodes : List (UInt16 × Attr) :=
  [(0x49, .type), (0x31, .abstractOrigin), (0x47, .specification)]

/-- The first value with which an entry is encoded for the attribute with a code. -/
def Die.HasFirst (d : Die) (code : UInt16) (v : FormValue) : Prop :=
  ∃ before after, d.attributes = before ++ ⟨code, v⟩ :: after ∧ ∀ r ∈ before, r.name ≠ code

/-- The entries of a unit have a reference wherever they are encoded with one, in any form. -/
def KeepsReferences (u : UnitContext) (root : Die) : Prop :=
  ∀ d ∈ root.preorder, ∀ raw ∈ d.attributes, ∀ a, (raw.name, a) ∈ referenceCodes →
    ∃ v, (u.entryOf d).attr a = some v ∧ v.IsReference

/-! ## Values of attributes -/

variable {u : UnitContext}

/-- A value that is computed for listed attributes is found under its attribute. -/
lemma lookup_filterMap (f : Attr → Option Value) (as : List Attr) (a : Attr) :
    (as.filterMap fun b => (f b).map (b, ·)).lookup a = if a ∈ as then f a else none := by
  induction as with
  | nil => rfl
  | cons b as ih =>
    by_cases same : a = b
    · subst same
      cases value : f a with
      | none => simp [value, ih]
      | some v => simp [value]
    · cases value : f b with
      | none => simp [value, ih, same]
      | some v => simp [value, ih, same, List.lookup_cons, beq_eq_false_iff_ne.2 same]

/-- The attribute of an entry is the first value that it is encoded with. -/
lemma attr_entryOf (d : Die) (a : Attr) :
    (u.entryOf d).attr a = (firstValue? d.attributes a).bind (u.value? a) := by
  obtain ⟨offset, tag, raw, children⟩ := d
  exact (lookup_filterMap (fun a => (firstValue? raw a).bind (u.value? a)) Attr.all a).trans
    (if_pos (Attr.mem_all a))

/-- The value that is looked up for an attribute is the first one with its code. -/
lemma firstValue?_eq_some_iff {d : Die} {a : Attr} {v : FormValue} :
    firstValue? d.attributes a = some v ↔ d.HasFirst a.code v := by
  unfold firstValue? Die.HasFirst
  rw [Option.map_eq_some_iff]
  simp only [List.find?_eq_some_iff_append, beq_iff_eq, Bool.not_eq_true', beq_eq_false_iff_ne]
  constructor
  · rintro ⟨⟨_, _⟩, ⟨rfl, before, after, split, others⟩, rfl⟩
    exact ⟨before, after, split, others⟩
  · rintro ⟨before, after, split, others⟩
    exact ⟨_, ⟨rfl, before, after, split, others⟩, rfl⟩

/-- Each attribute that an entry is encoded with has a first value. -/
lemma exists_hasFirst {d : Die} {raw : RawAttribute} (mem : raw ∈ d.attributes) :
    ∃ v, d.HasFirst raw.name v := by
  obtain ⟨first, found⟩ : ∃ first,
      d.attributes.find? (fun r => r.name == raw.name) = some first := by
    rw [← Option.isSome_iff_exists, List.find?_isSome]
    exact ⟨raw, mem, beq_self_eq_true raw.name⟩
  obtain ⟨same, before, after, split, others⟩ := List.find?_eq_some_iff_append.1 found
  refine ⟨first.value, before, after, ?_, fun r hr => by simpa using others r hr⟩
  rw [split, ← eq_of_beq same]

/-! ## References -/

/-- The codes of references are those by which the decoder knows them. -/
lemma code_of_mem_referenceCodes {code : UInt16} {a : Attr} (h : (code, a) ∈ referenceCodes) :
    a.code = code := by
  simp only [referenceCodes, List.mem_cons, Prod.mk.injEq, List.not_mem_nil, or_false] at h
  rcases h with ⟨rfl, rfl⟩ | ⟨rfl, rfl⟩ | ⟨rfl, rfl⟩ <;> rfl

/-- An attribute with the code of a reference is decoded as one. -/
lemma value?_of_mem_referenceCodes {code : UInt16} {a : Attr} (h : (code, a) ∈ referenceCodes)
    (v : FormValue) : u.value? a v = some (u.reference v) := by
  simp only [referenceCodes, List.mem_cons, Prod.mk.injEq, List.not_mem_nil, or_false] at h
  rcases h with ⟨-, rfl⟩ | ⟨-, rfl⟩ | ⟨-, rfl⟩ <;> rfl

/-- Each form is a reference, be it one that leads nowhere. -/
lemma isReference_reference (v : FormValue) : (u.reference v).IsReference :=
  Value.isReference_eq_true_iff.1 (by cases v <;> rfl)

/-- The reference attribute of an entry is the reference that its first value is. -/
lemma attr_of_hasFirst {d : Die} {code : UInt16} {a : Attr} {v : FormValue}
    (reference : (code, a) ∈ referenceCodes) (first : d.HasFirst code v) :
    (u.entryOf d).attr a = some (u.reference v) := by
  rw [← code_of_mem_referenceCodes reference] at first
  rw [attr_entryOf, firstValue?_eq_some_iff.2 first]
  exact value?_of_mem_referenceCodes reference v

/-- The decoder keeps all references of a unit. -/
lemma keepsReferences (u : UnitContext) (root : Die) : KeepsReferences u root := by
  intro d _ raw mem a reference
  obtain ⟨v, first⟩ := exists_hasFirst mem
  exact ⟨u.reference v, attr_of_hasFirst reference first, isReference_reference v⟩

/-- The value of an attribute that is no reference is none either. -/
lemma value?_ne_ref {a : Attr} (other : ∀ code, (code, a) ∉ referenceCodes) (v : FormValue)
    (t : EntryId) : u.value? a v ≠ some (.ref t) := by
  have flag : v.flag? ≠ some (.ref t) := by
    cases v <;> simp [FormValue.flag?]
  have integer : v.integer? ≠ some (.ref t) := by
    cases v <;> simp [FormValue.integer?]
  have below (bound : Nat) : v.integerBelow? bound ≠ some (.ref t) := by
    unfold FormValue.integerBelow?
    split
    · split
      · simp
      · exact integer
    · exact integer
  cases a with
  | name => simp [UnitContext.value?]
  | type => exact absurd (by decide) (other 0x49)
  | abstractOrigin => exact absurd (by decide) (other 0x31)
  | specification => exact absurd (by decide) (other 0x47)
  | declaration | external | prototyped => exact flag
  | inline | encoding | declFile | declLine | byteSize => exact below _
  | upperBound | count => exact integer

/-- A reference within the unit counts from its start, one within the section from there. -/
lemma reference_eq_ref_iff {v : FormValue} {t : EntryId} :
    u.reference v = .ref t ↔
      (∃ distance, v = .unitReference distance ∧ t = ⟨UInt64.ofNat (u.offset + distance)⟩) ∨
      ∃ offset, v = .sectionReference offset ∧ t = ⟨UInt64.ofNat offset⟩ := by
  cases v <;> simp [UnitContext.reference, eq_comm]

end Prototyper.Dwarf
