import Prototyper.Proofs.Decoding.Attributes
import Prototyper.Proofs.Decoding.Units
import Prototyper.Proofs.Reconstruction.WellFormed

/-!
# Where `void` comes from

A function without a type returns `void`, and a qualifier or a pointer without one stands at `void`.
So a reference that cannot be read must never count as missing. Decoding keeps each reference
attribute, whatever its form (`Dwarf.KeepsReferences`), and from there on a value that names no
entry is an error for each function that needs it (`Store.Unreadable`). What is left are types that
are missing in the debugging information itself, as `void_only_of_absence` says.
-/

namespace Prototyper

/-- A type ends in `void` below all its layers. -/
inductive CType.EndsInVoid : CType → Prop where
  | leaf {qs} :
    EndsInVoid (.leaf qs .void)
  | pointer {qs d} :
    EndsInVoid d →
    EndsInVoid (.pointer qs d)
  | array {qs length d} :
    EndsInVoid d →
    EndsInVoid (.array qs length d)

/-- A qualifier does not change what a type ends in. -/
lemma CType.Qualified.endsInVoid {q : Qualifier} {d d' : CType} (h : d.Qualified q d')
    (bottom : d'.EndsInVoid) : d.EndsInVoid := by
  induction h with
  | leaf =>
    cases bottom
    exact .leaf
  | pointer =>
    cases bottom with
    | pointer below => exact .pointer below
  | array _ ih =>
    cases bottom with
    | array below => exact .array (ih below)

namespace Store

variable {s : Store}

/-! ## Origins -/

/-- An entry refers to another one as its origin. -/
def HasOrigin (s : Store) (e o : Entry) : Prop :=
  ∃ id, e.originLink = some (.ref id) ∧ s.get? id = some o

/-- An entry without a type leaves it to its origin. -/
def LeavesType (s : Store) (e o : Entry) : Prop :=
  e.attr .type = none ∧ s.HasOrigin e o

/-- An entry has one origin. -/
lemma HasOrigin.unique {e o o' : Entry} (h : s.HasOrigin e o) (h' : s.HasOrigin e o') : o = o' := by
  obtain ⟨id, origin, found⟩ := h
  obtain ⟨id', origin', found'⟩ := h'
  cases origin.symm.trans origin'
  exact Option.some.inj (found.symm.trans found')

/-- A line without a carrier has all origins of its first entry. -/
lemma Lineage.absent {a : Attr} {line : List Entry} {e o : Entry} (h : s.Lineage a (e :: line) none)
    (reach : Relation.ReflTransGen s.HasOrigin e o) : o.attr a = none := by
  induction reach using Relation.ReflTransGen.head_induction_on generalizing line with
  | refl =>
    cases h with
    | exhausted missing => exact missing
    | leaves missing => exact missing
  | head origin _ ih =>
    cases h with
    | exhausted _ noOrigin =>
      obtain ⟨id, reference, -⟩ := origin
      cases noOrigin.symm.trans reference
    | leaves _ reference found rest =>
      cases origin.unique ⟨_, reference, found⟩
      exact ih rest

/-- A carrier at the end of a line is among the origins. -/
lemma Lineage.reach {a : Attr} {path : List Entry} {e c : Entry} {line : List Entry}
    (h : s.Lineage a path (some c)) (start : path = e :: line) :
    Relation.ReflTransGen s.HasOrigin e c := by
  generalize found : some c = f at h
  induction h generalizing e line with
  | carrier =>
    cases start
    cases found
    exact .refl
  | exhausted => cases found
  | leaves _ origin ho _ ih =>
    cases start
    exact .head ⟨_, origin, ho⟩ (ih rfl found)

/-- The line of an entry goes on from each entry to which the type is left. -/
lemma Lineage.behind {e o : Entry} {line : List Entry} {found : Option Entry}
    (h : s.Lineage .type (e :: line) found) (reach : Relation.ReflTransGen s.LeavesType e o) :
    ∃ line', s.Lineage .type (o :: line') found := by
  induction reach using Relation.ReflTransGen.head_induction_on generalizing line with
  | refl => exact ⟨line, h⟩
  | head left _ ih =>
    obtain ⟨missing, origin⟩ := left
    cases h with
    | carrier own => exact absurd missing own
    | exhausted _ noOrigin =>
      obtain ⟨id, reference, -⟩ := origin
      cases noOrigin.symm.trans reference
    | leaves _ reference ho rest =>
      cases origin.unique ⟨_, reference, ho⟩
      exact ih rest

/-- An entry inherits no value exactly if none of its origins has one. -/
lemma Inherits.eq_none_iff {e : Entry} {a : Attr} {v : Option Value} (h : s.Inherits e a v) :
    v = none ↔ ∀ o, Relation.ReflTransGen s.HasOrigin e o → o.attr a = none := by
  obtain ⟨found, ⟨line, lineage, -⟩, rfl⟩ := h
  cases found with
  | none => exact ⟨fun _ o reach => lineage.absent reach, fun _ => rfl⟩
  | some c =>
    constructor
    · exact fun missing => absurd missing lineage.carries
    · exact fun absent => absent c (lineage.reach rfl)

/-! ## Types -/

/-- The `void` in the type of an entry is that of a qualifier or a pointer without a type. -/
def EndsUntyped (s : Store) (e : Entry) : Prop :=
  ∃ t id x, s.Inherits e .type (some (.ref t)) ∧
    Relation.ReflTransGen (s.TypeLink Tag.isWrapper) t id ∧ s.get? id = some x ∧
    x.tag ∈ [.constType, .volatileType, .pointerType] ∧ x.attr .type = none

/-- The type of an entry cannot be read: on the way to it there is a value that is no reference to
an entry, be it for an origin, for the type of the entry, or for that of a qualifier, a pointer or
an array. -/
inductive Unreadable (s : Store) (e : Entry) : Prop where
  | origin {x v} :
    Relation.ReflTransGen s.LeavesType e x →
    x.attr .type = none →
    x.originLink = some v → (∀ t, v ≠ .ref t) →
    Unreadable s e
  | carrier {x v} :
    Relation.ReflTransGen s.LeavesType e x →
    x.attr .type = some v → (∀ t, v ≠ .ref t) →
    Unreadable s e
  | wrapper {x t id y v} :
    Relation.ReflTransGen s.LeavesType e x →
    x.attr .type = some (.ref t) →
    Relation.ReflTransGen (s.TypeLink Tag.isWrapper) t id →
    s.get? id = some y → y.tag.isWrapper = true →
    y.attr .type = some v → (∀ t, v ≠ .ref t) →
    Unreadable s e

/-- A type that ends in `void` does so at a qualifier or a pointer without a type. -/
lemma Denotes.exists_untyped {id : EntryId} {d : CType} (h : s.Denotes id d)
    (bottom : d.EndsInVoid) :
    ∃ id' x, Relation.ReflTransGen (s.TypeLink Tag.isWrapper) id id' ∧ s.get? id' = some x ∧
      x.tag ∈ [.constType, .volatileType, .pointerType] ∧ x.attr .type = none := by
  induction h with
  | @qualifiedVoid id e q he tag noRestrict type =>
    refine ⟨id, e, .refl, he, ?_, type⟩
    revert tag
    cases e.tag <;> rintro ⟨⟩ <;> first | decide | exact absurd rfl noRestrict
  | qualified he tag _ type _ front ih =>
    obtain ⟨id', x, reach, rest⟩ := ih (front.endsInVoid bottom)
    exact ⟨id', x, .head ⟨_, he, Tag.isWrapper_of_qualifier? tag, type⟩ reach, rest⟩
  | voidPointer he tag type => exact ⟨_, _, .refl, he, by simp [tag], type⟩
  | pointer he tag type _ ih =>
    cases bottom with | pointer below
    obtain ⟨id', x, reach, rest⟩ := ih below
    exact ⟨id', x, .head ⟨_, he, by rw [tag]; rfl, type⟩ reach, rest⟩
  | array he tag _ _ type _ _ ih =>
    cases bottom with | array below
    obtain ⟨id', x, reach, rest⟩ := ih below
    exact ⟨id', x, .head ⟨_, he, by rw [tag]; rfl, type⟩ reach, rest⟩
  | base => cases bottom
  | typedef => cases bottom
  | aggregate => cases bottom

/-- The type of a qualifier, a pointer or an array is missing, or it denotes a type as well. -/
lemma Denotes.type {id : EntryId} {e : Entry} {d : CType} (h : s.Denotes id d)
    (he : s.get? id = some e) (wrapper : e.tag.isWrapper = true) :
    e.attr .type = none ∨ ∃ t d', e.attr .type = some (.ref t) ∧ s.Denotes t d' := by
  cases h with
  | qualifiedVoid he' _ _ type =>
    cases he.symm.trans he'
    exact .inl type
  | qualified he' _ _ type ht =>
    cases he.symm.trans he'
    exact .inr ⟨_, _, type, ht⟩
  | voidPointer he' _ type =>
    cases he.symm.trans he'
    exact .inl type
  | pointer he' _ type ht =>
    cases he.symm.trans he'
    exact .inr ⟨_, _, type, ht⟩
  | array he' _ _ _ type ht =>
    cases he.symm.trans he'
    exact .inr ⟨_, _, type, ht⟩
  | base he' tag =>
    cases he.symm.trans he'
    rw [tag] at wrapper
    cases wrapper
  | typedef he' tag =>
    cases he.symm.trans he'
    rw [tag] at wrapper
    cases wrapper
  | aggregate he' tag =>
    cases he.symm.trans he'
    rw [Tag.isWrapper_of_aggregate? tag] at wrapper
    cases wrapper

/-- A walk from an entry that denotes a type meets only entries that do. -/
lemma Denotes.reach {t id : EntryId} {d : CType} (h : s.Denotes t d)
    (reach : Relation.ReflTransGen (s.TypeLink Tag.isWrapper) t id) : ∃ d', s.Denotes id d' := by
  induction reach with
  | refl => exact ⟨d, h⟩
  | tail _ link ih =>
    obtain ⟨d', denotes⟩ := ih
    obtain ⟨e, he, wrapper, reference⟩ := link
    obtain missing | ⟨t, d'', reference', ht⟩ := denotes.type he wrapper
    · cases missing.symm.trans reference
    · cases reference.symm.trans reference'
      exact ⟨d'', ht⟩

/-- The type of an entry can be read where it is missing or denotes one. -/
lemma not_unreadable {e : Entry} (typed : s.Inherits e .type none ∨
    ∃ t d, s.Inherits e .type (some (.ref t)) ∧ s.Denotes t d) : ¬ s.Unreadable e := by
  obtain ⟨line, found, lineage, carrier⟩ : ∃ line found, s.Lineage .type (e :: line) found ∧
      ∀ c, found = some c → ∃ t d, c.attr .type = some (.ref t) ∧ s.Denotes t d := by
    obtain missing | ⟨t, d, reference, denotes⟩ := typed
    · obtain ⟨line, lineage, -⟩ := inherits_none_iff.1 missing
      exact ⟨line, none, lineage, nofun⟩
    · obtain ⟨c, ⟨line, lineage, -⟩, type⟩ := inherits_some_iff.1 reference
      refine ⟨line, some c, lineage, ?_⟩
      rintro _ ⟨⟩
      exact ⟨t, d, type, denotes⟩
  intro unreadable
  cases unreadable with
  | origin left missing value noTarget =>
    obtain ⟨line', lineage'⟩ := lineage.behind left
    cases lineage' with
    | carrier own => exact own missing
    | exhausted _ noOrigin => cases noOrigin.symm.trans value
    | leaves _ reference =>
      cases reference.symm.trans value
      exact noTarget _ rfl
  | carrier left value noTarget =>
    obtain ⟨line', lineage'⟩ := lineage.behind left
    obtain ⟨t, d, type, -⟩ := carrier _ (lineage'.eq_of_carries value)
    cases type.symm.trans value
    exact noTarget t rfl
  | wrapper left value reach he wrapper inner noTarget =>
    obtain ⟨line', lineage'⟩ := lineage.behind left
    obtain ⟨t, d, type, denotes⟩ := carrier _ (lineage'.eq_of_carries value)
    cases type.symm.trans value
    obtain ⟨d', below⟩ := denotes.reach reach
    obtain missing | ⟨t', -, reference, -⟩ := below.type he wrapper
    · cases missing.symm.trans inner
    · cases reference.symm.trans inner
      exact noTarget t' rfl

/-- The `void` at the bottom of a type that is denoted is that of a qualifier or a pointer. -/
lemma Denotes.endsUntyped {e : Entry} {t : EntryId} {d : CType} (h : s.Denotes t d)
    (reference : s.Inherits e .type (some (.ref t))) (bottom : d.EndsInVoid) :
    s.EndsUntyped e := by
  obtain ⟨id, x, rest⟩ := h.exists_untyped bottom
  exact ⟨t, id, x, reference, rest⟩

/-! ## Functions -/

/-- A function returns `void` exactly if none of its origins has a type. -/
lemma Describes.returnType_eq_void_iff {e : Entry} {sig : Signature} (h : s.Describes e sig) :
    sig.returnType = .leaf [] .void ↔
      ∀ o, Relation.ReflTransGen s.HasOrigin e o → o.attr .type = none := by
  obtain ⟨missing, void⟩ | ⟨t, reference, denotes⟩ := h.returnType
  · exact ⟨fun _ => missing.eq_none_iff.1 rfl, fun _ => void⟩
  · constructor
    · intro void
      exact absurd void denotes.ne_void
    · intro absent
      cases reference.eq_none_iff.2 absent

/-- Where the type of a function or of one of its formal parameters cannot be read, the function
has no signature. -/
lemma signature_of_unreadable {e : Entry}
    (h : s.Unreadable e ∨ ∃ c ∈ e.children, ∃ p, s.get? c = some p ∧
      p.tag = .formalParameter ∧ s.Unreadable p) : ∃ d, s.signature e = .error d := by
  cases built : s.signature e with
  | error d => exact ⟨d, rfl⟩
  | ok sig =>
    have describes := describes_of_signature built
    exfalso
    obtain unreadable | ⟨c, hc, p, hp, tag, unreadable⟩ := h
    · refine not_unreadable ?_ unreadable
      exact describes.returnType.imp And.left fun ⟨t, rest⟩ => ⟨t, _, rest⟩
    · obtain ⟨children, found, described⟩ := describes.formalParameters
      obtain ⟨child, hchild, found'⟩ := exists_of_mem_left found hc
      cases hp.symm.trans found'
      have listed : p ∈ children.filter fun c => c.tag = .formalParameter :=
        List.mem_filter.2 ⟨hchild, decide_eq_true tag⟩
      obtain ⟨_, -, parameter⟩ := exists_of_mem_left described listed
      obtain ⟨t, rest⟩ := parameter.type
      exact not_unreadable (.inr ⟨t, _, rest⟩) unreadable

end Store

/-- Nothing but absence reads as `void`. Decoding keeps all references with which an entry is
encoded. A function returns `void` exactly if none of its origins has a type, and each other `void`
in its types stands at a qualifier or a pointer without a type. And wherever a value on the way to a
type cannot be read as a reference to an entry, the function has no signature. -/
theorem void_only_of_absence :
    (∀ sections units, Dwarf.decode sections = .ok units →
      ∃ headers, Dwarf.HoldsHeaders sections.endian (.ofBytes sections.info) headers ∧
        List.Forall₂ (fun header u => ∃ root, Dwarf.HoldsUnit sections header root ∧
          u.store.toList = root.preorder.map (root.context sections header).entryOf ∧
          Dwarf.KeepsReferences (root.context sections header) root) headers units) ∧
    ∀ (s : Store) (e : Entry),
      (∀ sig, s.signature e = .ok sig →
        (sig.returnType = .leaf [] .void ↔
          ∀ o, Relation.ReflTransGen s.HasOrigin e o → o.attr .type = none) ∧
        (sig.returnType.EndsInVoid → sig.returnType = .leaf [] .void ∨ s.EndsUntyped e) ∧
        ∃ children, List.Forall₂ (fun c child => s.get? c = some child) e.children children ∧
          List.Forall₂ (fun child p => p.type.EndsInVoid → s.EndsUntyped child)
            (children.filter fun c => c.tag = .formalParameter) sig.parameters) ∧
      (s.Unreadable e ∨ (∃ c ∈ e.children, ∃ p, s.get? c = some p ∧
          p.tag = .formalParameter ∧ s.Unreadable p) →
        ∃ d, s.signature e = .error d) := by
  constructor
  · intro sections units h
    obtain ⟨headers, holds, decoded⟩ := Dwarf.holdsHeaders_of_decode h
    refine ⟨headers, holds, decoded.imp ?_⟩
    rintro header u ⟨root, held, list⟩
    exact ⟨root, held, list, Dwarf.keepsReferences _ root⟩
  · intro s e
    refine ⟨fun sig built => ?_, Store.signature_of_unreadable⟩
    have describes := Store.describes_of_signature built
    obtain ⟨children, found, described⟩ := describes.formalParameters
    refine ⟨describes.returnType_eq_void_iff, fun bottom => ?_, children, found, ?_⟩
    · exact describes.returnType.imp And.right fun ⟨_, reference, denotes⟩ =>
        denotes.endsUntyped reference bottom
    · refine described.imp fun child p parameter bottom => ?_
      obtain ⟨_, reference, denotes⟩ := parameter.type
      exact denotes.endsUntyped reference bottom

/-- A function `void* alloc(const void* from)`, and one whose type is a signature. -/
def allocFunctions : List Entry :=
  [⟨⟨0x10⟩, .subprogram, .ofList [(.name, .string "alloc"), (.type, .ref ⟨0x20⟩)], [⟨0x11⟩]⟩,
   ⟨⟨0x11⟩, .formalParameter, .ofList [(.name, .string "from"), (.type, .ref ⟨0x21⟩)], []⟩,
   ⟨⟨0x18⟩, .subprogram, .ofList [(.name, .string "free"),
    (.type, .unresolvedRef "type signature 0x00000000deadbeef")], []⟩,
   ⟨⟨0x20⟩, .pointerType, .ofList [], []⟩,
   ⟨⟨0x21⟩, .pointerType, .ofList [(.type, .ref ⟨0x22⟩)], []⟩,
   ⟨⟨0x22⟩, .constType, .ofList [], []⟩]

/-- The signature of `alloc`. -/
def allocSignature : Signature where
  entry := ⟨0x10⟩
  name := "alloc"
  returnType := .pointer [] .void
  parameters := [⟨some "from", .pointer [] (.leaf [.const] .void)⟩]
  isInline := false
  isVariadic := false
  isDeclaration := false
  isExternal := false
  inlineState := none
  location := none

/-- The pointer of a decoded unit has the type with which it is encoded. The function `alloc` has
a type and returns a pointer to the `void` that no type stands for, and the function whose type
cannot be read has no signature. -/
theorem void_only_of_absence_alloc :
    (∃ u e, Dwarf.decode Dwarf.pointerSections = .ok [u] ∧ u.store.get? ⟨0x0c⟩ = some e ∧
      e.attr .type = some (.ref ⟨0x0c⟩)) ∧
    ∃ s e e', Store.ofList allocFunctions = .ok s ∧ s.get? ⟨0x10⟩ = some e ∧
      s.get? ⟨0x18⟩ = some e' ∧ s.signature e = .ok allocSignature ∧ s.EndsUntyped e ∧
      (∃ o, Relation.ReflTransGen s.HasOrigin e o ∧ o.attr .type ≠ none) ∧
      s.Unreadable e' ∧ ∃ d, s.signature e' = .error d := by
  obtain ⟨kept, built⟩ := void_only_of_absence
  constructor
  · obtain ⟨u, decoded⟩ := Dwarf.pointerSections.exists_decode
    obtain ⟨headers, holds, units⟩ := kept _ _ decoded
    cases holds.unique Dwarf.pointerSections.holdsHeaders
    obtain ⟨root, held, list, keeps⟩ := (List.forall₂_cons.1 units).1
    cases held.unique Dwarf.pointerSections.holdsUnit_root
    have mem : Dwarf.pointerSections.pointer ∈ Dwarf.pointerSections.root.preorder :=
      .tail _ (.head _)
    obtain ⟨v, value, -⟩ := keeps _ mem _ (.head _) .type (by decide)
    have self : v = .ref ⟨0x0c⟩ := Option.some.inj (value.symm.trans rfl)
    refine ⟨u, _, decoded, Store.get?_eq_some_iff.2 ⟨?_, rfl⟩, self ▸ value⟩
    exact list ▸ List.mem_map_of_mem mem
  have distinct : (allocFunctions.map Entry.id).Nodup := by decide
  obtain ⟨s, made, list⟩ := Store.ofList_of_nodup distinct
  have found : ∀ id, s.get? id = allocFunctions.find? fun e => e.id == id := fun id => by
    rw [Store.get?_eq_find?, list]
  have anything : s.Denotes ⟨0x20⟩ (.pointer [] (.leaf [] .void)) :=
    .voidPointer (found _) rfl rfl
  have constant : s.Denotes ⟨0x22⟩ (.leaf [.const] .void) :=
    .qualifiedVoid (found _) rfl nofun rfl
  have source : s.Denotes ⟨0x21⟩ (.pointer [] (.leaf [.const] .void)) :=
    .pointer (found _) rfl rfl constant
  have parameter : s.DescribesParameter allocFunctions[1]
      ⟨some "from", .pointer [] (.leaf [.const] .void)⟩ :=
    .of_noOrigin rfl rfl source rfl
  have described : s.Describes allocFunctions[0] allocSignature :=
    .of_noOrigin rfl rfl rfl rfl (.inr ⟨_, rfl, anything⟩)
      ⟨_, .cons (found _) .nil, .parameter rfl parameter .fixed⟩ rfl rfl rfl rfl rfl
  have function := described.signature
  have unreadable : s.Unreadable allocFunctions[2] := .carrier .refl rfl nofun
  obtain ⟨absent, ends, -⟩ := (built s allocFunctions[0]).1 allocSignature function
  refine ⟨s, allocFunctions[0], allocFunctions[2], made, found _, found _, function, ?_, ?_,
    unreadable, ?_⟩
  · exact (ends (.pointer .leaf)).resolve_left nofun
  · by_contra untyped
    push Not at untyped
    exact absurd (absent.2 untyped) nofun
  · exact (built s allocFunctions[2]).2 (.inl unreadable)

end Prototyper
