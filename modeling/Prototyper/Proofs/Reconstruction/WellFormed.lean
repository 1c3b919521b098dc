import Prototyper.Proofs.Reconstruction.Description
import Prototyper.Proofs.Resolution.Denotation

/-!
# Types are well formed

`WellFormed` says of a type, layer by layer, what the spelling of types relies on: arrays have no
qualifiers of their own and no arrays for elements, `restrict` stands only at pointers and at type
names behind which there is a pointer, and a type with a name is announced by an entry. All types
that resolve are well formed, and so are the types in signatures (`types_wellFormed`).

The look-ahead for a pointer sees through type names, at which resolution stops. That the two walks
agree on where `restrict` may stand is `Denotes.takesRestrict`.
-/

namespace Prototyper

/-- The tag of the entries that announce types of this kind. -/
def NamedKind.tag : NamedKind → Tag
  | struct => .structureType
  | union => .unionType
  | enum => .enumerationType
  | typedef => .typedef

lemma Tag.eq_of_aggregate? {tag : Tag} {kind : NamedKind} (h : tag.aggregate? = some kind) :
    tag = kind.tag := by
  cases tag <;> cases h <;> rfl

/-- No pointer counts behind an entry that announces a type of its own. -/
lemma Tag.not_transparent_of_aggregate? {tag : Tag} {kind : NamedKind}
    (h : tag.aggregate? = some kind) : tag ≠ .pointerType ∧ tag.isTransparent = false := by
  cases tag <;> cases h <;> decide

namespace Store

/-- A named type has its entry in the store, with its kind and its name. -/
def Announces (s : Store) (type : NamedType) : Prop :=
  ∃ e, s.get? type.id = some e ∧ e.tag = type.kind.tag ∧ Value.TextOf (e.attr .name) type.name

/-- The outermost layer of a type is one that `restrict` may qualify: a pointer, or a type name
behind which there is one. -/
inductive TakesRestrict (s : Store) : CType → Prop where
  | pointer {qs d} :
    TakesRestrict s (.pointer qs d)
  | typeName {qs id name} :
    s.PointerLike id →
    TakesRestrict s (.leaf qs (.named ⟨.typedef, id, name⟩))

/-- Each layer of a type is one that C can write, and its names are those of entries. -/
inductive WellFormed (s : Store) : CType → Prop where
  | leaf {qs spec} :
    (∀ type, spec = .named type → s.Announces type) →
    (.restrict ∈ qs → s.TakesRestrict (.leaf qs spec)) →
    WellFormed s (.leaf qs spec)
  | pointer {qs d} :
    WellFormed s d →
    WellFormed s (.pointer qs d)
  | array {length d} :
    d.NoArray →
    WellFormed s d →
    WellFormed s (.array [] length d)

variable {s : Store}

/-- One more qualifier does not change whether `restrict` may stand beside it. -/
lemma TakesRestrict.qualify {d : CType} (h : s.TakesRestrict d) (q : Qualifier) :
    s.TakesRestrict (d.qualify q) := by
  cases h with
  | pointer => exact .pointer
  | typeName like => exact .typeName like

/-- An entry is like a pointer if it is one or stands in front of one that is. -/
lemma pointerLike_iff {id : EntryId} {e : Entry} (he : s.get? id = some e) :
    s.PointerLike id ↔ e.tag = .pointerType ∨
      (e.tag.isTransparent = true ∧ ∃ t, e.attr .type = some (.ref t) ∧ s.PointerLike t) := by
  constructor
  · intro like
    cases like with
    | pointer he' tag =>
      rw [he] at he'
      cases he'
      exact .inl tag
    | @behind _ _ t he' transparent type ht =>
      rw [he] at he'
      cases he'
      exact .inr ⟨transparent, t, type, ht⟩
  · rintro (tag | ⟨transparent, t, type, ht⟩)
    · exact .pointer he tag
    · exact .behind he transparent type ht

/-- Where a chain leads to a pointer, there is a type that `restrict` may qualify. -/
lemma Denotes.takesRestrict {id : EntryId} {d : CType} (h : s.Denotes id d)
    (like : s.PointerLike id) : s.TakesRestrict d := by
  induction h with
  | qualifiedVoid he tag _ type =>
    obtain pointer | ⟨-, t, type', -⟩ := (pointerLike_iff he).1 like
    · rw [pointer] at tag
      cases tag
    · rw [type] at type'
      cases type'
  | @qualified id e q t d _ he tag _ type _ front ih =>
    obtain rfl := CType.qualified_iff.1 front
    obtain pointer | ⟨-, t', type', ahead⟩ := (pointerLike_iff he).1 like
    · rw [pointer] at tag
      cases tag
    · rw [type] at type'
      cases type'
      exact (ih ahead).qualify q
  | voidPointer => exact .pointer
  | pointer => exact .pointer
  | array he tag =>
    rw [pointerLike_iff he, tag] at like
    simp [Tag.isTransparent] at like
  | base he tag =>
    rw [pointerLike_iff he, tag] at like
    simp [Tag.isTransparent] at like
  | typedef => exact .typeName like
  | aggregate he tag _ =>
    obtain ⟨noPointer, closed⟩ := Tag.not_transparent_of_aggregate? tag
    rw [pointerLike_iff he] at like
    simp [noPointer, closed] at like

/-- A qualifier keeps a type well formed; it moves through arrays, where `restrict` never goes. -/
lemma WellFormed.qualify {d : CType} {q : Qualifier} (h : s.WellFormed d)
    (restrict : q = .restrict → s.TakesRestrict d) : s.WellFormed (d.qualify q) := by
  induction h with
  | @leaf qs spec announced kept =>
    refine .leaf announced fun mem => ?_
    rcases List.mem_cons.1 mem with rfl | mem
    · exact (restrict rfl).qualify _
    · exact (kept mem).qualify q
  | pointer hd => exact .pointer hd
  | array flat _ ih =>
    refine .array ?_ (ih fun eq => ?_)
    · rw [CType.noArray_iff, CType.isArray_qualify, CType.noArray_iff.1 flat]
    · cases restrict eq

/-- The type `void` is well formed. -/
lemma WellFormed.void : s.WellFormed (.leaf [] .void) :=
  .leaf nofun nofun

/-- The type that an entry denotes is well formed. -/
lemma Denotes.wellFormed {id : EntryId} {d : CType} (h : s.Denotes id d) : s.WellFormed d := by
  induction h with
  | @qualifiedVoid id e q he tag noRestrict =>
    refine .leaf nofun fun mem => ?_
    exact absurd (List.mem_singleton.1 mem).symm noRestrict
  | qualified _ _ restrict _ ht front ih =>
    obtain rfl := CType.qualified_iff.1 front
    exact ih.qualify fun eq => ht.takesRestrict (restrict eq)
  | voidPointer => exact .pointer .void
  | pointer _ _ _ _ ih => exact .pointer ih
  | array _ _ _ _ _ _ flat ih => exact .array flat ih
  | base => exact .leaf nofun nofun
  | typedef he tag name =>
    refine .leaf (fun type eq => ?_) nofun
    cases eq
    exact ⟨_, he, tag, Entry.name?_eq_iff.1 (Entry.name?_eq_some_iff.2 name)⟩
  | aggregate he tag name =>
    refine .leaf (fun type eq => ?_) nofun
    cases eq
    exact ⟨_, he, Tag.eq_of_aggregate? tag, name⟩

/-- No entry denotes `void` without qualifiers. -/
lemma Denotes.ne_void {id : EntryId} {d : CType} (h : s.Denotes id d) : d ≠ .leaf [] .void := by
  cases h with
  | qualified _ _ _ _ _ front => cases front <;> nofun
  | _ => nofun

/-- The formal parameters in a list describe the parameters, in their order. -/
lemma DescribesList.forall₂ {es : List Entry} {ps : List Parameter} {variadic : Bool}
    (h : s.DescribesList es ps variadic) :
    List.Forall₂ s.DescribesParameter (es.filter fun c => c.tag = .formalParameter) ps := by
  induction h with
  | fixed => exact .nil
  | variadic tag =>
    rw [List.filter_cons_of_neg (by simp [tag])]
    exact .nil
  | parameter tag described _ ih =>
    rw [List.filter_cons_of_pos (by simp [tag])]
    exact .cons described ih

/-- The formal parameters among the children of a function describe its parameters, in their
order. -/
lemma Describes.formalParameters {e : Entry} {sig : Signature} (h : s.Describes e sig) :
    ∃ children, List.Forall₂ (fun c child => s.get? c = some child) e.children children ∧
      List.Forall₂ s.DescribesParameter (children.filter fun c => c.tag = .formalParameter)
        sig.parameters := by
  obtain ⟨children, found, list⟩ := h.parameters
  refine ⟨children, found, ?_⟩
  have described := list.forall₂
  rw [List.filter_filter] at described
  have same : children.filter (fun c => decide (c.tag = .formalParameter) && c.tag.isListed) =
      children.filter fun c => c.tag = .formalParameter := by
    refine List.filter_congr fun c _ => ?_
    by_cases tag : c.tag = .formalParameter <;> simp [tag, Tag.isListed]
  rwa [same] at described

/-- Every type that resolves is well formed and is not just `void`, and the same holds of the types
in a signature, except that a function may return `void`. -/
theorem types_wellFormed (s : Store) :
    (∀ id d, s.resolve id = .ok d → s.WellFormed d ∧ d ≠ .leaf [] .void) ∧
    ∀ e sig, s.signature e = .ok sig → s.WellFormed sig.returnType ∧
      ∀ p ∈ sig.parameters, s.WellFormed p.type ∧ p.type ≠ .leaf [] .void := by
  refine ⟨fun id d h => ?_, fun e sig h => ?_⟩
  · have denotes := denotes_of_walk h
    exact ⟨denotes.wellFormed, denotes.ne_void⟩
  have describes := describes_of_signature h
  constructor
  · obtain ⟨-, returns⟩ | ⟨t, -, denotes⟩ := describes.returnType
    · rw [returns]
      exact .void
    · exact denotes.wellFormed
  · intro p hp
    obtain ⟨children, -, described⟩ := describes.formalParameters
    obtain ⟨e', -, parameter⟩ := exists_of_mem_left described.flip hp
    obtain ⟨t, -, denotes⟩ := parameter.type
    exact ⟨denotes.wellFormed, denotes.ne_void⟩

/-- A function `void copy(handle restrict to, const int from[4])`, with `handle` for a pointer. -/
def copyFunction : List Entry :=
  [⟨⟨0x10⟩, .subprogram, .ofList [(.name, .string "copy")], [⟨0x11⟩, ⟨0x12⟩]⟩,
   ⟨⟨0x11⟩, .formalParameter, .ofList [(.name, .string "to"), (.type, .ref ⟨0x20⟩)], []⟩,
   ⟨⟨0x12⟩, .formalParameter, .ofList [(.name, .string "from"), (.type, .ref ⟨0x30⟩)], []⟩,
   ⟨⟨0x20⟩, .restrictType, .ofList [(.type, .ref ⟨0x21⟩)], []⟩,
   ⟨⟨0x21⟩, .typedef, .ofList [(.name, .string "handle"), (.type, .ref ⟨0x22⟩)], []⟩,
   ⟨⟨0x22⟩, .pointerType, .ofList [], []⟩,
   ⟨⟨0x30⟩, .constType, .ofList [(.type, .ref ⟨0x31⟩)], []⟩,
   ⟨⟨0x31⟩, .arrayType, .ofList [(.type, .ref ⟨0x33⟩)], [⟨0x32⟩]⟩,
   ⟨⟨0x32⟩, .subrangeType, .ofList [(.count, .unsigned 4)], []⟩,
   ⟨⟨0x33⟩, .baseType, .ofList [(.name, .string "int")], []⟩]

/-- The type `handle restrict`. -/
def handleRestrict : CType :=
  .leaf [.restrict] (.named ⟨.typedef, ⟨0x21⟩, some "handle"⟩)

/-- The type of an array of four `const int`. -/
def fourConstInts : CType :=
  .array [] (some 4) (.leaf [.const] (.base "int"))

/-- The signature of `copy`. -/
def copySignature : Signature where
  entry := ⟨0x10⟩
  name := "copy"
  returnType := .void
  parameters := [⟨some "to", handleRestrict⟩, ⟨some "from", fourConstInts⟩]
  isInline := false
  isVariadic := false
  isDeclaration := false
  isExternal := false
  inlineState := none
  location := none

/-- The types of `copy` are well formed: `restrict` qualifies a name for a pointer, and `const` the
elements of the array. -/
theorem types_wellFormed_copy :
    ∃ s e, Store.ofList copyFunction = .ok s ∧ s.get? ⟨0x10⟩ = some e ∧
      s.resolve ⟨0x20⟩ = .ok handleRestrict ∧ s.WellFormed handleRestrict ∧
      s.signature e = .ok copySignature ∧ s.WellFormed copySignature.returnType ∧
      ∀ p ∈ copySignature.parameters, s.WellFormed p.type ∧ p.type ≠ .leaf [] .void := by
  have distinct : (copyFunction.map Entry.id).Nodup := by decide
  obtain ⟨s, made, list⟩ := Store.ofList_of_nodup distinct
  have found : ∀ id, s.get? id = copyFunction.find? fun e => e.id == id := fun id => by
    rw [get?_eq_find?, list]
  have pointer : s.PointerLike ⟨0x22⟩ := .pointer (found _) rfl
  have handle : s.PointerLike ⟨0x21⟩ := .behind (found _) rfl rfl pointer
  have name : s.Denotes ⟨0x21⟩ (.leaf [] (.named ⟨.typedef, ⟨0x21⟩, some "handle"⟩)) :=
    .typedef (found _) rfl rfl
  have destination : s.Denotes ⟨0x20⟩ handleRestrict :=
    name.qualify (q := .restrict) (found _) rfl (fun _ => handle) rfl
  have length : ArrayLength [copyFunction[8]] (some 4) := .one (.count (.inl rfl))
  have array : s.Denotes ⟨0x31⟩ (.array [] (some 4) (.leaf [] (.base "int"))) :=
    .array (found _) rfl (.cons (found _) .nil) length rfl (.base (found _) rfl rfl) nofun
  have source : s.Denotes ⟨0x30⟩ fourConstInts :=
    array.qualify (q := .const) (found _) rfl nofun rfl
  have first : s.DescribesParameter copyFunction[1] ⟨some "to", handleRestrict⟩ :=
    .of_noOrigin rfl rfl destination rfl
  have second : s.DescribesParameter copyFunction[2] ⟨some "from", fourConstInts⟩ :=
    .of_noOrigin rfl rfl source rfl
  have both : s.DescribesList [copyFunction[1], copyFunction[2]] copySignature.parameters false :=
    .parameter rfl first (.parameter rfl second .fixed)
  have described : s.Describes copyFunction[0] copySignature :=
    .of_noOrigin rfl rfl rfl rfl (.inl ⟨rfl, rfl⟩)
      ⟨_, .cons (found _) (.cons (found _) .nil), both⟩ rfl rfl rfl rfl rfl
  have function := described.signature
  obtain ⟨resolved, built⟩ := types_wellFormed s
  exact ⟨s, copyFunction[0], made, found _, destination.resolve,
    (resolved _ _ destination.resolve).1, function, (built _ _ function).1, (built _ _ function).2⟩

end Store

end Prototyper
