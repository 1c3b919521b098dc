import Prototyper.Proofs.Declaration.Token
import Prototyper.Proofs.Resolution.Denotation

/-!
# Chains of pointers

Pointers with qualifiers lead down to a named type. `PointerChain` says how the entries of such a
type stand to each other, and `pointerText` how it is written. Resolution meets the levels from the
outside in, and the declarator is built around the name in the same order, so that in the text the
innermost level comes first (`declare_pointers`). `declaration_of_pointerChain` puts the two
together: what the entries say is what is written, whatever the number of levels and qualifiers.
-/

namespace Prototyper

/-- The text of a pointer with its qualifiers, such as `* const`. -/
def pointerLevelText (level : List Qualifier) : String :=
  "*" ++ String.join (level.map fun q => " " ++ q.word)

/-- The text of a declaration with levels of pointers, the outermost first, to a type that has
qualifiers and a spelling. -/
def pointerText (levels : List (List Qualifier)) (qs : List Qualifier) (spelling name : String) :
    String :=
  String.join (qs.map fun q => q.word ++ " ") ++ spelling ++
    String.join (levels.reverse.map pointerLevelText) ++ " " ++ name

namespace Store

/-- Entries of qualifiers lead from one entry to another one, the outermost qualifier first. -/
inductive Qualifies (s : Store) : List Qualifier → EntryId → EntryId → Prop where
  | none {id} :
    Qualifies s [] id id
  | before {q qs id e t target} :
    s.get? id = some e →
    e.tag.qualifier? = some q →
    e.attr .type = some (.ref t) →
    Qualifies s qs t target →
    Qualifies s (q :: qs) id target

/-- The entry of a type with a name, and how the type is spelled. -/
inductive Spells (s : Store) (id : EntryId) : String → Prop where
  | plain {e name} :
    s.get? id = some e →
    e.tag = .baseType ∨ e.tag = .typedef →
    e.attr .name = some (.string name) →
    Spells s id name
  | tagged {e keyword name} :
    s.get? id = some e →
    (e.tag, keyword) ∈
      [(.structureType, "struct"), (.unionType, "union"), (.enumerationType, "enum")] →
    e.attr .name = some (.string name) →
    Spells s id (keyword ++ " " ++ name)

/-- Entries lead from one entry through levels of qualified pointers, the outermost level first, to
a type with a spelling, which may be `const` and `volatile`. -/
inductive PointerChain (s : Store) (qs : List Qualifier) (spelling : String) :
    List (List Qualifier) → EntryId → Prop where
  | bottom {id terminal} :
    s.Qualifies qs id terminal → .restrict ∉ qs →
    s.Spells terminal spelling →
    PointerChain s qs spelling [] id
  | level {level levels id pointer e t} :
    s.Qualifies level id pointer →
    s.get? pointer = some e → e.tag = .pointerType →
    e.attr .type = some (.ref t) →
    PointerChain s qs spelling levels t →
    PointerChain s qs spelling (level :: levels) id

end Store

/-! ## The type -/

/-- Qualifiers in front of a specifier belong to it. -/
lemma foldr_qualify_leaf (qs : List Qualifier) (spec : Specifier) :
    qs.foldr CType.qualify (.leaf [] spec) = .leaf qs spec := by
  induction qs with
  | nil => rfl
  | cons q qs ih => rw [List.foldr_cons, ih]; rfl

/-- Qualifiers in front of a pointer belong to it. -/
lemma foldr_qualify_pointer (qs : List Qualifier) (d : CType) :
    qs.foldr CType.qualify (.pointer [] d) = .pointer qs d := by
  induction qs with
  | nil => rfl
  | cons q qs ih => rw [List.foldr_cons, ih]; rfl

/-- Levels of pointers, the outermost first, to a specifier with qualifiers. -/
def CType.pointers (levels : List (List Qualifier)) (qs : List Qualifier) (spec : Specifier) :
    CType :=
  levels.foldr CType.pointer (.leaf qs spec)

/-- Each level of pointers is a layer. -/
lemma depth_pointers (levels : List (List Qualifier)) (qs : List Qualifier) (spec : Specifier) :
    (CType.pointers levels qs spec).depth = levels.length := by
  induction levels with
  | nil => rfl
  | cons level levels ih => exact congrArg (· + 1) ih

/-- Levels of pointers are no array. -/
lemma isArray_pointers (levels : List (List Qualifier)) (qs : List Qualifier) (spec : Specifier) :
    (CType.pointers levels qs spec).isArray = false := by
  cases levels <;> rfl

namespace Store

variable {s : Store}

/-- A pointer behind qualifiers is a pointer, so `restrict` may stand anywhere among them. -/
lemma Qualifies.pointerLike {qs : List Qualifier} {id t : EntryId} (h : s.Qualifies qs id t)
    (like : s.PointerLike t) : s.PointerLike id := by
  induction h with
  | none => exact like
  | before he tag type _ ih =>
    exact .behind he (Tag.isTransparent_of_qualifier? tag) type (ih like)

/-- Behind qualifiers an entry denotes what their target denotes, qualified. -/
lemma Qualifies.denotes {qs : List Qualifier} {id t : EntryId} {d : CType}
    (h : s.Qualifies qs id t) (ht : s.Denotes t d) (restrict : .restrict ∈ qs → s.PointerLike t) :
    s.Denotes id (qs.foldr CType.qualify d) := by
  induction h with
  | none => exact ht
  | before he tag type rest ih =>
    have below := ih ht fun below => restrict (List.mem_cons_of_mem _ below)
    refine below.qualify he tag (fun here => ?_) type
    exact rest.pointerLike (restrict (here ▸ List.mem_cons_self))

/-- A type with a name denotes a specifier that is spelled with it. -/
lemma Spells.denotes {id : EntryId} {spelling : String} (h : s.Spells id spelling) :
    ∃ spec, spec.spelling = spelling ∧ s.Denotes id (.leaf [] spec) := by
  cases h with
  | plain he tag named =>
    rcases tag with tag | tag
    · exact ⟨.base spelling, rfl, .base he tag named⟩
    · exact ⟨.named ⟨.typedef, id, some spelling⟩, rfl, .typedef he tag named⟩
  | tagged he tag named =>
    have text := Entry.name?_eq_iff.1 (Entry.name?_eq_some_iff.2 named)
    have denotes (kind : NamedKind) (announced : Tag.aggregate? _ = some kind) :=
      Denotes.aggregate he announced text
    simp only [List.mem_cons, Prod.mk.injEq, List.not_mem_nil, or_false] at tag
    rcases tag with ⟨tag, rfl⟩ | ⟨tag, rfl⟩ | ⟨tag, rfl⟩
    · exact ⟨_, rfl, denotes .struct (by rw [tag]; rfl)⟩
    · exact ⟨_, rfl, denotes .union (by rw [tag]; rfl)⟩
    · exact ⟨_, rfl, denotes .enum (by rw [tag]; rfl)⟩

/-- A chain of pointers denotes its levels, in their order. -/
lemma PointerChain.denotes {qs : List Qualifier} {spelling : String}
    {levels : List (List Qualifier)} {id : EntryId} (h : s.PointerChain qs spelling levels id) :
    ∃ spec, spec.spelling = spelling ∧ s.Denotes id (.pointers levels qs spec) := by
  induction h with
  | bottom qualifies noRestrict spells =>
    obtain ⟨spec, spelled, denotes⟩ := spells.denotes
    refine ⟨spec, spelled, ?_⟩
    have qualified := qualifies.denotes denotes fun restrict => absurd restrict noRestrict
    rwa [foldr_qualify_leaf] at qualified
  | level qualifies he tag type _ ih =>
    obtain ⟨spec, spelled, denotes⟩ := ih
    refine ⟨spec, spelled, ?_⟩
    have qualified := qualifies.denotes (.pointer he tag type denotes) fun _ => .pointer he tag
    rwa [foldr_qualify_pointer] at qualified

end Store

/-! ## The text -/

open Declarator

/-- A space stands between a pointer and anything but a star. -/
lemma joinPointer_cons {star inner : List Char} {c : Char} (h : c ≠ '*') :
    joinPointer star (c :: inner) = star ++ ' ' :: c :: inner := by
  unfold joinPointer
  split
  case h_1 empty => cases empty
  case h_2 pointer => cases pointer; exact absurd rfl h
  case h_3 => rfl

/-- A space stands between a specifier and anything but a star or a bracket. -/
lemma attach_cons {specifier inner : List Char} {c : Char} (h : c ≠ '*' ∧ c ≠ '[') :
    attach specifier (c :: inner) = specifier ++ ' ' :: c :: inner := by
  unfold attach
  split
  case h_1 empty => cases empty
  case h_2 pointer => cases pointer; exact absurd rfl h.1
  case h_3 array => cases array; exact absurd rfl h.2
  case h_4 => rfl

/-- The text of levels of pointers, the innermost first. -/
def levelsText (levels : List (List Qualifier)) : List Char :=
  levels.reverse.flatMap fun level => '*' :: qualifiersAfter level

/-- The outermost level of pointers stands last. -/
lemma levelsText_cons (level : List Qualifier) (levels : List (List Qualifier)) :
    levelsText (level :: levels) = levelsText levels ++ '*' :: qualifiersAfter level := by
  simp [levelsText]

/-- A level of pointers stands in front of what is declared. -/
lemma declare_pointers_cons (level : List Qualifier) (levels : List (List Qualifier))
    (qs : List Qualifier) (spec : Specifier) (inner : List Char) :
    (CType.pointers (level :: levels) qs spec).declare inner = (CType.pointers levels qs spec).declare
      (joinPointer ('*' :: qualifiersAfter level) inner) := by
  change CType.declare (.pointer level (.pointers levels qs spec)) inner = _
  rw [CType.declare, isArray_pointers, if_neg Bool.false_ne_true]

/-- Behind a star nothing is put between the levels of pointers and what they declare. -/
lemma declare_pointers_star (levels : List (List Qualifier)) (qs : List Qualifier)
    (spec : Specifier) (inner : List Char) :
    (CType.pointers levels qs spec).declare ('*' :: inner) =
      qualifiersBefore qs ++ spec.spelling.toList ++ levelsText levels ++ '*' :: inner := by
  induction levels generalizing inner with
  | nil => exact congrArg (· ++ '*' :: inner) (List.append_nil _).symm
  | cons level levels ih =>
    -- the stars of this level come to stand before the declarator, those of the others before them
    have joined : joinPointer ('*' :: qualifiersAfter level) ('*' :: inner) =
        '*' :: (qualifiersAfter level ++ '*' :: inner) := rfl
    rw [declare_pointers_cons, joined, ih, levelsText_cons]
    simp only [List.append_assoc, List.cons_append]

/-- A name stands behind the levels of pointers to its type, and behind a space. -/
lemma declare_pointers (levels : List (List Qualifier)) (qs : List Qualifier) (spec : Specifier)
    {c : Char} (h : c ≠ '*' ∧ c ≠ '[') (rest : List Char) :
    (CType.pointers levels qs spec).declare (c :: rest) =
      qualifiersBefore qs ++ spec.spelling.toList ++ levelsText levels ++ ' ' :: c :: rest := by
  cases levels with
  | nil =>
    change attach (qualifiersBefore qs ++ spec.spelling.toList) (c :: rest) = _
    rw [attach_cons h]
    exact congrArg (· ++ ' ' :: c :: rest) (List.append_nil _).symm
  | cons level levels =>
    rw [declare_pointers_cons, joinPointer_cons h.1, List.cons_append, declare_pointers_star,
      levelsText_cons]
    simp only [List.append_assoc, List.cons_append]

/-- The text of levels of pointers, character by character. -/
lemma toList_pointerText (levels : List (List Qualifier)) (qs : List Qualifier)
    (spelling name : String) :
    (pointerText levels qs spelling name).toList =
      qualifiersBefore qs ++ spelling.toList ++ levelsText levels ++ ' ' :: name.toList := by
  have level (level : List Qualifier) :
      (pointerLevelText level).toList = '*' :: qualifiersAfter level := by
    simp [pointerLevelText, qualifiersAfter, Qualifier.keyword_eq_word, String.toList_join,
      List.flatMap_map]
  simp only [pointerText, String.toList_append, String.toList_join, List.flatMap_map, level]
  simp [qualifiersBefore, Qualifier.keyword_eq_word, levelsText]

/-- A type of pointers to a named type resolves, with as many layers as there are levels, and is
written as its entries say, whatever the numbers of levels and of qualifiers. -/
theorem declaration_of_pointerChain (s : Store) {levels : List (List Qualifier)}
    {qs : List Qualifier} {spelling name : String} {id : EntryId}
    (chain : s.PointerChain qs spelling levels id) (nonempty : name ≠ "")
    (start : ∀ c ∈ name.toList.head?, c ≠ '*' ∧ c ≠ '[') :
    ∃ d, s.resolve id = .ok d ∧ d.depth = levels.length ∧
      d.declaration name = pointerText levels qs spelling name := by
  obtain ⟨spec, rfl, denotes⟩ := chain.denotes
  refine ⟨_, denotes.resolve, depth_pointers levels qs spec, String.toList_inj.1 ?_⟩
  rw [CType.declaration, String.toList_ofList, toList_pointerText]
  cases letters : name.toList with
  | nil => exact absurd (String.toList_eq_nil_iff.1 letters) nonempty
  | cons c rest => exact declare_pointers levels qs spec (start c (letters ▸ rfl)) rest

/-- Two levels of pointers to `const char`: a `restrict` one at `<0x38>`, and below it a `const`
one at `<0x28>`. -/
def pointerToPointer : List Entry :=
  [⟨⟨0x10⟩, .baseType, .ofList [(.name, .string "char")], []⟩,
   ⟨⟨0x18⟩, .constType, .ofList [(.type, .ref ⟨0x10⟩)], []⟩,
   ⟨⟨0x20⟩, .pointerType, .ofList [(.type, .ref ⟨0x18⟩)], []⟩,
   ⟨⟨0x28⟩, .constType, .ofList [(.type, .ref ⟨0x20⟩)], []⟩,
   ⟨⟨0x30⟩, .pointerType, .ofList [(.type, .ref ⟨0x28⟩)], []⟩,
   ⟨⟨0x38⟩, .restrictType, .ofList [(.type, .ref ⟨0x30⟩)], []⟩]

/-- The qualifiers of the lower level come first. -/
theorem declaration_of_pointerChain_char :
    ∃ s d, Store.ofList pointerToPointer = .ok s ∧ s.resolve ⟨0x38⟩ = .ok d ∧ d.depth = 2 ∧
      d.declaration "p" = "const char* const* restrict p" := by
  have distinct : (pointerToPointer.map Entry.id).Nodup := by decide
  obtain ⟨s, made, list⟩ := Store.ofList_of_nodup distinct
  have found := Store.get?_of_toList list
  have letters : s.PointerChain [.const] "char" [] ⟨0x18⟩ :=
    .bottom (.before (found _) rfl rfl .none) (by decide) (.plain (found _) (.inl rfl) rfl)
  have lower : s.PointerChain [.const] "char" [[.const]] ⟨0x28⟩ :=
    .level (.before (found _) rfl rfl .none) (found _) rfl rfl letters
  have upper : s.PointerChain [.const] "char" [[.restrict], [.const]] ⟨0x38⟩ :=
    .level (.before (found _) rfl rfl .none) (found _) rfl rfl lower
  obtain ⟨d, resolved, depth, text⟩ :=
    declaration_of_pointerChain s upper (show "p" ≠ "" by decide) (by simp)
  exact ⟨s, d, made, resolved, depth, text.trans (by decide)⟩

end Prototyper
