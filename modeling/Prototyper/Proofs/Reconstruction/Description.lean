import Prototyper.Proofs.Reconstruction.Inheritance

/-!
# Which entries describe a function

`Describes` says of an entry and a signature, without any walk, that the entry is well formed and
that the signature is what it says. Each part of the signature comes from the nearest carrier of an
attribute, and carriers of different attributes may be different entries. `signature_eq_ok_iff` is
the main result: signatures are reconstructed from exactly the entries that describe one.
-/

namespace Prototyper

/-- The tags of the children of a function that have a place in its parameter list. -/
def Tag.isListed : Tag → Bool
  | formalParameter | unspecifiedParameters => true
  | _ => false

/-- The code that the debugging format has for each way in which a function relates to inlining. -/
def InlineState.code : InlineState → UInt64
  | notInlined => 0
  | inlined => 1
  | declaredNotInlined => 2
  | declaredInlined => 3

/-- How the function relates to inlining whose entry has this value for it. -/
def InlineStateOf (v : Option Value) (inlineState : Option InlineState) : Prop :=
  ∀ state, inlineState = some state ↔ Value.HoldsNumber v state.code

/-- The location that values for a file and a line give, of which one has to be a number. -/
def LocationOf (file line : Option Value) (location : Option Location) : Prop :=
  ∀ place, location = some place ↔ (place.file ≠ none ∨ place.line ≠ none) ∧
    Value.NumberOf file place.file ∧ Value.NumberOf line place.line

namespace Store

/-- An entry describes a parameter: it has a type that its reference denotes, and a name if that is
a string. -/
structure DescribesParameter (s : Store) (e : Entry) (p : Parameter) : Prop where
  type : ∃ t, s.Inherits e .type (some (.ref t)) ∧ s.Denotes t p.type
  name : ∃ v, s.Inherits e .name v ∧ Value.TextOf v p.name

/-- Entries describe a parameter list: formal parameters, and behind them at most one marker that
makes the list variadic. -/
inductive DescribesList (s : Store) : List Entry → List Parameter → Bool → Prop where
  | fixed :
    DescribesList s [] [] false
  | variadic {marker} :
    marker.tag = .unspecifiedParameters →
    DescribesList s [marker] [] true
  | parameter {e p es ps variadic} :
    e.tag = .formalParameter →
    s.DescribesParameter e p →
    DescribesList s es ps variadic →
    DescribesList s (e :: es) (p :: ps) variadic

/-- An entry describes a function with a signature. -/
structure Describes (s : Store) (e : Entry) (sig : Signature) : Prop where
  function : e.tag = .subprogram
  entry : sig.entry = e.id
  name : s.Inherits e .name (some (.string sig.name))
  returnType : (s.Inherits e .type none ∧ sig.returnType = .leaf [] .void) ∨
    ∃ t, s.Inherits e .type (some (.ref t)) ∧ s.Denotes t sig.returnType
  parameters : ∃ children, List.Forall₂ (fun c child => s.get? c = some child) e.children children ∧
    s.DescribesList (children.filter fun c => c.tag.isListed) sig.parameters sig.isVariadic
  inlineState : ∃ v, s.Inherits e .inline v ∧ InlineStateOf v sig.inlineState
  isInline : sig.isInline = true ↔
    sig.inlineState = some .declaredNotInlined ∨ sig.inlineState = some .declaredInlined
  isExternal : ∃ v, s.Inherits e .external v ∧ (sig.isExternal = true ↔ Value.IsSet v)
  isDeclaration : sig.isDeclaration = true ↔ Value.IsSet (e.attr .declaration)
  location : ∃ file line, s.Inherits e .declFile file ∧ s.Inherits e .declLine line ∧
    LocationOf file line sig.location

end Store

/-! ## Inlining and location -/

/-- An inline state is read from its code. -/
lemma InlineState.ofCode?_eq_some_iff {code : UInt64} {state : InlineState} :
    ofCode? code = some state ↔ code = state.code := by
  rw [← UInt64.toNat_inj]
  unfold ofCode?
  split <;> cases state <;> simp_all [InlineState.code]

/-- The state of a value is the one that is read from its number. -/
lemma inlineStateOf_iff {v : Option Value} {inlineState : Option InlineState} :
    InlineStateOf v inlineState ↔
      (v.bind Value.unsigned?).bind InlineState.ofCode? = inlineState := by
  rw [eq_iff_forall_eq_some]
  refine forall_congr' fun state => iff_congr Iff.rfl ?_
  simp only [Option.bind_eq_some_iff, InlineState.ofCode?_eq_some_iff, exists_eq_right,
    Value.holdsNumber_iff]

/-- A function was declared `inline` in two of the states. -/
lemma isDeclared_eq_true_iff {inlineState : Option InlineState} :
    inlineState.any InlineState.isDeclared = true ↔
      inlineState = some .declaredNotInlined ∨ inlineState = some .declaredInlined := by
  rcases inlineState with _ | state
  · simp
  · cases state <;> simp [InlineState.isDeclared]

/-- The location of two values is the one that is read from their numbers. -/
lemma locationOf_iff {file line : Option Value} {location : Option Location} :
    LocationOf file line location ↔
      Location.of? (file.bind Value.unsigned?) (line.bind Value.unsigned?) = location := by
  rw [eq_iff_forall_eq_some]
  refine forall_congr' fun place => iff_congr Iff.rfl ?_
  simp only [Value.numberOf_iff, Location.of?, Bool.or_eq_true, Option.isSome_iff_ne_none]
  constructor
  · rintro ⟨known, ownFile, ownLine⟩
    rw [ownFile, ownLine, if_pos known]
  · intro h
    split at h
    case isTrue known =>
      cases h
      exact ⟨known, rfl, rfl⟩
    case isFalse => cases h

namespace Store

variable {s : Store}

/-! ## Parameters -/

/-- A parameter without an origin is described by its own type and name. -/
lemma DescribesParameter.of_noOrigin {e : Entry} {p : Parameter} {t : EntryId}
    (noOrigin : e.originLink = none) (type : e.attr .type = some (.ref t))
    (denotes : s.Denotes t p.type) (name : e.name? = p.name) : s.DescribesParameter e p where
  type := ⟨t, type ▸ inherits_of_noOrigin noOrigin, denotes⟩
  name := ⟨_, inherits_of_noOrigin noOrigin, Entry.name?_eq_iff.1 name⟩

/-- A parameter is put together as its entry describes it. -/
lemma parameter_eq_ok_iff {e : Entry} {p : Parameter} :
    s.parameter e = .ok p ↔ s.DescribesParameter e p := by
  unfold parameter
  rw [bind_eq_ok_iff]
  constructor
  · rintro ⟨type, inherited, h⟩
    obtain ⟨-, rfl⟩ | ⟨t, d, reference, denotes, rfl⟩ := inheritedType_eq_ok_iff.1 inherited
    · cases h
    · obtain ⟨v, name, h⟩ := bind_eq_ok_iff.1 h
      cases Except.ok.inj h
      exact ⟨⟨t, reference, denotes⟩, ⟨v, inherited_eq_ok_iff.1 name, Value.textOf_iff.2 rfl⟩⟩
  · rintro ⟨⟨t, reference, denotes⟩, ⟨v, name, text⟩⟩
    refine ⟨some p.type, inheritedType_eq_ok_iff.2 (.inr ⟨t, p.type, reference, denotes, rfl⟩), ?_⟩
    refine bind_eq_ok_iff.2 ⟨v, inherited_eq_ok_iff.2 name, ?_⟩
    rw [Value.textOf_iff.1 text]
    rfl

/-- What the walk over the children of a function does at one of them: it takes a parameter or the
marker as long as there was no marker, and passes over a child without a place in the list. -/
lemma parametersOf_cons_eq_ok_iff {variadic dots : Bool} {id : EntryId} {ids : List EntryId}
    {ps : List Parameter} :
    s.parametersOf variadic (id :: ids) = .ok (ps, dots) ↔ ∃ child, s.get? id = some child ∧
      ((child.tag = .formalParameter ∧ variadic = false ∧ ∃ p rest, s.DescribesParameter child p ∧
          s.parametersOf false ids = .ok (rest, dots) ∧ ps = p :: rest) ∨
        (child.tag = .unspecifiedParameters ∧ variadic = false ∧
          s.parametersOf true ids = .ok (ps, dots)) ∨
        (child.tag.isListed = false ∧ s.parametersOf variadic ids = .ok (ps, dots))) := by
  rw [parametersOf, bind_eq_ok_iff]
  simp only [lookup_eq_ok_iff]
  refine exists_congr fun child => and_congr_right fun _ => ?_
  cases tag : child.tag with
  | formalParameter =>
    simp only [Tag.isListed, reduceCtorEq, false_and, or_false, true_and]
    cases variadic with
    | true => exact ⟨fun h => (by cases h), fun h => (by cases h.1)⟩
    | false =>
      simp only [Bool.false_eq_true, if_false, true_and]
      constructor
      · intro h
        obtain ⟨p, described, h⟩ := bind_eq_ok_iff.1 h
        obtain ⟨⟨rest, dots'⟩, walked, h⟩ := bind_eq_ok_iff.1 h
        cases Except.ok.inj h
        exact ⟨p, rest, parameter_eq_ok_iff.1 described, walked, rfl⟩
      · rintro ⟨p, rest, described, walked, rfl⟩
        refine bind_eq_ok_iff.2 ⟨p, parameter_eq_ok_iff.2 described, ?_⟩
        exact bind_eq_ok_iff.2 ⟨(rest, dots), walked, rfl⟩
  | unspecifiedParameters =>
    simp only [Tag.isListed, reduceCtorEq, false_and, or_false, true_and, false_or]
    cases variadic with
    | true => exact ⟨fun h => (by cases h), fun h => (by cases h.1)⟩
    | false => exact ⟨fun h => ⟨rfl, h⟩, fun h => h.2⟩
  | _ => simp only [Tag.isListed, reduceCtorEq, false_and, false_or, true_and]

/-- Behind the variadic marker no child may have a place in the parameter list. -/
lemma parametersOf_true_eq_ok_iff {ids : List EntryId} {ps : List Parameter} {dots : Bool} :
    s.parametersOf true ids = .ok (ps, dots) ↔ ∃ children,
      List.Forall₂ (fun c child => s.get? c = some child) ids children ∧
      (children.filter fun c => c.tag.isListed) = [] ∧ ps = [] ∧ dots = true := by
  induction ids with
  | nil =>
    rw [parametersOf]
    constructor
    · intro h
      cases Except.ok.inj h
      exact ⟨[], .nil, rfl, rfl, rfl⟩
    · rintro ⟨_, _, _, rfl, rfl⟩
      rfl
  | cons id ids ih =>
    rw [parametersOf_cons_eq_ok_iff]
    constructor
    · rintro ⟨child, found, ⟨-, ⟨⟩, -⟩ | ⟨-, ⟨⟩, -⟩ | ⟨unlisted, h⟩⟩
      obtain ⟨children, all, none, rfl, rfl⟩ := ih.1 h
      refine ⟨child :: children, .cons found all, ?_, rfl, rfl⟩
      rw [List.filter_cons_of_neg (by simp [unlisted]), none]
    · rintro ⟨_, found, none, rfl, rfl⟩
      obtain ⟨child, children, first, all, rfl⟩ := List.forall₂_cons_left_iff.1 found
      have unlisted : child.tag.isListed = false := by
        by_contra listed
        rw [List.filter_cons_of_pos (by simpa using listed)] at none
        cases none
      rw [List.filter_cons_of_neg (by simp [unlisted])] at none
      exact ⟨child, first, .inr (.inr ⟨unlisted, ih.2 ⟨children, all, none, rfl, rfl⟩⟩)⟩

/-- The parameter list of a function is the one that its children describe. -/
lemma parametersOf_eq_ok_iff {ids : List EntryId} {ps : List Parameter} {dots : Bool} :
    s.parametersOf false ids = .ok (ps, dots) ↔ ∃ children,
      List.Forall₂ (fun c child => s.get? c = some child) ids children ∧
      s.DescribesList (children.filter fun c => c.tag.isListed) ps dots := by
  induction ids generalizing ps with
  | nil =>
    rw [parametersOf]
    constructor
    · intro h
      cases Except.ok.inj h
      exact ⟨[], .nil, .fixed⟩
    · rintro ⟨_, ⟨⟩, ⟨⟩⟩
      rfl
  | cons id ids ih =>
    rw [parametersOf_cons_eq_ok_iff]
    constructor
    · rintro ⟨child, found, ⟨tag, -, p, rest, described, h, rfl⟩ | ⟨tag, -, h⟩ | ⟨unlisted, h⟩⟩
      · obtain ⟨children, all, list⟩ := ih.1 h
        refine ⟨child :: children, .cons found all, ?_⟩
        rw [List.filter_cons_of_pos (by rw [tag]; rfl)]
        exact .parameter tag described list
      · obtain ⟨children, all, none, rfl, rfl⟩ := parametersOf_true_eq_ok_iff.1 h
        refine ⟨child :: children, .cons found all, ?_⟩
        rw [List.filter_cons_of_pos (by rw [tag]; rfl), none]
        exact .variadic tag
      · obtain ⟨children, all, list⟩ := ih.1 h
        refine ⟨child :: children, .cons found all, ?_⟩
        rw [List.filter_cons_of_neg (by simp [unlisted])]
        exact list
    · rintro ⟨_, found, list⟩
      obtain ⟨child, children, first, all, rfl⟩ := List.forall₂_cons_left_iff.1 found
      refine ⟨child, first, ?_⟩
      cases listed : child.tag.isListed with
      | false =>
        rw [List.filter_cons_of_neg (by simp [listed])] at list
        exact .inr (.inr ⟨rfl, ih.2 ⟨children, all, list⟩⟩)
      | true =>
        rw [List.filter_cons_of_pos (by exact listed)] at list
        -- behind the marker the list is at its end, so no other child may be listed
        generalize rest : (children.filter fun c => c.tag.isListed) = listed' at list
        cases list with
        | variadic tag =>
          have behind := parametersOf_true_eq_ok_iff.2 ⟨children, all, rest, rfl, rfl⟩
          exact .inr (.inl ⟨tag, rfl, behind⟩)
        | parameter tag described list =>
          exact .inl ⟨tag, rfl, _, _, described, ih.2 ⟨children, all, rest ▸ list⟩, rfl⟩

/-! ## Functions -/

/-- The type that a function returns is that of its entry, and `void` without one. -/
lemma returnType_iff {e : Entry} {d : CType} :
    (∃ type, s.inheritedType e = .ok type ∧ d = type.getD .void) ↔
      (s.Inherits e .type none ∧ d = .leaf [] .void) ∨
      ∃ t, s.Inherits e .type (some (.ref t)) ∧ s.Denotes t d := by
  simp only [inheritedType_eq_ok_iff]
  constructor
  · rintro ⟨_, ⟨missing, rfl⟩ | ⟨t, d', reference, denotes, rfl⟩, rfl⟩
    · exact .inl ⟨missing, rfl⟩
    · exact .inr ⟨t, reference, denotes⟩
  · rintro (⟨missing, rfl⟩ | ⟨t, reference, denotes⟩)
    · exact ⟨none, .inl ⟨missing, rfl⟩, rfl⟩
    · exact ⟨some d, .inr ⟨t, d, reference, denotes, rfl⟩, rfl⟩

/-- A function without an origin is described by its own attributes. -/
lemma Describes.of_noOrigin {e : Entry} {sig : Signature} (noOrigin : e.originLink = none)
    (function : e.tag = .subprogram) (entry : sig.entry = e.id)
    (name : e.attr .name = some (.string sig.name))
    (returnType : (e.attr .type = none ∧ sig.returnType = .leaf [] .void) ∨
      ∃ t, e.attr .type = some (.ref t) ∧ s.Denotes t sig.returnType)
    (parameters : ∃ children,
      List.Forall₂ (fun c child => s.get? c = some child) e.children children ∧
      s.DescribesList (children.filter fun c => c.tag.isListed) sig.parameters sig.isVariadic)
    (inlineState : ((e.attr .inline).bind Value.unsigned?).bind InlineState.ofCode? =
      sig.inlineState)
    (isInline : sig.inlineState.any InlineState.isDeclared = sig.isInline)
    (isExternal : e.flag .external = sig.isExternal)
    (isDeclaration : e.flag .declaration = sig.isDeclaration)
    (location : Location.of? ((e.attr .declFile).bind Value.unsigned?)
      ((e.attr .declLine).bind Value.unsigned?) = sig.location) : s.Describes e sig := by
  have own (a : Attr) : s.Inherits e a (e.attr a) := inherits_of_noOrigin noOrigin
  exact {
    function := function
    entry := entry
    name := name ▸ own .name
    returnType := by
      obtain ⟨missing, void⟩ | ⟨t, type, denotes⟩ := returnType
      · exact .inl ⟨missing ▸ own .type, void⟩
      · exact .inr ⟨t, type ▸ own .type, denotes⟩
    parameters := parameters
    inlineState := ⟨_, own .inline, inlineStateOf_iff.2 inlineState⟩
    isInline := isInline ▸ isDeclared_eq_true_iff
    isExternal := ⟨_, own .external, isExternal ▸ Entry.flag_eq_true_iff⟩
    isDeclaration := isDeclaration ▸ Entry.flag_eq_true_iff
    location := ⟨_, _, own .declFile, own .declLine, locationOf_iff.2 location⟩ }

/-- An entry from which a signature is reconstructed describes a function with that signature. -/
lemma describes_of_signature {e : Entry} {sig : Signature} (h : s.signature e = .ok sig) :
    s.Describes e sig := by
  unfold signature at h
  by_cases tag : e.tag = .subprogram
  case neg =>
    simp only [if_pos tag] at h
    cases h
  simp only [tag, ne_eq, not_true_eq_false, if_false] at h
  obtain ⟨value, named, h⟩ := bind_eq_ok_iff.1 h
  cases string : value.bind Value.string? with
  | none => rw [string] at h; cases h
  | some name =>
    rw [string] at h
    obtain ⟨v, rfl, holds⟩ := Option.bind_eq_some_iff.1 string
    obtain ⟨type, typed, h⟩ := bind_eq_ok_iff.1 h
    obtain ⟨⟨parameters, variadic⟩, listed, h⟩ := bind_eq_ok_iff.1 h
    obtain ⟨inlineCode, inlined, h⟩ := bind_eq_ok_iff.1 h
    obtain ⟨external, exported, h⟩ := bind_eq_ok_iff.1 h
    obtain ⟨file, filed, h⟩ := bind_eq_ok_iff.1 h
    obtain ⟨line, placed, h⟩ := bind_eq_ok_iff.1 h
    cases Except.ok.inj h
    exact {
      function := tag
      entry := rfl
      name := inherited_eq_ok_iff.1 (Value.string?_eq_some_iff.1 holds ▸ named)
      returnType := returnType_iff.1 ⟨type, typed, rfl⟩
      parameters := parametersOf_eq_ok_iff.1 listed
      inlineState := ⟨inlineCode, inherited_eq_ok_iff.1 inlined, inlineStateOf_iff.2 rfl⟩
      isInline := isDeclared_eq_true_iff
      isExternal := ⟨external, inherited_eq_ok_iff.1 exported, Value.isSet_iff.symm⟩
      isDeclaration := Entry.flag_eq_true_iff
      location := ⟨file, line, inherited_eq_ok_iff.1 filed, inherited_eq_ok_iff.1 placed,
        locationOf_iff.2 rfl⟩ }

/-- From an entry that describes a function with a signature, that signature is reconstructed. -/
lemma Describes.signature {e : Entry} {sig : Signature} (h : s.Describes e sig) :
    s.signature e = .ok sig := by
  obtain ⟨type, typed, returns⟩ := returnType_iff.2 h.returnType
  obtain ⟨inlineCode, inlined, inlineState⟩ := h.inlineState
  obtain ⟨external, exported, external'⟩ := h.isExternal
  obtain ⟨file, line, filed, placed, location⟩ := h.location
  have isInline : sig.inlineState.any InlineState.isDeclared = sig.isInline :=
    Bool.eq_iff_iff.2 (isDeclared_eq_true_iff.trans h.isInline.symm)
  have isExternal : (external.bind Value.flag?).getD false = sig.isExternal :=
    Bool.eq_iff_iff.2 (Value.isSet_iff.symm.trans external'.symm)
  have isDeclaration : e.flag .declaration = sig.isDeclaration :=
    Bool.eq_iff_iff.2 (Entry.flag_eq_true_iff.trans h.isDeclaration.symm)
  unfold Store.signature
  simp only [h.function, ne_eq, not_true_eq_false, if_false]
  refine bind_eq_ok_iff.2 ⟨some (.string sig.name), inherited_eq_ok_iff.2 h.name, ?_⟩
  refine bind_eq_ok_iff.2 ⟨type, typed, ?_⟩
  refine bind_eq_ok_iff.2 ⟨_, parametersOf_eq_ok_iff.2 h.parameters, ?_⟩
  refine bind_eq_ok_iff.2 ⟨inlineCode, inherited_eq_ok_iff.2 inlined, ?_⟩
  refine bind_eq_ok_iff.2 ⟨external, inherited_eq_ok_iff.2 exported, ?_⟩
  refine bind_eq_ok_iff.2 ⟨file, inherited_eq_ok_iff.2 filed, ?_⟩
  refine bind_eq_ok_iff.2 ⟨line, inherited_eq_ok_iff.2 placed, ?_⟩
  simp only [← returns, inlineStateOf_iff.1 inlineState, isInline, isExternal, isDeclaration,
    locationOf_iff.1 location, ← h.entry]
  rfl

/-- A signature is reconstructed from an entry exactly if the entry describes a function with that
signature. -/
theorem signature_eq_ok_iff (s : Store) (e : Entry) (sig : Signature) :
    s.signature e = .ok sig ↔ s.Describes e sig :=
  ⟨describes_of_signature, Describes.signature⟩

end Store

end Prototyper
