import Prototyper.Proofs.Reconstruction.Description
import Prototyper.Proofs.Resolution.Denotation
import Prototyper.Signature.Prototype

/-!
# Instances of functions

A concrete instance of a function carries nothing but a reference to the function, and each of its
parameters nothing but a reference to a parameter of the function. So all that is known of it lies
behind one link more. `signature_of_instantiates` says that it has the signature of the function, as
long as no search is brought past its limit by that link. In particular the searches never come back
to the instance: it would lead them to the function once more, and without end (`Nearest.behind`).
-/

namespace Prototyper

/-- The attributes that a function has or inherits. -/
def Attr.ofFunction : List Attr :=
  [.name, .type, .inline, .external, .declFile, .declLine]

/-- The attributes that a formal parameter has or inherits. -/
def Attr.ofParameter : List Attr :=
  [.name, .type]

/-- An entry leaves everything to another one: all that it carries is a reference to it, as its
abstract origin or by its specification. -/
inductive Entry.LeavesAllTo (e : Entry) (target : EntryId) : Prop where
  | reference {link} :
    link = .abstractOrigin ∨ link = .specification →
    e.attr link = some (.ref target) →
    (∀ a, a ≠ link → e.attr a = none) →
    LeavesAllTo e target

/-- A child of an instance stands for a child of the function: a parameter that leaves everything to
a parameter, or a marker for a marker. -/
inductive Entry.StandsFor (child : Entry) (original : Entry) : Prop where
  | parameter :
    child.tag = .formalParameter → original.tag = .formalParameter →
    child.LeavesAllTo original.id →
    StandsFor child original
  | marker :
    child.tag = .unspecifiedParameters → original.tag = .unspecifiedParameters →
    StandsFor child original

namespace Store

/-- An entry is an instance of a function: it leaves everything to the function, and of its children
those with a place in the parameter list stand, one by one, for those of the function. -/
structure Instantiates (s : Store) (e f : Entry) : Prop where
  function : e.tag = .subprogram
  origin : e.LeavesAllTo f.id
  children : ∃ children originals,
    List.Forall₂ (fun c child => s.get? c = some child) e.children children ∧
    List.Forall₂ (fun c original => s.get? c = some original) f.children originals ∧
    List.Forall₂ Entry.StandsFor (children.filter fun c => c.tag.isListed)
      (originals.filter fun c => c.tag.isListed)

end Store

/-! ## Leaving everything to another entry -/

/-- An entry that leaves everything to another one has it for its origin. -/
lemma Entry.LeavesAllTo.origin {e : Entry} {target : EntryId} (h : e.LeavesAllTo target) :
    e.originLink = some (.ref target) := by
  unfold originLink
  obtain ⟨rfl | rfl, holds, others⟩ := h
  · rw [holds]
  · rw [others .abstractOrigin (by decide), holds]

/-- An entry that leaves everything to another one has no attribute but the link. -/
lemma Entry.LeavesAllTo.missing {e : Entry} {target : EntryId} (h : e.LeavesAllTo target) {a : Attr}
    (noLink : a ≠ .abstractOrigin ∧ a ≠ .specification) : e.attr a = none := by
  obtain ⟨rfl | rfl, -, others⟩ := h
  · exact others a noLink.1
  · exact others a noLink.2

/-- What a signature takes from an entry is no link. -/
lemma Attr.noLink_of_mem_ofFunction :
    ∀ a ∈ Attr.ofFunction, a ≠ .abstractOrigin ∧ a ≠ .specification := by
  decide

/-- What a parameter takes from an entry, a signature takes as well. -/
lemma Attr.mem_ofFunction_of_mem_ofParameter : ∀ a ∈ Attr.ofParameter, a ∈ Attr.ofFunction := by
  decide

namespace Store

variable {s : Store} {e f : Entry}

/-- An entry that leaves an attribute to its origin has the same carrier near as the origin, if that
is not too far away by now. -/
lemma Nearest.behind {a : Attr} {found : Option Entry} (near : s.Nearest a f found)
    (he : e ∈ s.toList) (hf : f ∈ s.toList) (missing : e.attr a = none)
    (origin : e.originLink = some (.ref f.id)) (ends : s.EndsWithin a 7 f) :
    s.Nearest a e found := by
  obtain ⟨line, lineage, distinct, -⟩ := near
  obtain ⟨line', found', lineage', short⟩ := ends
  obtain ⟨⟨⟩, -⟩ := lineage.unique lineage' rfl
  have longer : s.Lineage a (e :: f :: line) found :=
    .leaves missing origin (get?_eq_some_iff.2 ⟨hf, rfl⟩) lineage
  refine ⟨f :: line, longer, ?_, Nat.succ_le_succ short⟩
  rw [List.map_cons, List.nodup_cons]
  refine ⟨fun back => ?_, distinct⟩
  -- a line that comes back to `e` would go on from there as it does from the first `e`
  obtain ⟨x, hx, same⟩ := List.mem_map.1 back
  have start : ∀ y ∈ (f :: line).head?, y ∈ s.toList := fun y first => Option.some.inj first ▸ hf
  cases eq_of_id_eq (lineage.mem_toList start x hx) he same
  obtain ⟨rest, again, shorter⟩ := lineage.rest hx
  obtain ⟨⟨⟩, -⟩ := again.unique longer rfl
  exact absurd shorter (Nat.lt_irrefl _)

/-- What the origin inherits, the entry that leaves everything to it inherits. -/
lemma Inherits.behind {a : Attr} {v : Option Value} (h : s.Inherits f a v) (he : e ∈ s.toList)
    (hf : f ∈ s.toList) (leaves : e.LeavesAllTo f.id) (ha : a ∈ Attr.ofFunction)
    (ends : s.EndsWithin a 7 f) : s.Inherits e a v := by
  obtain ⟨found, near, value⟩ := h
  have missing := leaves.missing (Attr.noLink_of_mem_ofFunction a ha)
  exact ⟨found, near.behind he hf missing leaves.origin ends, value⟩

/-! ## Parameters -/

/-- A parameter of the origin is one of the entry that leaves everything to it. -/
lemma DescribesParameter.behind {p : Parameter} (h : s.DescribesParameter f p) (he : e ∈ s.toList)
    (hf : f ∈ s.toList) (leaves : e.LeavesAllTo f.id)
    (ends : ∀ a ∈ Attr.ofParameter, s.EndsWithin a 7 f) : s.DescribesParameter e p := by
  have inherits {a : Attr} {v : Option Value} (ha : a ∈ Attr.ofParameter)
      (h : s.Inherits f a v) : s.Inherits e a v :=
    h.behind he hf leaves (Attr.mem_ofFunction_of_mem_ofParameter a ha) (ends a ha)
  obtain ⟨t, type, denotes⟩ := h.type
  obtain ⟨v, name, text⟩ := h.name
  exact ⟨⟨t, inherits (by decide) type, denotes⟩, ⟨v, inherits (by decide) name, text⟩⟩

/-- Entries that stand for those of a parameter list describe the same list. -/
lemma DescribesList.behind {es fs : List Entry} {ps : List Parameter} {variadic : Bool}
    (h : s.DescribesList fs ps variadic) (stand : List.Forall₂ Entry.StandsFor es fs)
    (hes : ∀ e ∈ es, e ∈ s.toList) (hfs : ∀ f ∈ fs, f ∈ s.toList)
    (ends : ∀ f ∈ fs, f.tag = .formalParameter → ∀ a ∈ Attr.ofParameter, s.EndsWithin a 7 f) :
    s.DescribesList es ps variadic := by
  -- the list of the function says what stands at each place, and so which partner it can have
  induction h generalizing es with
  | fixed =>
    cases stand
    exact .fixed
  | variadic tag =>
    obtain ⟨child, _, first, last, rfl⟩ := List.forall₂_cons_right_iff.1 stand
    cases last
    cases first with
    | parameter _ other => cases tag.symm.trans other
    | marker own _ => exact .variadic own
  | @parameter f p fs ps variadic tag described _ ih =>
    obtain ⟨child, es, first, others, rfl⟩ := List.forall₂_cons_right_iff.1 stand
    cases first with
    | marker _ other => cases tag.symm.trans other
    | parameter own _ leaves =>
      have parameter := described.behind (hes _ List.mem_cons_self) (hfs _ List.mem_cons_self)
        leaves (ends _ List.mem_cons_self tag)
      have rest := ih others (fun e he => hes e (List.mem_cons_of_mem _ he))
        (fun f hf => hfs f (List.mem_cons_of_mem _ hf))
        fun f hf => ends f (List.mem_cons_of_mem _ hf)
      exact .parameter own parameter rest

/-! ## Functions -/

/-- A child that is found is listed. -/
lemma exists_id_of_mem {ids : List EntryId} {es : List Entry}
    (h : List.Forall₂ (fun c e => s.get? c = some e) ids es) {e : Entry} (he : e ∈ es) :
    ∃ c ∈ ids, s.get? c = some e :=
  exists_of_mem_left h.flip he

/-- An instance describes the function that it is an instance of, but as an entry of its own. -/
lemma Describes.behind {sig : Signature} (h : s.Describes f sig) (he : e ∈ s.toList)
    (hf : f ∈ s.toList) (inst : s.Instantiates e f)
    (ends : ∀ a ∈ Attr.ofFunction, s.EndsWithin a 7 f)
    (endsBelow : ∀ c ∈ f.children, ∀ p, s.get? c = some p → p.tag = .formalParameter →
      ∀ a ∈ Attr.ofParameter, s.EndsWithin a 7 p) :
    s.Describes e { sig with entry := e.id, isDeclaration := false } := by
  have inherits {a : Attr} {v : Option Value} (ha : a ∈ Attr.ofFunction)
      (h : s.Inherits f a v) : s.Inherits e a v :=
    h.behind he hf inst.origin ha (ends a ha)
  obtain ⟨originals, all, list⟩ := h.parameters
  obtain ⟨children, originals', found, all', stand⟩ := inst.children
  have unique : Relator.RightUnique fun (c : EntryId) (x : Entry) => s.get? c = some x :=
    fun _ _ _ hx hy => Option.some.inj (hx.symm.trans hy)
  have same : originals' = originals := unique.forall₂ all' all
  obtain ⟨inlineCode, inlined, inlineState⟩ := h.inlineState
  obtain ⟨external, exported, isExternal⟩ := h.isExternal
  obtain ⟨file, line, filed, placed, location⟩ := h.location
  exact {
    function := inst.function
    entry := rfl
    name := inherits (by decide) h.name
    returnType := by
      obtain ⟨missing, void⟩ | ⟨t, type, denotes⟩ := h.returnType
      · exact .inl ⟨inherits (by decide) missing, void⟩
      · exact .inr ⟨t, inherits (by decide) type, denotes⟩
    parameters := by
      refine ⟨children, found, list.behind (same ▸ stand) (fun c hc => ?_) (fun o ho => ?_) ?_⟩
      · obtain ⟨id, -, hid⟩ := exists_id_of_mem found (List.mem_filter.1 hc).1
        exact mem_of_get? hid
      · obtain ⟨id, -, hid⟩ := exists_id_of_mem all (List.mem_filter.1 ho).1
        exact mem_of_get? hid
      · intro o ho
        obtain ⟨id, listed, hid⟩ := exists_id_of_mem all (List.mem_filter.1 ho).1
        exact endsBelow id listed o hid
    inlineState := ⟨inlineCode, inherits (by decide) inlined, inlineState⟩
    isInline := h.isInline
    isExternal := ⟨external, inherits (by decide) exported, isExternal⟩
    isDeclaration := by
      rw [inst.origin.missing (by decide)]
      simp [Value.IsSet]
    location := ⟨file, line, inherits (by decide) filed, inherits (by decide) placed, location⟩ }

/-- An instance of a function from which a signature is reconstructed has the same signature, but as
an entry of its own that declares nothing, and the same text. The searches from the function and its
parameters must have a link to spare of the eight that a search may follow. -/
theorem signature_of_instantiates (s : Store) {e f : Entry} {sig : Signature}
    (he : e ∈ s.toList) (hf : f ∈ s.toList) (built : s.signature f = .ok sig)
    (ends : ∀ a ∈ Attr.ofFunction, s.EndsWithin a 7 f)
    (endsBelow : ∀ c ∈ f.children, ∀ p, s.get? c = some p → p.tag = .formalParameter →
      ∀ a ∈ Attr.ofParameter, s.EndsWithin a 7 p)
    (inst : s.Instantiates e f) :
    ∃ sig', s.signature e = .ok sig' ∧
      sig' = { sig with entry := e.id, isDeclaration := false } ∧ sig'.text = sig.text := by
  have described := (describes_of_signature built).behind he hf inst ends endsBelow
  exact ⟨_, described.signature, rfl, rfl⟩

/-- An inline function `tiny` with one parameter at `<0x20>`, and at `<0x30>` a concrete instance of
it, which has a block beside its parameter. -/
def tinyInstance : List Entry :=
  [⟨⟨0x10⟩, .baseType, .ofList [(.name, .string "int")], []⟩,
   ⟨⟨0x20⟩, .subprogram, .ofList [(.name, .string "tiny"), (.inline, .unsigned 3)], [⟨0x28⟩]⟩,
   ⟨⟨0x28⟩, .formalParameter, .ofList [(.name, .string "p"), (.type, .ref ⟨0x10⟩)], []⟩,
   ⟨⟨0x30⟩, .subprogram, .ofList [(.abstractOrigin, .ref ⟨0x20⟩)], [⟨0x38⟩, ⟨0x40⟩]⟩,
   ⟨⟨0x38⟩, .lexicalBlock, .ofList [], []⟩,
   ⟨⟨0x40⟩, .formalParameter, .ofList [(.abstractOrigin, .ref ⟨0x28⟩)], []⟩]

/-- The signature of `tiny`. -/
def tinySignature : Signature where
  entry := ⟨0x20⟩
  name := "tiny"
  returnType := .void
  parameters := [⟨some "p", .leaf [] (.base "int")⟩]
  isInline := true
  isVariadic := false
  isDeclaration := false
  isExternal := false
  inlineState := some .declaredInlined
  location := none

/-- An entry with an abstract origin and nothing else leaves everything to it. -/
lemma leavesAllTo_ofList (id : EntryId) (tag : Tag) (target : EntryId) (children : List EntryId) :
    Entry.LeavesAllTo ⟨id, tag, .ofList [(.abstractOrigin, .ref target)], children⟩ target := by
  refine .reference (.inl rfl) rfl fun a other => ?_
  exact List.lookup_cons.trans (by rw [beq_eq_false_iff_ne.2 other]; rfl)

/-- The instance of `tiny` has the signature of `tiny`. -/
theorem signature_of_instantiates_tiny :
    ∃ s, ofList tinyInstance = .ok s ∧ s.signature tinyInstance[1] = .ok tinySignature ∧
      s.signature tinyInstance[3] = .ok { tinySignature with entry := ⟨0x30⟩ } := by
  have distinct : (tinyInstance.map Entry.id).Nodup := by decide
  obtain ⟨s, made, list⟩ := ofList_of_nodup distinct
  have found := get?_of_toList list
  have parameter : s.DescribesParameter tinyInstance[2] ⟨some "p", .leaf [] (.base "int")⟩ :=
    .of_noOrigin rfl rfl (.base (found ⟨0x10⟩) rfl rfl) rfl
  have described : s.Describes tinyInstance[1] tinySignature :=
    .of_noOrigin rfl rfl rfl rfl (.inl ⟨rfl, rfl⟩)
      ⟨_, .cons (found _) .nil, .parameter rfl parameter .fixed⟩ rfl rfl rfl rfl rfl
  have built := described.signature
  have inst : s.Instantiates tinyInstance[3] tinyInstance[1] := {
    function := rfl
    origin := leavesAllTo_ofList _ _ _ _
    children := by
      refine ⟨_, _, .cons (found _) (.cons (found _) .nil), .cons (found _) .nil, ?_⟩
      exact .cons (.parameter rfl rfl (leavesAllTo_ofList _ _ _ _)) .nil }
  have endsBelow : ∀ c ∈ tinyInstance[1].children, ∀ p, s.get? c = some p →
      p.tag = .formalParameter → ∀ a ∈ Attr.ofParameter, s.EndsWithin a 7 p := by
    intro c hc p hp _ a _
    cases List.mem_singleton.1 hc
    cases (found _).symm.trans hp
    exact endsWithin_of_noOrigin rfl
  have function : tinyInstance[1] ∈ s.toList := mem_of_get? (found ⟨0x20⟩)
  have copy : tinyInstance[3] ∈ s.toList := mem_of_get? (found ⟨0x30⟩)
  obtain ⟨_, same, rfl, -⟩ := signature_of_instantiates s copy function built
    (fun _ _ => endsWithin_of_noOrigin rfl) endsBelow inst
  exact ⟨s, made, built, same⟩

end Store

end Prototyper
