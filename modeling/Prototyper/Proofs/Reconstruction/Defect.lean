import Prototyper.Proofs.Reconstruction.Absence
import Prototyper.Proofs.Reconstruction.Description
import Prototyper.Proofs.Resolution.Defect

/-!
# What the defect of a function says

A defect names the entry at fault, which may be the function, one of its children, an origin of
either, or an entry on the way to a type. `SignatureDefect` is what each defect of a function says
of the store, with the defects of types from `TypeDefect`, and `defects_true` says that nothing
untrue is reported, be it for a function or for a type alone.
-/

namespace Prototyper

namespace Store

/-- The entry that the `n`-th link along the origins of an entry names. -/
inductive OriginAt (s : Store) : Nat → Entry → EntryId → Prop where
  | next {e id} :
    e.originLink = some (.ref id) →
    OriginAt s 1 e id
  | further {n e o id} :
    s.HasOrigin e o →
    OriginAt s n o id →
    OriginAt s (n + 1) e id

/-- What the defect of a search along origins says, given how many links the search may follow: that
an origin is missing, cannot be read, comes back to itself or is too far away. -/
inductive OriginDefect (s : Store) (links : Nat) (e : Entry) : Defect → Prop where
  | missing {o id} :
    Relation.ReflTransGen s.HasOrigin e o →
    o.originLink = some (.ref id) → s.get? id = none →
    OriginDefect s links e (.unknownEntry id)
  | leadsNowhere {o link d} :
    Relation.ReflTransGen s.HasOrigin e o →
    link = .abstractOrigin ∨ link = .specification ∧ o.attr .abstractOrigin = none →
    o.LeadsNowhere link d →
    OriginDefect s links e d
  | cycle {o} :
    Relation.ReflTransGen s.HasOrigin e o →
    Relation.TransGen s.HasOrigin o o →
    OriginDefect s links e (.referenceCycle o.id)
  | tooFar {id} :
    s.OriginAt (links + 1) e id →
    OriginDefect s links e (.referenceCycle id)

/-- What the defect of an attribute or a type says that an entry has or inherits. -/
inductive InheritedDefect (s : Store) (e : Entry) : Defect → Prop where
  | origin {d} :
    s.OriginDefect 8 e d →
    InheritedDefect s e d
  | leadsNowhere {c d} :
    s.Nearest .type e (some c) →
    c.LeadsNowhere .type d →
    InheritedDefect s e d
  | type {t d} :
    s.Inherits e .type (some (.ref t)) →
    s.TypeDefect t d →
    InheritedDefect s e d

/-- What the defect of a function says. -/
inductive SignatureDefect (s : Store) (f : Entry) : Defect → Prop where
  | notFunction :
    f.tag ≠ .subprogram →
    SignatureDefect s f (.unexpectedTag f.id f.tag)
  | noName {found} :
    s.Nearest .name f found →
    (∀ c name, found = some c → c.attr .name ≠ some (.string name)) →
    SignatureDefect s f (.missingName f.id)
  | own {d} :
    s.InheritedDefect f d →
    SignatureDefect s f d
  | missingChild {c} :
    c ∈ f.children → s.get? c = none →
    SignatureDefect s f (.unknownEntry c)
  | malformedVariadic {before c after m child marker} :
    f.children = before ++ c :: after →
    s.get? c = some child → child.tag.isListed = true →
    m ∈ before → s.get? m = some marker → marker.tag = .unspecifiedParameters →
    SignatureDefect s f (.malformedVariadic child.id)
  | noType {c p} :
    c ∈ f.children → s.get? c = some p → p.tag = .formalParameter →
    (∀ o, Relation.ReflTransGen s.HasOrigin p o → o.attr .type = none) →
    SignatureDefect s f (.missingType p.id)
  | parameter {c p d} :
    c ∈ f.children → s.get? c = some p → p.tag = .formalParameter →
    s.InheritedDefect p d →
    SignatureDefect s f d

variable {s : Store} {d : Defect}

/-! ## Origins -/

/-- What is wrong with the origin of an entry, one link further, is wrong with the entry. -/
lemma OriginDefect.behind {links : Nat} {e o : Entry} (origin : s.HasOrigin e o)
    (h : s.OriginDefect links o d) : s.OriginDefect (links + 1) e d := by
  cases h with
  | missing reach value absent => exact .missing (.head origin reach) value absent
  | leadsNowhere reach own nowhere => exact .leadsNowhere (.head origin reach) own nowhere
  | cycle reach back => exact .cycle (.head origin reach) back
  | tooFar far => exact .tooFar (.further origin far)

/-- What the search for an attribute fails with is said of an origin. The entries visited so far
have their line of origins go through the one where the search is. -/
lemma originDefect_of_carrierFrom {a : Attr} {links : Nat} {visited : List EntryId} {e : Entry}
    (reach : ∀ p ∈ visited, ∃ o, s.get? p = some o ∧ Relation.ReflTransGen s.HasOrigin o e)
    (h : s.carrierFrom a links visited e = .error d) : s.OriginDefect links e d := by
  induction links generalizing visited e with
  | zero =>
    rw [carrierFrom_zero] at h
    split at h
    case isTrue => cases h
    case isFalse =>
      rcases bind_eq_error_iff.1 h with origin | ⟨_ | id, origin, h⟩
      · exact .leadsNowhere .refl e.originAttr_cases (Entry.leadsNowhere_of_reference origin)
      · cases h
      · cases h
        exact .tooFar (.next (Entry.origin_eq_some_iff.1 origin))
  | succ links ih =>
    rw [carrierFrom_succ] at h
    split at h
    case isTrue => cases h
    case isFalse =>
      rcases bind_eq_error_iff.1 h with origin | ⟨_ | id, origin, h⟩
      · exact .leadsNowhere .refl e.originAttr_cases (Entry.leadsNowhere_of_reference origin)
      · cases h
      · have value := Entry.origin_eq_some_iff.1 origin
        simp only at h
        split at h
        case isTrue old =>
          cases h
          obtain ⟨o, ho, back⟩ := reach id old
          have link : s.HasOrigin e o := ⟨id, value, ho⟩
          exact id_of_get? ho ▸ .cycle (.single link) (.tail' back link)
        case isFalse =>
          rcases bind_eq_error_iff.1 h with missing | ⟨o, ho, h⟩
          · obtain ⟨absent, rfl⟩ := lookup_eq_error_iff.1 missing
            exact .missing .refl value absent
          · rw [lookup_eq_ok_iff] at ho
            have link : s.HasOrigin e o := ⟨id, value, ho⟩
            refine (ih (fun p hp => ?_) h).behind link
            rcases List.mem_cons.1 hp with rfl | hp
            · exact ⟨o, ho, .refl⟩
            · obtain ⟨x, hx, back⟩ := reach p hp
              exact ⟨x, hx, back.tail link⟩

/-- A search for an attribute fails for what is wrong with the origins. -/
lemma originDefect_of_carrier {a : Attr} {e : Entry} (he : s.get? e.id = some e)
    (h : s.carrier a e = .error d) : s.OriginDefect 8 e d := by
  refine originDefect_of_carrierFrom (fun p hp => ?_) h
  cases List.mem_singleton.1 hp
  exact ⟨e, he, .refl⟩

/-! ## Attributes and types -/

/-- A value cannot be inherited for what is wrong with the entry. -/
lemma inheritedDefect_of_inherited {a : Attr} {e : Entry} (he : s.get? e.id = some e)
    (h : s.inherited a e = .error d) : s.InheritedDefect e d := by
  rcases bind_eq_error_iff.1 h with h | ⟨_, -, h⟩
  · exact .origin (originDefect_of_carrier he h)
  · cases h

/-- A type cannot be inherited for what is wrong with the entry. -/
lemma inheritedDefect_of_inheritedType {e : Entry} (he : s.get? e.id = some e)
    (h : s.inheritedType e = .error d) : s.InheritedDefect e d := by
  rcases bind_eq_error_iff.1 h with h | ⟨_ | c, near, h⟩
  · exact .origin (originDefect_of_carrier he h)
  · cases h
  · rw [carrier_eq_ok_iff] at near
    rcases bind_eq_error_iff.1 h with h | ⟨_ | t, type, h⟩
    · exact .leadsNowhere near (Entry.leadsNowhere_of_reference h)
    · cases h
    · have reference := inherits_some_iff.2 ⟨c, near, Entry.reference_eq_some_iff.1 type⟩
      rcases bind_eq_error_iff.1 h with h | ⟨_, -, h⟩
      · exact .type reference (typeDefect_of_resolveFrom (by simp) h)
      · cases h

/-! ## Functions -/

/-- What is wrong with a parameter is wrong with the signature. -/
lemma signatureDefect_of_parameter {f p : Entry} {c : EntryId} (hc : c ∈ f.children)
    (hp : s.get? c = some p) (tag : p.tag = .formalParameter)
    (h : s.parameter p = .error d) : s.SignatureDefect f d := by
  have own : s.get? p.id = some p := (id_of_get? hp).symm ▸ hp
  rcases bind_eq_error_iff.1 h with h | ⟨type, typed, h⟩
  · exact .parameter hc hp tag (inheritedDefect_of_inheritedType own h)
  · cases type with
    | none =>
      cases h
      obtain ⟨untyped, -⟩ | ⟨_, _, -, -, ⟨⟩⟩ := inheritedType_eq_ok_iff.1 typed
      exact .noType hc hp tag (untyped.eq_none_iff.1 rfl)
    | some type =>
      rcases bind_eq_error_iff.1 h with h | ⟨_, -, h⟩
      · exact .parameter hc hp tag (inheritedDefect_of_inherited own h)
      · cases h

/-- What the walk over the children fails with is said of one of them. Where it counts the list as
variadic, it has passed a marker. -/
lemma signatureDefect_of_parametersOf {f : Entry} {variadic : Bool} {before ids : List EntryId}
    (h : s.parametersOf variadic ids = .error d) (split : f.children = before ++ ids)
    (marked : variadic = true →
      ∃ m ∈ before, ∃ marker, s.get? m = some marker ∧ marker.tag = .unspecifiedParameters) :
    s.SignatureDefect f d := by
  induction ids generalizing variadic before with
  | nil => cases h
  | cons c ids ih =>
    have hc : c ∈ f.children := split ▸ List.mem_append_right before List.mem_cons_self
    have split' : f.children = before ++ [c] ++ ids := by rw [split, List.append_assoc]; rfl
    have marked' (dots : variadic = true) : ∃ m ∈ before ++ [c], ∃ marker,
        s.get? m = some marker ∧ marker.tag = .unspecifiedParameters := by
      obtain ⟨m, hm, rest⟩ := marked dots
      exact ⟨m, List.mem_append_left [c] hm, rest⟩
    rcases bind_eq_error_iff.1 h with missing | ⟨child, found, h⟩
    · obtain ⟨absent, rfl⟩ := lookup_eq_error_iff.1 missing
      exact .missingChild hc absent
    · rw [lookup_eq_ok_iff] at found
      have misplaced (listed : child.tag.isListed = true) (dots : variadic = true) :
          s.SignatureDefect f (.malformedVariadic child.id) := by
        obtain ⟨m, hm, marker, hmarker, tag⟩ := marked dots
        exact .malformedVariadic split found listed hm hmarker tag
      cases tag : child.tag <;> simp only [tag] at h
      case formalParameter =>
        cases variadic with
        | true =>
          cases h
          exact misplaced (tag ▸ rfl) rfl
        | false =>
          rcases bind_eq_error_iff.1 h with h | ⟨_, -, h⟩
          · exact signatureDefect_of_parameter hc found tag h
          · rcases bind_eq_error_iff.1 h with h | ⟨_, -, h⟩
            · exact ih h split' nofun
            · cases h
      case unspecifiedParameters =>
        cases variadic with
        | true =>
          cases h
          exact misplaced (tag ▸ rfl) rfl
        | false =>
          refine ih h split' fun _ => ?_
          exact ⟨c, List.mem_append_right before List.mem_cons_self, child, found, tag⟩
      all_goals exact ih h split' marked'

/-- A signature fails for what is wrong with it. -/
lemma signatureDefect_of_signature {f : Entry} (hf : s.get? f.id = some f)
    (h : s.signature f = .error d) : s.SignatureDefect f d := by
  unfold signature at h
  by_cases tag : f.tag = .subprogram
  case neg =>
    simp only [if_pos tag] at h
    cases h
    exact .notFunction tag
  have inherited {a : Attr} (h : s.inherited a f = .error d) : s.SignatureDefect f d :=
    .own (inheritedDefect_of_inherited hf h)
  simp only [tag, ne_eq, not_true_eq_false, if_false] at h
  rcases bind_eq_error_iff.1 h with h | ⟨value, named, h⟩
  · exact inherited h
  cases string : value.bind Value.string? with
  | none =>
    rw [string] at h
    cases h
    obtain ⟨found, near, rfl⟩ := inherited_eq_ok_iff.1 named
    refine .noName near ?_
    rintro c name rfl holds
    rw [Option.bind_some, holds] at string
    cases string
  | some name =>
    rw [string] at h
    rcases bind_eq_error_iff.1 h with h | ⟨_, -, h⟩
    · exact .own (inheritedDefect_of_inheritedType hf h)
    rcases bind_eq_error_iff.1 h with h | ⟨_, -, h⟩
    · exact signatureDefect_of_parametersOf h (List.nil_append f.children).symm nofun
    rcases bind_eq_error_iff.1 h with h | ⟨_, -, h⟩
    · exact inherited h
    rcases bind_eq_error_iff.1 h with h | ⟨_, -, h⟩
    · exact inherited h
    rcases bind_eq_error_iff.1 h with h | ⟨_, -, h⟩
    · exact inherited h
    rcases bind_eq_error_iff.1 h with h | ⟨_, -, h⟩
    · exact inherited h
    · cases h

/-- Each defect says something true of the store, be it reported for a type or for a function. -/
theorem defects_true (s : Store) :
    (∀ start d, s.resolve start = .error d → s.TypeDefect start d) ∧
    ∀ id d, s.signatureAt id = .error d →
      (s.get? id = none ∧ d = .unknownEntry id) ∨
      ∃ f, s.get? id = some f ∧ s.SignatureDefect f d := by
  constructor
  · intro start d h
    exact typeDefect_of_resolveFrom (by simp) h
  · intro id d h
    rcases bind_eq_error_iff.1 h with missing | ⟨f, hf, h⟩
    · exact .inl (lookup_eq_error_iff.1 missing)
    · rw [lookup_eq_ok_iff] at hf
      have own : s.get? f.id = some f := (id_of_get? hf).symm ▸ hf
      exact .inr ⟨f, hf, signatureDefect_of_signature own h⟩

/-- A function at `<0x10>` whose declaration, at `<0x18>`, has an origin that cannot be followed. -/
def unreadableOrigin : List Entry :=
  [⟨⟨0x10⟩, .subprogram, .ofList [(.specification, .ref ⟨0x18⟩)], []⟩,
   ⟨⟨0x18⟩, .subprogram, .ofList [(.abstractOrigin, .unresolvedRef "supplementary file")], []⟩]

/-- The defect of the function names the declaration, whose origin it is about. -/
theorem defects_true_unreadableOrigin :
    ∃ s, ofList unreadableOrigin = .ok s ∧
      s.TypeDefect ⟨0x10⟩ (.unexpectedTag ⟨0x10⟩ .subprogram) ∧
      ∃ f, s.get? ⟨0x10⟩ = some f ∧ s.SignatureDefect f
        (.unresolvedReference ⟨0x18⟩ .abstractOrigin "supplementary file") := by
  have distinct : (unreadableOrigin.map Entry.id).Nodup := by decide
  obtain ⟨s, made, list⟩ := ofList_of_nodup distinct
  have function : s.get? ⟨0x10⟩ = unreadableOrigin[0]? := by
    rw [get?_eq_find?, list]
    rfl
  have declaration : s.get? ⟨0x18⟩ = unreadableOrigin[1]? := by
    rw [get?_eq_find?, list]
    rfl
  obtain ⟨types, functions⟩ := defects_true s
  refine ⟨s, made, types _ _ ?_, ?_⟩
  · exact resolveFrom_of_fresh List.not_mem_nil function
  · have search : s.carrier .name unreadableOrigin[0] =
        .error (.unresolvedReference ⟨0x18⟩ .abstractOrigin "supplementary file") := by
      refine (carrierFrom_succ ..).trans (bind_eq_error_iff.2 (.inr ⟨some ⟨0x18⟩, rfl, ?_⟩))
      refine bind_eq_error_iff.2 (.inr ⟨_, lookup_eq_ok_iff.2 declaration, ?_⟩)
      exact (carrierFrom_succ ..).trans (bind_eq_error_iff.2 (.inl rfl))
    have fails : s.signatureAt ⟨0x10⟩ =
        .error (.unresolvedReference ⟨0x18⟩ .abstractOrigin "supplementary file") := by
      refine bind_eq_error_iff.2 (.inr ⟨_, lookup_eq_ok_iff.2 function, ?_⟩)
      exact bind_eq_error_iff.2 (.inl (bind_eq_error_iff.2 (.inl search)))
    obtain ⟨missing, -⟩ | said := functions _ _ fails
    · cases missing.symm.trans function
    · exact said

end Store

end Prototyper
