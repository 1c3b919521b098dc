import Prototyper.Proofs.Resolution.Denotation

/-!
# What the defect of a type says

A type that does not resolve comes with a defect. `TypeDefect` is what the defect says of the store:
which entry it is about, how that entry is met from the one that was to be resolved, and what is
wrong with it. `typeDefect_of_resolveFrom` says that resolution reports nothing else. `Denotes` and
`PointerLike` stand here for the types that do resolve, so what a defect says is not said in terms
of the walk that found it.
-/

namespace Prototyper

/-- The tags of the entries that are types, whether they have a rendering or not. -/
def Tag.isType : Tag → Bool
  | baseType | structureType | unionType | enumerationType | typedef | constType | volatileType
  | restrictType | pointerType | arrayType | subroutineType => true
  | _ => false

/-- An attribute that should name an entry holds a value that names none. -/
inductive Entry.LeadsNowhere (e : Entry) (a : Attr) : Defect → Prop where
  | unresolved {form} :
    e.attr a = some (.unresolvedRef form) →
    LeadsNowhere e a (.unresolvedReference e.id a form)
  | noType {v} :
    a = .type →
    e.attr a = some v → ¬ v.IsReference →
    LeadsNowhere e a (.missingType e.id)
  | noOrigin {v} :
    a ≠ .type →
    e.attr a = some v → ¬ v.IsReference →
    LeadsNowhere e a (.unresolvedReference e.id a "non-reference form")

/-- An attribute that cannot be followed leads nowhere. -/
lemma Entry.leadsNowhere_of_reference {e : Entry} {a : Attr} {d : Defect}
    (h : e.reference a = .error d) : e.LeadsNowhere a d := by
  unfold reference at h
  split at h
  case h_1 => cases h
  case h_2 => cases h
  case h_3 form holds =>
    cases h
    exact .unresolved holds
  case h_4 v noRef noForm holds =>
    have other : ¬ v.IsReference := by
      rintro (⟨t, rfl⟩ | ⟨form, rfl⟩)
      · exact noRef t rfl
      · exact noForm form rfl
    split at h
    case isTrue type =>
      cases h
      exact .noType type holds other
    case isFalse origin =>
      cases h
      exact .noOrigin origin holds other

namespace Store

/-- What is wrong with an entry that is met on the way to a type. -/
inductive TypeFault (s : Store) (e : Entry) : Defect → Prop where
  | notType :
    e.tag.isType = false →
    TypeFault s e (.unexpectedTag e.id e.tag)
  | leadsNowhere {d} :
    e.tag.isFollowed = true →
    e.LeadsNowhere .type d →
    TypeFault s e d
  | noElement :
    e.tag = .arrayType →
    e.attr .type = none →
    TypeFault s e (.missingType e.id)
  | noName :
    e.tag = .baseType ∨ e.tag = .typedef →
    (∀ name, e.attr .name ≠ some (.string name)) →
    TypeFault s e (.missingName e.id)
  | misplacedRestrict :
    e.tag = .restrictType →
    e.attr .type = none ∨ (∃ t, e.attr .type = some (.ref t) ∧ ¬ s.PointerLike t) →
    TypeFault s e (.misplacedRestrict e.id)
  | missingChild {c} :
    e.tag = .arrayType →
    c ∈ e.children → s.get? c = none →
    TypeFault s e (.unknownEntry c)
  | multiDimensional {children} :
    e.tag = .arrayType →
    List.Forall₂ (fun c child => s.get? c = some child) e.children children →
    1 < (children.filter fun c => c.tag = .subrangeType).length →
    TypeFault s e (.unsupported e.id .multiDimensionalArray)
  | arrayOfArrays {t qs length element} :
    e.tag = .arrayType →
    e.attr .type = some (.ref t) →
    s.Denotes t (.array qs length element) →
    TypeFault s e (.unsupported e.id .arrayOfArrays)
  | function :
    e.tag = .subroutineType →
    TypeFault s e (.unsupported e.id .functionPointer)

/-- What the defect of a type says: that the entry to be resolved, or one that is met from there, is
missing, is at fault or comes back to itself. -/
inductive TypeDefect (s : Store) (start : EntryId) : Defect → Prop where
  | missing {id} :
    Relation.ReflTransGen (s.TypeLink Tag.isFollowed) start id →
    s.get? id = none →
    TypeDefect s start (.unknownEntry id)
  | fault {id e d} :
    Relation.ReflTransGen (s.TypeLink Tag.isFollowed) start id →
    s.get? id = some e →
    s.TypeFault e d →
    TypeDefect s start d
  | cycle {id} :
    Relation.ReflTransGen (s.TypeLink Tag.isFollowed) start id →
    Relation.TransGen (s.TypeLink Tag.isWrapper) id id ∨
      Relation.TransGen (s.TypeLink Tag.isTransparent) id id →
    TypeDefect s start (.referenceCycle id)

variable {s : Store}

/-- The defects behind a link are those of the entry as well. -/
lemma TypeDefect.behind {id t : EntryId} {d : Defect} (link : s.TypeLink Tag.isFollowed id t)
    (h : s.TypeDefect t d) : s.TypeDefect id d := by
  cases h with
  | missing reach absent => exact .missing (.head link reach) absent
  | fault reach he wrong => exact .fault (.head link reach) he wrong
  | cycle reach back => exact .cycle (.head link reach) back

/-- What the look-ahead for a pointer fails with is said of an entry that it meets. -/
lemma typeDefect_of_isPointerLikeFrom {seen : List EntryId} {id : EntryId} {d : Defect}
    (reach : ∀ p ∈ seen, Relation.TransGen (s.TypeLink Tag.isTransparent) p id)
    (h : s.isPointerLikeFrom seen id = .error d) : s.TypeDefect id d := by
  induction seen, id using resolveFrom.induct s with
  | case1 seen id old =>
    rw [isPointerLikeFrom_eq, if_pos old] at h
    cases h
    exact .cycle .refl (.inr (reach id old))
  | case2 seen id fresh missing =>
    rw [isPointerLikeFrom_eq, if_neg fresh, lookup_of_missing missing] at h
    cases h
    exact .missing .refl missing
  | case3 seen id fresh e he ih =>
    rw [isPointerLikeFrom_eq, if_neg fresh, lookup_eq_ok_iff.2 he] at h
    change (if e.tag = .pointerType then _ else _) = _ at h
    split at h
    case isTrue => cases h
    case isFalse =>
      split at h
      case isFalse => cases h
      case isTrue transparent =>
        have followed := Tag.isFollowed_of_isTransparent transparent
        rcases bind_eq_error_iff.1 h with type | ⟨_ | t, type, h⟩
        · exact .fault .refl he (.leadsNowhere followed (Entry.leadsNowhere_of_reference type))
        · cases h
        · have link : s.TypeLink Tag.isTransparent id t :=
            ⟨e, he, transparent, Entry.reference_eq_some_iff.1 type⟩
          have rest := ih t (link.reach reach) h
          exact rest.behind (link.mono Tag.isFollowed_of_isTransparent)

/-! ## Defects at an entry -/

variable {typeAt : EntryId → Except Defect CType} {e : Entry} {d : Defect}

/-- A target has no type because its reference leads nowhere or its entry has none. -/
lemma fault_of_targetType (h : targetType typeAt e = .error d) :
    e.LeadsNowhere .type d ∨ ∃ t, e.attr .type = some (.ref t) ∧ typeAt t = .error d := by
  rcases bind_eq_error_iff.1 h with type | ⟨_ | t, type, h⟩
  · exact .inl (Entry.leadsNowhere_of_reference type)
  · cases h
  · exact .inr ⟨t, Entry.reference_eq_some_iff.1 type, h⟩

/-- The subranges of an array are not found if a child is missing. -/
lemma missing_of_subranges (h : s.subranges e = .error d) :
    ∃ c ∈ e.children, s.get? c = none ∧ d = .unknownEntry c := by
  rcases bind_eq_error_iff.1 h with children | ⟨_, -, h⟩
  · obtain ⟨c, hc, missing⟩ := exists_of_mapM_eq_error children
    exact ⟨c, hc, lookup_eq_error_iff.1 missing⟩
  · cases h

/-- An array has no type because of what is wrong with it or with its elements. -/
lemma fault_of_arrayType (tag : e.tag = .arrayType)
    (ih : ∀ t d, typeAt t = .ok d → s.Denotes t d) (h : s.arrayType typeAt e = .error d) :
    s.TypeFault e d ∨ ∃ t, e.attr .type = some (.ref t) ∧ typeAt t = .error d := by
  rcases bind_eq_error_iff.1 h with children | ⟨subranges, children, h⟩
  · obtain ⟨c, hc, absent, rfl⟩ := missing_of_subranges children
    exact .inl (.missingChild tag hc absent)
  · split at h
    case isTrue many =>
      cases h
      obtain ⟨children, found, rfl⟩ := subranges_eq_ok_iff.1 children
      exact .inl (.multiDimensional tag found many)
    case isFalse =>
      rcases bind_eq_error_iff.1 h with type | ⟨_ | t, type, h⟩
      · exact .inl (.leadsNowhere (tag ▸ rfl) (Entry.leadsNowhere_of_reference type))
      · cases h
        exact .inl (.noElement tag (Entry.reference_eq_none_iff.1 type))
      · rw [Entry.reference_eq_some_iff] at type
        rcases bind_eq_error_iff.1 h with element | ⟨element, resolved, h⟩
        · exact .inr ⟨t, type, element⟩
        · split at h
          case isTrue array =>
            cases h
            cases element with
            | array => exact .inl (.arrayOfArrays tag type (ih t _ resolved))
            | _ => cases array
          case isFalse => cases h

/-- A `restrict` before which the look-ahead finds no pointer qualifies none. -/
lemma fault_of_isPointerLike {named : Option EntryId} (tag : e.tag = .restrictType)
    (type : e.reference .type = .ok named) (ahead : s.isPointerLike named = .ok false) :
    s.TypeFault e (.misplacedRestrict e.id) := by
  refine .misplacedRestrict tag ?_
  cases named with
  | none => exact .inl (Entry.reference_eq_none_iff.1 type)
  | some t =>
    refine .inr ⟨t, Entry.reference_eq_some_iff.1 type, fun like => ?_⟩
    cases ahead.symm.trans (isPointerLike_eq_true_iff.2 ⟨t, rfl, like⟩)

/-- A base type or a type alias whose name cannot be read has none. -/
lemma fault_of_noName (tag : e.tag = .baseType ∨ e.tag = .typedef) (noName : e.name? = none) :
    s.TypeFault e (.missingName e.id) := by
  refine .noName tag fun name named => ?_
  cases noName.symm.trans (Entry.name?_eq_some_iff.2 named)

/-- Where an entry has no type, the entry is at fault, or one is that it refers to: in the walk from
there or, behind a `restrict`, in the look-ahead. -/
lemma typeDefect_of_typeOf {id : EntryId} (he : s.get? id = some e)
    (sound : ∀ t d, typeAt t = .ok d → s.Denotes t d)
    (ih : ∀ t, s.TypeLink Tag.isWrapper id t → typeAt t = .error d → s.TypeDefect t d)
    (h : s.typeOf typeAt e = .error d) : s.TypeDefect id d := by
  have further (wrapper : e.tag.isWrapper = true)
      (fails : ∃ t, e.attr .type = some (.ref t) ∧ typeAt t = .error d) : s.TypeDefect id d := by
    obtain ⟨t, type, fails⟩ := fails
    have link : s.TypeLink Tag.isWrapper id t := ⟨e, he, wrapper, type⟩
    exact (ih t link fails).behind (link.mono Tag.isFollowed_of_isWrapper)
  have target (wrapper : e.tag.isWrapper = true) {f : CType → CType}
      (h : (targetType typeAt e >>= fun d => pure (f d)) = .error d) : s.TypeDefect id d := by
    rcases bind_eq_error_iff.1 h with target | ⟨_, -, h⟩
    · obtain nowhere | fails := fault_of_targetType target
      · have followed := Tag.isFollowed_of_isWrapper wrapper
        exact .fault .refl he (.leadsNowhere followed nowhere)
      · exact further wrapper fails
    · cases h
  unfold typeOf at h
  cases tag : e.tag <;> simp only [tag] at h
  case constType => exact target (tag ▸ rfl) h
  case volatileType => exact target (tag ▸ rfl) h
  case pointerType => exact target (tag ▸ rfl) h
  case restrictType =>
    rcases bind_eq_error_iff.1 h with type | ⟨named, type, h⟩
    · have nowhere := Entry.leadsNowhere_of_reference type
      exact .fault .refl he (.leadsNowhere (tag ▸ rfl) nowhere)
    · rcases bind_eq_error_iff.1 h with ahead | ⟨pointer, ahead, h⟩
      · cases named with
        | none => cases ahead
        | some t =>
          have link : s.TypeLink Tag.isFollowed id t :=
            ⟨e, he, tag ▸ rfl, Entry.reference_eq_some_iff.1 type⟩
          exact (typeDefect_of_isPointerLikeFrom (by simp) ahead).behind link
      · cases pointer with
        | true => exact target (tag ▸ rfl) h
        | false =>
          cases h
          exact .fault .refl he (fault_of_isPointerLike tag type ahead)
  case arrayType =>
    obtain fault | fails := fault_of_arrayType tag sound h
    · exact .fault .refl he fault
    · exact further (tag ▸ rfl) fails
  case baseType =>
    split at h
    case h_1 => cases h
    case h_2 noName =>
      cases h
      exact .fault .refl he (fault_of_noName (.inl tag) noName)
  case typedef =>
    split at h
    case h_1 => cases h
    case h_2 noName =>
      cases h
      exact .fault .refl he (fault_of_noName (.inr tag) noName)
  case structureType => cases h
  case unionType => cases h
  case enumerationType => cases h
  case subroutineType =>
    cases h
    exact .fault .refl he (.function tag)
  all_goals
    cases h
    exact .fault .refl he (tag ▸ .notType (tag ▸ rfl))

/-- What resolution fails with is said of an entry that it meets. -/
lemma typeDefect_of_resolveFrom {path : List EntryId} {id : EntryId}
    (reach : ∀ p ∈ path, Relation.TransGen (s.TypeLink Tag.isWrapper) p id)
    (h : s.resolveFrom path id = .error d) : s.TypeDefect id d := by
  induction path, id using resolveFrom.induct s with
  | case1 path id old =>
    rw [resolveFrom_eq, if_pos old] at h
    cases h
    exact .cycle .refl (.inl (reach id old))
  | case2 path id fresh missing =>
    rw [resolveFrom_eq, if_neg fresh, lookup_of_missing missing] at h
    cases h
    exact .missing .refl missing
  | case3 path id fresh e he ih =>
    rw [resolveFrom_of_fresh fresh he] at h
    refine typeDefect_of_typeOf he (fun t d => denotes_of_walk) (fun t link fails => ?_) h
    exact ih t (link.reach reach) fails

end Store

end Prototyper
