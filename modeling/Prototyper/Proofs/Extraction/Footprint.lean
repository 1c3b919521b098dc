import Prototyper.Proofs.Resolution.Walk
import Prototyper.Report.Extraction

/-!
# What the outcome of a function depends on

`Footprint` is the set of identifiers that the reconstruction of a function may look up. It follows
types and origins, and the children of arrays, but never those of structures, unions, enumerations
or named types.

`Agree` says that two stores give the same entries on a set of identifiers that references do not
leave. Each step of the reconstruction has one lemma: inside such a set it comes to the same result
in both stores. The last of them, `Agree.outcome_eq`, is about a function as a whole.
-/

namespace Prototyper

/-- The reference attributes that a reconstruction follows. -/
def Attr.followed : List Attr :=
  [type, abstractOrigin, specification]

/-- The entries that a reconstruction may go on to from an entry. -/
def Entry.dependencies (e : Entry) : List EntryId :=
  Attr.followed.filterMap (fun a => (e.attr a).bind Value.target?) ++
    if e.tag = .arrayType then e.children else []

/-- The identifiers that the reconstruction of a function may look up. -/
inductive Store.Footprint (s : Store) (f : Entry) : EntryId → Prop where
  | self :
    Footprint s f f.id
  | child {c} :
    c ∈ f.children →
    Footprint s f c
  | step {id e t} :
    Footprint s f id →
    s.get? id = some e →
    t ∈ e.dependencies →
    Footprint s f t

/-- A set that holds a function with its children, and that references do not leave, holds all on
which the outcome of the function depends. -/
lemma Store.Footprint.subset {s : Store} {f : Entry} {R : EntryId → Prop} {id : EntryId}
    (h : s.Footprint f id) (self : R f.id) (children : ∀ c ∈ f.children, R c)
    (closed : ∀ e ∈ s.toList, R e.id → ∀ t ∈ e.dependencies, R t) : R id := by
  induction h with
  | self => exact self
  | child hc => exact children _ hc
  | step _ he ht ih =>
    obtain ⟨mem, rfl⟩ := get?_eq_some_iff.1 he
    exact closed _ mem ih _ ht

/-! ## Entries whose references stay in a set -/

/-- The references that a reconstruction follows from an entry stay in a set. -/
def Entry.Within (e : Entry) (R : EntryId → Prop) : Prop :=
  ∀ t ∈ e.dependencies, R t

namespace Entry.Within

variable {e : Entry} {R : EntryId → Prop}

/-- The target of a followed attribute stays in the set. -/
lemma reference (h : e.Within R) {a : Attr} (ha : a ∈ Attr.followed) {t : EntryId}
    (ht : e.attr a = some (.ref t)) : R t := by
  apply h
  refine List.mem_append_left _ (List.mem_filterMap.2 ⟨a, ha, ?_⟩)
  rw [ht]
  rfl

/-- The type of the entry stays in the set. -/
lemma type (h : e.Within R) {t : EntryId} (ht : e.reference .type = .ok (some t)) : R t :=
  h.reference (by decide) (Entry.reference_eq_some_iff.1 ht)

/-- The origin of the entry stays in the set. -/
lemma origin (h : e.Within R) {t : EntryId} (ht : e.origin = .ok (some t)) : R t := by
  have followed : e.originAttr ∈ Attr.followed := by
    unfold originAttr
    split <;> decide
  exact h.reference followed (Entry.reference_eq_some_iff.1 ht)

/-- The children of an array stay in the set. -/
lemma child (h : e.Within R) (array : e.tag = .arrayType) {c : EntryId} (hc : c ∈ e.children) :
    R c := by
  apply h
  refine List.mem_append_right _ ?_
  rw [if_pos array]
  exact hc

end Entry.Within

namespace Store

/-- Two stores give the same entries on a set of identifiers, and the references of these entries
stay in the set. -/
structure Agree (s s' : Store) (R : EntryId → Prop) : Prop where
  get?_eq : ∀ {id}, R id → s'.get? id = s.get? id
  within : ∀ {id e}, R id → s.get? id = some e → e.Within R

namespace Agree

variable {s s' : Store} {R : EntryId → Prop}

/-- A look-up in the set has the same result. -/
lemma lookup_eq (agree : Agree s s' R) {id : EntryId} (h : R id) :
    s'.lookup id = s.lookup id := by
  unfold lookup get
  rw [agree.get?_eq h]

/-! ## Types -/

/-- The look-ahead for a pointer stays in the set. -/
lemma isPointerLikeFrom_eq (agree : Agree s s' R) {seen : List EntryId} {id : EntryId}
    (h : R id) : s'.isPointerLikeFrom seen id = s.isPointerLikeFrom seen id := by
  induction seen, id using resolveFrom.induct s with
  | case1 seen id old => rw [Store.isPointerLikeFrom_eq, Store.isPointerLikeFrom_eq s, if_pos old,
      if_pos old]
  | case2 seen id fresh missing =>
    rw [Store.isPointerLikeFrom_eq, Store.isPointerLikeFrom_eq s, if_neg fresh, if_neg fresh,
      agree.lookup_eq h, lookup_of_missing missing]
    rfl
  | case3 seen id fresh e he ih =>
    rw [Store.isPointerLikeFrom_eq, Store.isPointerLikeFrom_eq s, if_neg fresh, if_neg fresh,
      agree.lookup_eq h, lookup_eq_ok_iff.2 he]
    refine bind_congr_of_ok fun e' same => ?_
    cases Except.ok.inj same
    congr 1
    congr 1
    refine bind_congr_of_ok fun target type => ?_
    cases target with
    | none => rfl
    | some t => exact ih t ((agree.within h he).type type)

/-- The subranges of an array whose children are in the set are the same. -/
lemma subranges_eq (agree : Agree s s' R) {e : Entry} (h : ∀ c ∈ e.children, R c) :
    s'.subranges e = s.subranges e := by
  unfold subranges
  rw [mapM_congr_of_mem fun c hc => agree.lookup_eq (h c hc)]

/-- The type of the target of an entry depends on the type at the target only. -/
lemma targetType_eq {e : Entry} {typeAt typeAt' : EntryId → Except Defect CType}
    (same : ∀ t, e.reference .type = .ok (some t) → typeAt' t = typeAt t) :
    targetType typeAt' e = targetType typeAt e := by
  unfold targetType
  refine bind_congr_of_ok fun target type => ?_
  cases target with
  | none => rfl
  | some t => exact same t type

/-- The type of an array is the same when that of its elements is. -/
lemma arrayType_eq (agree : Agree s s' R) {e : Entry}
    {typeAt typeAt' : EntryId → Except Defect CType} (children : ∀ c ∈ e.children, R c)
    (same : ∀ t, e.reference .type = .ok (some t) → typeAt' t = typeAt t) :
    s'.arrayType typeAt' e = s.arrayType typeAt e := by
  unfold arrayType
  rw [agree.subranges_eq children]
  refine bind_congr_of_ok fun rs _ => ?_
  by_cases several : rs.length > 1
  · simp only [if_pos several]
    rfl
  · simp only [if_neg several]
    refine bind_congr_of_ok fun target type => ?_
    cases target with
    | none => rfl
    | some t => simp only [same t type]

/-- The type of an entry is the same when that of its target is. -/
lemma typeOf_eq (agree : Agree s s' R) {e : Entry}
    {typeAt typeAt' : EntryId → Except Defect CType} (h : e.Within R)
    (same : ∀ t, e.reference .type = .ok (some t) → typeAt' t = typeAt t) :
    s'.typeOf typeAt' e = s.typeOf typeAt e := by
  unfold typeOf
  cases tag : e.tag with
  | constType => rw [targetType_eq same]
  | volatileType => rw [targetType_eq same]
  | pointerType => rw [targetType_eq same]
  | arrayType => exact agree.arrayType_eq (fun c => h.child tag) same
  | restrictType =>
    -- the look-ahead starts at the same target as the walk
    refine bind_congr_of_ok fun target type => ?_
    have ahead : s'.isPointerLike target = s.isPointerLike target := by
      cases target with
      | none => rfl
      | some t => exact agree.isPointerLikeFrom_eq (h.type type)
    rw [ahead, targetType_eq same]
  | _ => rfl

/-- The walk along the references of a type stays in the set. -/
lemma resolveFrom_eq (agree : Agree s s' R) {path : List EntryId} {id : EntryId} (h : R id) :
    s'.resolveFrom path id = s.resolveFrom path id := by
  induction path, id using resolveFrom.induct s with
  | case1 path id old =>
    rw [Store.resolveFrom_eq, Store.resolveFrom_eq s, if_pos old, if_pos old]
  | case2 path id fresh missing =>
    rw [Store.resolveFrom_eq, Store.resolveFrom_eq s, if_neg fresh, if_neg fresh,
      agree.lookup_eq h, lookup_of_missing missing]
    rfl
  | case3 path id fresh e he ih =>
    have he' : s'.get? id = some e := (agree.get?_eq h).trans he
    rw [resolveFrom_of_fresh fresh he, resolveFrom_of_fresh fresh he']
    have within := agree.within h he
    exact agree.typeOf_eq within fun t type => ih t (within.type type)

/-! ## Origins -/

/-- The search for an attribute along origins stays in the set. -/
lemma carrierFrom_eq (agree : Agree s s' R) {a : Attr} {links : Nat} {visited : List EntryId}
    {e : Entry} (h : e.Within R) :
    s'.carrierFrom a links visited e = s.carrierFrom a links visited e := by
  induction links generalizing visited e with
  | zero =>
    rw [Store.carrierFrom_zero, Store.carrierFrom_zero]
  | succ links ih =>
    rw [Store.carrierFrom_succ, Store.carrierFrom_succ]
    congr 1
    refine bind_congr_of_ok fun target origin => ?_
    cases target with
    | none => rfl
    | some id =>
      have inside := h.origin origin
      simp only [agree.lookup_eq inside]
      congr 1
      refine bind_congr_of_ok fun o found => ?_
      exact ih (agree.within inside (lookup_eq_ok_iff.1 found))

/-- What the search for an attribute finds has its references in the set. -/
lemma within_of_carrierFrom (agree : Agree s s' R) {a : Attr} {links : Nat}
    {visited : List EntryId} {e c : Entry} (h : e.Within R)
    (found : s.carrierFrom a links visited e = .ok (some c)) : c.Within R := by
  induction links generalizing visited e with
  | zero =>
    rw [Store.carrierFrom_zero] at found
    split at found
    case isTrue => cases Except.ok.inj found; exact h
    case isFalse =>
      obtain ⟨_ | id, -, found⟩ := bind_eq_ok_iff.1 found
      · cases Except.ok.inj found
      · simp at found
  | succ links ih =>
    rw [Store.carrierFrom_succ] at found
    split at found
    case isTrue => cases Except.ok.inj found; exact h
    case isFalse =>
      obtain ⟨_ | id, origin, found⟩ := bind_eq_ok_iff.1 found
      · cases Except.ok.inj found
      · simp only at found
        split at found
        case isTrue => simp at found
        case isFalse =>
          obtain ⟨o, ho, found⟩ := bind_eq_ok_iff.1 found
          exact ih (agree.within (h.origin origin) (lookup_eq_ok_iff.1 ho)) found

/-- The value of an attribute, own or inherited, is the same. -/
lemma inherited_eq (agree : Agree s s' R) {a : Attr} {e : Entry} (h : e.Within R) :
    s'.inherited a e = s.inherited a e := by
  unfold inherited carrier
  rw [agree.carrierFrom_eq h]

/-- The type of an entry, own or inherited, is the same. -/
lemma inheritedType_eq (agree : Agree s s' R) {e : Entry} (h : e.Within R) :
    s'.inheritedType e = s.inheritedType e := by
  unfold inheritedType carrier
  rw [agree.carrierFrom_eq h]
  refine bind_congr_of_ok fun carrier found => ?_
  cases carrier with
  | none => rfl
  | some c =>
    refine bind_congr_of_ok fun target type => ?_
    cases target with
    | none => rfl
    | some t =>
      have inside : R t := (agree.within_of_carrierFrom h found).type type
      exact congrArg (· >>= fun d => pure (some d)) (agree.resolveFrom_eq inside)

/-! ## Functions -/

/-- A parameter is the same. -/
lemma parameter_eq (agree : Agree s s' R) {e : Entry} (h : e.Within R) :
    s'.parameter e = s.parameter e := by
  unfold parameter
  rw [agree.inheritedType_eq h, agree.inherited_eq h]

/-- The parameters among children in the set are the same. -/
lemma parametersOf_eq (agree : Agree s s' R) {variadic : Bool} {ids : List EntryId}
    (h : ∀ id ∈ ids, R id) : s'.parametersOf variadic ids = s.parametersOf variadic ids := by
  induction ids generalizing variadic with
  | nil => rfl
  | cons id ids ih =>
    have inside := h id List.mem_cons_self
    have rest : ∀ dots, s'.parametersOf dots ids = s.parametersOf dots ids :=
      fun dots => ih fun c hc => h c (List.mem_cons_of_mem id hc)
    unfold parametersOf
    rw [agree.lookup_eq inside]
    refine bind_congr_of_ok fun child found => ?_
    rw [agree.parameter_eq (agree.within inside (lookup_eq_ok_iff.1 found))]
    simp only [rest]

/-- A function with its references and its children in the set has the same signature. -/
lemma signature_eq (agree : Agree s s' R) {e : Entry} (h : e.Within R)
    (children : ∀ c ∈ e.children, R c) : s'.signature e = s.signature e := by
  unfold signature
  simp only [agree.inherited_eq h, agree.inheritedType_eq h, agree.parametersOf_eq children]

/-- The name under which a failure is filed is the same. -/
lemma failureName_eq (agree : Agree s s' R) {e : Entry} (h : e.Within R) :
    s'.failureName e = s.failureName e := by
  unfold failureName
  cases e.name? with
  | some name => rfl
  | none =>
    cases value : e.attr .specification with
    | none => rfl
    | some v =>
      cases v with
      | ref t => exact congrArg (·.bind Entry.name?) (agree.get?_eq (h.reference (by decide) value))
      | _ => rfl

/-- A function with its references and its children in the set comes to the same outcome. -/
lemma outcome_eq (agree : Agree s s' R) {e : Entry} (h : e.Within R)
    (children : ∀ c ∈ e.children, R c) (unit : String) :
    s'.outcome unit e = s.outcome unit e := by
  unfold outcome
  rw [agree.signature_eq h children, agree.failureName_eq h]

end Agree

end Store

end Prototyper
