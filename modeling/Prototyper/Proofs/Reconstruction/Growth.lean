import Prototyper.Proofs.Entry.History
import Prototyper.Proofs.Extraction.Footprint
import Prototyper.Proofs.Reconstruction.Inheritance
import Prototyper.Proofs.Resolution.Denotation

/-!
# Growing stores

What a store says of a type or a function stays when entries are added to it, unless the store said
that an entry was missing. `Survives` relates a result to that in a larger store. It is kept at each
bind, so a walk has it because its look-ups do. Where nothing but the order of the entries differs,
the results are the same in any case.
-/

namespace Prototyper

namespace Store

/-- A result is the same in a larger store, unless it is an entry that is missing. -/
def Survives {α : Type} (x x' : Except Defect α) : Prop :=
  x' = x ∨ ∃ id, x = .error (.unknownEntry id)

namespace Survives

variable {α β : Type} {x x' : Except Defect α}

/-- An outcome survives as itself. -/
lemma refl (x : Except Defect α) : Survives x x :=
  .inl rfl

/-- A computation survives when its first step does and the rest does with what the step gives. -/
lemma bind {f f' : α → Except Defect β} (first : Survives x x')
    (rest : ∀ a, x = .ok a → Survives (f a) (f' a)) : Survives (x >>= f) (x' >>= f') := by
  obtain rfl | ⟨id, rfl⟩ := first
  · cases x' with
    | error d => exact .refl _
    | ok a => exact rest a rfl
  · exact .inr ⟨id, rfl⟩

/-- What would follow a defect makes no difference. -/
lemma throw {d : Defect} {f f' : α → Except Defect β} :
    Survives (MonadExcept.throw d >>= f) (MonadExcept.throw d >>= f') :=
  .inl rfl

/-- A list of outcomes survives if each of them does. -/
lemma mapM {f f' : α → Except Defect β} {as : List α} (each : ∀ a ∈ as, Survives (f a) (f' a)) :
    Survives (as.mapM f) (as.mapM f') := by
  induction as with
  | nil => exact .refl _
  | cons a as ih =>
    rw [List.mapM_cons, List.mapM_cons]
    refine (each a List.mem_cons_self).bind fun b _ => ?_
    exact (ih fun c hc => each c (List.mem_cons_of_mem a hc)).bind fun bs _ => .refl _

/-- A condition that does not depend on the store decides between two computations. -/
lemma ite {c : Prop} [Decidable c] {y y' : Except Defect α} (first : Survives x x')
    (second : Survives y y') : Survives (if c then x else y) (if c then x' else y') := by
  by_cases h : c
  · rw [if_pos h, if_pos h]
    exact first
  · rw [if_neg h, if_neg h]
    exact second

/-- An outcome that is not an unknown entry survives unchanged. -/
lemma eq (h : Survives x x') (known : ∀ id, x ≠ .error (.unknownEntry id)) : x' = x := by
  obtain same | ⟨id, missing⟩ := h
  · exact same
  · exact absurd missing (known id)

end Survives

namespace Extends

variable {s s' : Store}

/-- An entry that is found is found in a larger store. -/
lemma lookup (h : s'.Extends s) (id : EntryId) : Survives (s.lookup id) (s'.lookup id) := by
  cases found : s.get? id with
  | none => exact .inr ⟨id, lookup_of_missing found⟩
  | some e =>
    refine .inl ?_
    rw [lookup_eq_ok_iff.2 found, lookup_eq_ok_iff.2 (h found)]

/-! ## Types -/

/-- The look-ahead for a pointer survives, wherever it has come to. -/
lemma isPointerLikeFrom (h : s'.Extends s) (seen : List EntryId) (id : EntryId) :
    Survives (s.isPointerLikeFrom seen id) (s'.isPointerLikeFrom seen id) := by
  induction seen, id using resolveFrom.induct s with
  | case1 seen id old =>
    rw [isPointerLikeFrom_eq, isPointerLikeFrom_eq s', if_pos old, if_pos old]
    exact .refl _
  | case2 seen id fresh missing =>
    rw [isPointerLikeFrom_eq, if_neg fresh, lookup_of_missing missing]
    exact .inr ⟨id, rfl⟩
  | case3 seen id fresh e he ih =>
    rw [isPointerLikeFrom_eq, isPointerLikeFrom_eq s', if_neg fresh, if_neg fresh]
    refine (h.lookup id).bind fun e' found => ?_
    cases he.symm.trans (lookup_eq_ok_iff.1 found)
    refine .ite (.refl _) (.ite ?_ (.refl _))
    refine (Survives.refl _).bind fun target _ => ?_
    cases target with
    | none => exact .refl _
    | some t => exact ih t

/-- The look-ahead for a pointer survives. -/
lemma isPointerLike (h : s'.Extends s) (target : Option EntryId) :
    Survives (s.isPointerLike target) (s'.isPointerLike target) := by
  cases target with
  | none => exact .refl _
  | some id => exact h.isPointerLikeFrom [] id

/-- The subranges of an array survive. -/
lemma subranges (h : s'.Extends s) (e : Entry) : Survives (s.subranges e) (s'.subranges e) :=
  (Survives.mapM fun c _ => h.lookup c).bind fun _ _ => .refl _

section

variable {typeAt typeAt' : EntryId → Except Defect CType}

/-- The type of a target survives if the types of entries do. -/
lemma targetType (ih : ∀ t, Survives (typeAt t) (typeAt' t)) (e : Entry) :
    Survives (Store.targetType typeAt e) (Store.targetType typeAt' e) := by
  refine (Survives.refl _).bind fun target _ => ?_
  cases target with
  | none => exact .refl _
  | some t => exact ih t

/-- The type of an array survives if the types of entries do. -/
lemma arrayType (h : s'.Extends s) (ih : ∀ t, Survives (typeAt t) (typeAt' t)) (e : Entry) :
    Survives (s.arrayType typeAt e) (s'.arrayType typeAt' e) := by
  refine (h.subranges e).bind fun subranges _ => ?_
  refine .ite .throw ?_
  refine (Survives.refl _).bind fun target _ => ?_
  cases target with
  | none => exact .refl _
  | some t => exact (ih t).bind fun element _ => .refl _

/-- The type of an entry survives if those of the entries do to which it refers. -/
lemma typeOf (h : s'.Extends s) (ih : ∀ t, Survives (typeAt t) (typeAt' t)) (e : Entry) :
    Survives (s.typeOf typeAt e) (s'.typeOf typeAt' e) := by
  unfold Store.typeOf
  cases e.tag with
  | constType => exact (targetType ih e).bind fun _ _ => .refl _
  | volatileType => exact (targetType ih e).bind fun _ _ => .refl _
  | pointerType => exact (targetType ih e).bind fun _ _ => .refl _
  | arrayType => exact h.arrayType ih e
  | restrictType =>
    refine (Survives.refl _).bind fun target _ => ?_
    refine (h.isPointerLike target).bind fun pointer _ => ?_
    cases pointer with
    | false => exact .refl _
    | true => exact (targetType ih e).bind fun _ _ => .refl _
  | _ => exact .refl _

end

/-- Resolution survives, wherever it has come to. -/
lemma resolveFrom (h : s'.Extends s) (path : List EntryId) (id : EntryId) :
    Survives (s.resolveFrom path id) (s'.resolveFrom path id) := by
  induction path, id using resolveFrom.induct s with
  | case1 path id old =>
    rw [resolveFrom_eq, resolveFrom_eq s', if_pos old, if_pos old]
    exact .refl _
  | case2 path id fresh missing =>
    rw [resolveFrom_eq, if_neg fresh, lookup_of_missing missing]
    exact .inr ⟨id, rfl⟩
  | case3 path id fresh e he ih =>
    rw [resolveFrom_of_fresh fresh he, resolveFrom_of_fresh fresh (h he)]
    exact h.typeOf ih e

/-! ## Functions -/

/-- The search for an attribute survives, wherever it has come to. -/
lemma carrierFrom (h : s'.Extends s) (a : Attr) (links : Nat) (visited : List EntryId) (e : Entry) :
    Survives (s.carrierFrom a links visited e) (s'.carrierFrom a links visited e) := by
  induction links generalizing visited e with
  | zero =>
    rw [carrierFrom_zero, carrierFrom_zero]
    exact .refl _
  | succ links ih =>
    rw [carrierFrom_succ, carrierFrom_succ]
    refine .ite (.refl _) ?_
    refine (Survives.refl _).bind fun target _ => ?_
    cases target with
    | none => exact .refl _
    | some id => exact .ite (.refl _) ((h.lookup id).bind fun o _ => ih (id :: visited) o)

/-- The value of an attribute survives. -/
lemma inherited (h : s'.Extends s) (a : Attr) (e : Entry) :
    Survives (s.inherited a e) (s'.inherited a e) :=
  (h.carrierFrom a _ _ e).bind fun _ _ => .refl _

/-- The type of an entry survives. -/
lemma inheritedType (h : s'.Extends s) (e : Entry) :
    Survives (s.inheritedType e) (s'.inheritedType e) := by
  refine (h.carrierFrom .type _ _ e).bind fun carrier _ => ?_
  cases carrier with
  | none => exact .refl _
  | some c =>
    refine (Survives.refl _).bind fun target _ => ?_
    cases target with
    | none => exact .refl _
    | some t => exact (h.resolveFrom [] t).bind fun _ _ => .refl _

/-- A parameter survives. -/
lemma parameter (h : s'.Extends s) (e : Entry) : Survives (s.parameter e) (s'.parameter e) := by
  refine (h.inheritedType e).bind fun type _ => ?_
  cases type with
  | none => exact .refl _
  | some type => exact (h.inherited .name e).bind fun _ _ => .refl _

/-- A list of parameters survives. -/
lemma parametersOf (h : s'.Extends s) (variadic : Bool) (ids : List EntryId) :
    Survives (s.parametersOf variadic ids) (s'.parametersOf variadic ids) := by
  induction ids generalizing variadic with
  | nil => exact .refl _
  | cons id ids ih =>
    refine (h.lookup id).bind fun child _ => ?_
    cases child.tag with
    | formalParameter =>
      refine .ite .throw ?_
      refine (h.parameter child).bind fun p _ => ?_
      exact (ih variadic).bind fun _ _ => .refl _
    | unspecifiedParameters => exact .ite .throw (ih true)
    | _ => exact ih variadic

/-- The signature of an entry survives. -/
lemma signature (h : s'.Extends s) (e : Entry) : Survives (s.signature e) (s'.signature e) := by
  refine .ite .throw ?_
  refine (h.inherited .name e).bind fun name _ => ?_
  cases name.bind Value.string? with
  | none => exact .refl _
  | some name =>
    refine (h.inheritedType e).bind fun _ _ => ?_
    refine (h.parametersOf false e.children).bind fun _ _ => ?_
    refine (h.inherited .inline e).bind fun _ _ => ?_
    refine (h.inherited .external e).bind fun _ _ => ?_
    refine (h.inherited .declFile e).bind fun _ _ => ?_
    exact (h.inherited .declLine e).bind fun _ _ => .refl _

/-- The signature of an identifier survives. -/
lemma signatureAt (h : s'.Extends s) (id : EntryId) :
    Survives (s.signatureAt id) (s'.signatureAt id) :=
  (h.lookup id).bind fun e _ => h.signature e

end Extends

/-! ## Insertions -/

/-- Insertions do not fill a store anew, whether they are refused or not. -/
lemma extends_insertions (s : Store) (es : List Entry) :
    (s.afterAll (es.map .insert)).Extends s := by
  refine extends_afterAll (fun call hcall => ?_) s
  obtain ⟨e, -, rfl⟩ := List.mem_map.1 hcall
  rintro ⟨es, ⟨⟩, -⟩

/-- Stores with the same entries agree, in whichever order they have them. -/
lemma agree_of_perm {s s' : Store} (same : s'.toList.Perm s.toList) :
    Agree s s' fun _ => True where
  get?_eq := by
    intro id _
    ext e
    rw [get?_eq_some_iff, get?_eq_some_iff, same.mem_iff]
  within := fun _ _ _ _ => trivial

/-- Inserting entries, accepted or refused, changes no type and no signature, unless an entry was
missing for it. Two stores with the same entries have the same types and signatures, in whichever
order the entries were inserted. -/
theorem results_afterAll_insert (s : Store) (es : List Entry) :
    (∀ id, (∀ x, s.resolve id ≠ .error (.unknownEntry x)) →
      (s.afterAll (es.map .insert)).resolve id = s.resolve id) ∧
    (∀ id, (∀ x, s.signatureAt id ≠ .error (.unknownEntry x)) →
      (s.afterAll (es.map .insert)).signatureAt id = s.signatureAt id) ∧
    ∀ s' : Store, s'.toList.Perm s.toList →
      ∀ id, s'.resolve id = s.resolve id ∧ s'.signatureAt id = s.signatureAt id := by
  have grown := extends_insertions s es
  refine ⟨fun id known => ?_, fun id known => ?_, fun s' same id => ⟨?_, ?_⟩⟩
  · exact (grown.resolveFrom [] id).eq known
  · exact (grown.signatureAt id).eq known
  · exact (agree_of_perm same).resolveFrom_eq trivial
  · have agree := agree_of_perm same
    unfold signatureAt
    rw [agree.lookup_eq trivial]
    exact bind_congr_of_ok fun e _ => agree.signature_eq (fun _ _ => trivial) fun _ _ => trivial

/-- A function without a name at `<0x10>`. -/
def unnamedFunction : Entry :=
  ⟨⟨0x10⟩, .subprogram, .ofList [(.type, .ref ⟨0x20⟩)], []⟩

/-- A function with a name at `<0x18>`. -/
def namedFunction : Entry :=
  ⟨⟨0x18⟩, .subprogram, .ofList [(.name, .string "f")], []⟩

/-- The type `int` stays when `long` is refused for its identifier, and the function stays without a
name when another one is inserted. -/
theorem results_afterAll_insert_intType :
    ∃ s s', ofList [intType, unnamedFunction] = .ok s ∧ ofList [unnamedFunction, intType] = .ok s' ∧
      (s.afterAll [.insert longType, .insert namedFunction]).resolve ⟨0x20⟩ =
        .ok (.leaf [] (.base "int")) ∧
      (s.afterAll [.insert longType, .insert namedFunction]).signatureAt ⟨0x10⟩ =
        .error (.missingName ⟨0x10⟩) ∧
      s'.resolve ⟨0x20⟩ = .ok (.leaf [] (.base "int")) ∧
      s'.signatureAt ⟨0x10⟩ = .error (.missingName ⟨0x10⟩) := by
  obtain ⟨s, made, list⟩ :=
    ofList_of_nodup (show ([intType, unnamedFunction].map Entry.id).Nodup by decide)
  obtain ⟨s', made', list'⟩ :=
    ofList_of_nodup (show ([unnamedFunction, intType].map Entry.id).Nodup by decide)
  have found : ∀ id, s.get? id = [intType, unnamedFunction].find? fun e => e.id == id :=
    fun id => by rw [get?_eq_find?, list]
  have type : s.resolve ⟨0x20⟩ = .ok (.leaf [] (.base "int")) :=
    Denotes.resolve (.base (found _) rfl rfl)
  have function : s.signatureAt ⟨0x10⟩ = .error (.missingName ⟨0x10⟩) := by
    have noName : s.inherited .name unnamedFunction = .ok none :=
      inherited_eq_ok_iff.2 (inherits_of_noOrigin rfl)
    refine bind_eq_error_iff.2 (.inr ⟨unnamedFunction, lookup_eq_ok_iff.2 (found _), ?_⟩)
    exact bind_eq_error_iff.2 (.inr ⟨none, noName, rfl⟩)
  obtain ⟨types, functions, orders⟩ :=
    results_afterAll_insert s [longType, namedFunction]
  obtain ⟨type', function'⟩ := orders s' (list ▸ list' ▸ List.Perm.swap _ _ _) ⟨0x20⟩
  refine ⟨s, s', made, made', ?_, ?_, ?_, ?_⟩
  · exact (types _ (by simp [type])).trans type
  · exact (functions _ (by simp [function])).trans function
  · exact type'.trans type
  · exact (orders s' (list ▸ list' ▸ List.Perm.swap _ _ _) ⟨0x10⟩).2.trans function

end Store

end Prototyper
