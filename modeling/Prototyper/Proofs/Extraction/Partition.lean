import Mathlib.Data.List.Nodup
import Prototyper.Proofs.Extraction.Selection

/-!
# Reports as partitions

A report deals functions out to two lists. `Partitions` says what that means: in the order of the
functions, those with a signature make up the prototypes and the others the failures, and each
function is in one of the lists, once. `ofUnits_partitions` says that every report is made up of
such parts, one for each unit, that a part deals out the entries of the unit that `Store.Reports`
describes, and what becomes of a part when declarations do not count.
-/

namespace Prototyper

/-- The prototype of a function, under the label of its unit. -/
structure Store.PrototypeOf (s : Store) (unit : String) (f : Entry) (p : Prototype) : Prop where
  signature : s.signature f = .ok p.signature
  entry : p.signature.entry = f.id
  unit : p.unit = unit
  name : p.name = p.signature.name
  declaration : p.declaration = p.signature.text

/-- The failure of a function, under the label of its unit. -/
structure Store.FailureOf (s : Store) (unit : String) (f : Entry) (x : Failure) : Prop where
  defect : s.signature f = .error x.defect
  entry : x.entry = f.id
  unit : x.unit = unit

/-- The entry with an identifier has a declaration flag of its own that is set. -/
def Store.Declares (s : Store) (id : EntryId) : Prop :=
  ∃ e ∈ s.toList, e.id = id ∧ Value.IsSet (e.attr .declaration)

instance (s : Store) (id : EntryId) : Decidable (s.Declares id) :=
  inferInstanceAs (Decidable (∃ e ∈ s.toList, _))

/-- A report deals functions out to its two lists in their order, each of them to one list. -/
structure Report.Partitions (r : Report) (unit : String) (s : Store) (functions : List Entry) :
    Prop where
  prototypes : List.Forall₂ (s.PrototypeOf unit) (functions.filter fun f => (s.signature f).isOk)
    r.prototypes
  failures : List.Forall₂ (s.FailureOf unit) (functions.filter fun f => !(s.signature f).isOk)
    r.failures
  once : ∀ f ∈ functions, r.prototypes.countP (fun p => p.signature.entry = f.id) +
    r.failures.countP (fun x => x.entry = f.id) = 1

/-! ## Outcomes -/

/-- What a function gives for the members of a list that pass a test, and only for those, is related
to them one by one. -/
lemma forall₂_filterMap {α β : Type} {R : α → β → Prop} {p : α → Bool} {g : α → Option β}
    (given : ∀ a, p a = true → ∃ b, g a = some b ∧ R a b) (other : ∀ a, p a = false → g a = none)
    (l : List α) : List.Forall₂ R (l.filter p) (l.filterMap g) := by
  induction l with
  | nil => exact .nil
  | cons a l ih =>
    cases passes : p a with
    | true =>
      obtain ⟨b, hb, related⟩ := given a passes
      rw [List.filter_cons_of_pos passes, List.filterMap_cons_some hb]
      exact .cons related ih
    | false =>
      rw [List.filter_cons_of_neg (by simp [passes]), List.filterMap_cons_none (other a passes)]
      exact ih

namespace Store

/-- A function with a signature has a prototype. -/
lemma outcome_of_ok {s : Store} {f : Entry} (ok : (s.signature f).isOk = true) (unit : String) :
    ∃ p, s.outcome unit f = .ok p ∧ s.PrototypeOf unit f p := by
  unfold outcome
  cases h : s.signature f with
  | ok sig => exact ⟨_, rfl, ⟨h, (describes_of_signature h).entry, rfl, rfl, rfl⟩⟩
  | error d => rw [h] at ok; cases ok

/-- A function without a signature has a failure. -/
lemma outcome_of_error {s : Store} {f : Entry} (fails : (s.signature f).isOk = false)
    (unit : String) : ∃ x, s.outcome unit f = .error x ∧ s.FailureOf unit f x := by
  unfold outcome
  cases h : s.signature f with
  | ok sig => rw [h] at fails; cases fails
  | error d => exact ⟨_, rfl, ⟨h, rfl, rfl⟩⟩

/-- A function is selected once at most. -/
lemma nodup_selected (s : Store) (declarations : Bool) :
    ((s.selected declarations).map Entry.id).Nodup := by
  have sublist : (s.selected declarations).Sublist s.toList :=
    List.filter_sublist.trans List.filter_sublist
  exact s.nodup_ids.sublist (sublist.map Entry.id)

/-- The declaration flag that an identifier stands for is that of its entry. -/
lemma declares_id_iff {s : Store} {f : Entry} (hf : f ∈ s.toList) :
    s.Declares f.id ↔ Value.IsSet (f.attr .declaration) := by
  constructor
  · rintro ⟨e, he, same, set⟩
    cases eq_of_id_eq he hf same
    exact set
  · exact fun set => ⟨f, hf, rfl, set⟩

/-- Without declarations, the functions are selected that have no declaration flag of their own. -/
lemma selected_false (s : Store) :
    s.selected false = (s.selected true).filter fun f => ¬ s.Declares f.id := by
  rw [selected_eq_filter, selected_eq_filter, List.filter_filter]
  refine List.filter_congr fun f hf => ?_
  rw [Bool.eq_iff_iff, Bool.and_eq_true, decide_eq_true_iff, decide_eq_true_iff,
    decide_eq_true_iff, declares_id_iff hf]
  simp only [Reports, Bool.false_eq_true, false_or, true_or, and_true]
  tauto

end Store

namespace Report

/-- The two lists of a report hold as many outcomes for an entry as there are. -/
lemma countP_ofOutcomes (outcomes : List (Except Failure Prototype)) (id : EntryId) :
    (ofOutcomes outcomes).prototypes.countP (fun p => p.signature.entry = id) +
        (ofOutcomes outcomes).failures.countP (fun x => x.entry = id) =
      (outcomes.map outcomeEntry).count id := by
  induction outcomes with
  | nil => rfl
  | cons o outcomes ih =>
    rw [List.map_cons, List.count_cons, ← ih]
    cases o with
    | ok p =>
      change (p :: (ofOutcomes outcomes).prototypes).countP _ +
        (ofOutcomes outcomes).failures.countP _ = _
      rw [List.countP_cons, outcomeEntry]
      simp only [decide_eq_true_eq, beq_iff_eq]
      omega
    | error x =>
      change (ofOutcomes outcomes).prototypes.countP _ +
        (x :: (ofOutcomes outcomes).failures).countP _ = _
      rw [List.countP_cons, outcomeEntry]
      simp only [decide_eq_true_eq, beq_iff_eq]
      omega

/-- The report of a store deals out the selected functions. -/
lemma partitions_ofStore (unit : String) (s : Store) (declarations : Bool) :
    (ofStore unit s declarations).Partitions unit s (s.selected declarations) where
  prototypes := by
    simp only [ofStore, ofOutcomes, List.filterMap_map]
    refine forall₂_filterMap (fun f ok => ?_) (fun f fails => ?_) _
    · obtain ⟨p, outcome, prototype⟩ := Store.outcome_of_ok ok unit
      exact ⟨p, by rw [Function.comp_apply, outcome]; rfl, prototype⟩
    · obtain ⟨x, outcome, -⟩ := Store.outcome_of_error fails unit
      rw [Function.comp_apply, outcome]
      rfl
  failures := by
    simp only [ofStore, ofOutcomes, List.filterMap_map]
    refine forall₂_filterMap (fun f fails => ?_) (fun f ok => ?_) _
    · obtain ⟨x, outcome, failure⟩ := Store.outcome_of_error (by simpa using fails) unit
      exact ⟨x, by rw [Function.comp_apply, outcome]; rfl, failure⟩
    · obtain ⟨p, outcome, -⟩ := Store.outcome_of_ok (by simpa using ok) unit
      rw [Function.comp_apply, outcome]
      rfl
  once := by
    intro f hf
    unfold ofStore
    rw [countP_ofOutcomes, List.map_map]
    -- an outcome is about the entry it comes from, and no two functions share an identifier
    have ids : outcomeEntry ∘ s.outcome unit = Entry.id :=
      funext fun e => Store.outcomeEntry_outcome s unit e
    rw [ids]
    exact List.count_eq_one_of_mem (s.nodup_selected declarations) (List.mem_map_of_mem hf)

/-- Without declarations, a report lacks what it has for entries that only declare functions. -/
lemma ofStore_false (unit : String) (s : Store) :
    ofStore unit s false = (ofStore unit s true).restrict fun id => ¬ s.Declares id := by
  unfold ofStore
  rw [restrict_ofOutcomes, List.filter_map, Store.selected_false]
  congr 2
  refine List.filter_congr fun f _ => ?_
  rw [Function.comp_apply, Store.outcomeEntry_outcome]

/-- The report of several units has the prototypes of each unit, one unit after the other. -/
lemma prototypes_ofUnits (units : List CompilationUnit) (declarations : Bool) :
    (ofUnits units declarations).prototypes =
      units.flatMap fun u => (ofStore u.label u.store declarations).prototypes := by
  induction units with
  | nil => rfl
  | cons u units ih => rw [List.flatMap_cons, ← ih]; rfl

/-- The report of several units has the failures of each unit, one unit after the other. -/
lemma failures_ofUnits (units : List CompilationUnit) (declarations : Bool) :
    (ofUnits units declarations).failures =
      units.flatMap fun u => (ofStore u.label u.store declarations).failures := by
  induction units with
  | nil => rfl
  | cons u units ih => rw [List.flatMap_cons, ← ih]; rfl

/-- The report of several units is made up of their reports, one after the other. Each deals out the
entries of the unit that are functions to report, in their order, and without declarations it is the
same report, less what is about entries with a declaration flag of their own. -/
theorem ofUnits_partitions (units : List CompilationUnit) (declarations : Bool) :
    (ofUnits units declarations).prototypes =
        units.flatMap (fun u => (ofStore u.label u.store declarations).prototypes) ∧
      (ofUnits units declarations).failures =
        units.flatMap (fun u => (ofStore u.label u.store declarations).failures) ∧
      ∀ u ∈ units,
        (ofStore u.label u.store declarations).Partitions u.label u.store
          (u.store.toList.filter fun f => u.store.Reports declarations f) ∧
        ofStore u.label u.store false =
          (ofStore u.label u.store true).restrict fun id => ¬ u.store.Declares id := by
  refine ⟨prototypes_ofUnits units declarations, failures_ofUnits units declarations, ?_⟩
  intro u _
  rw [← Store.selected_eq_filter]
  exact ⟨partitions_ofStore u.label u.store declarations, ofStore_false u.label u.store⟩

end Report

end Prototyper
