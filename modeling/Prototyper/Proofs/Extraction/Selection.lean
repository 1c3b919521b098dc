import Prototyper.Proofs.Reconstruction.Description
import Prototyper.Report.Extraction

/-!
# Which functions a report is about

`Store.Reports` says which functions are reported, by the attributes of entries and by nothing that
the selection of functions uses: one with a name, or with a specification and no abstract origin,
that no function completes, and that is no mere declaration unless declarations count.
`selected_eq_filter` says that these are the functions that are selected, in their order.

Every outcome belongs to the entry of one function: a prototype by its signature, a failure by what
it was filed for. So a report can be read entry by entry, and `mentions_ofStore_iff` says that it is
about exactly the functions that are reported.
-/

namespace Prototyper

namespace Entry

/-- An entry may stand for a function of its own: it has a name, or a specification and no abstract
origin. -/
def Candidate (e : Entry) : Prop :=
  e.attr .name ≠ none ∨ e.attr .specification ≠ none ∧ e.attr .abstractOrigin = none

/-- A function, unless it has an abstract origin, completes what its specification names. -/
def Completes (f : Entry) (t : EntryId) : Prop :=
  f.tag = .subprogram ∧ f.attr .abstractOrigin = none ∧ f.attr .specification = some (.ref t)

instance (e : Entry) : Decidable e.Candidate :=
  inferInstanceAs (Decidable (_ ∨ _ ∧ _))

instance (f : Entry) (t : EntryId) : Decidable (f.Completes t) :=
  inferInstanceAs (Decidable (_ ∧ _ ∧ _))

/-- The candidates are the entries that stand for functions of their own. -/
lemma candidate_iff {e : Entry} : e.Candidate ↔ e.defines = true := by
  unfold Candidate defines hasAttr
  cases e.attr .name <;> cases e.attr .specification <;> cases e.attr .abstractOrigin <;> simp

/-- What a function completes is the target of its specification, unless it has an abstract
origin. -/
lemma completed?_eq_some_iff {e : Entry} {id : EntryId} :
    e.completed? = some id ↔
      e.attr .abstractOrigin = none ∧ e.attr .specification = some (.ref id) := by
  unfold completed? hasAttr
  cases e.attr .abstractOrigin with
  | some v => simp
  | none =>
    cases e.attr .specification with
    | none => simp
    | some v => cases v <;> simp [Value.target?]

/-- A function that completes something is a candidate. -/
lemma Completes.candidate {f : Entry} {t : EntryId} (h : f.Completes t) : f.Candidate := by
  obtain ⟨-, noOrigin, specification⟩ := h
  exact .inr ⟨by simp [specification], noOrigin⟩

end Entry

/-- The functions that are reported: the candidates that no function completes, and among them those
with a declaration flag only if declarations count. -/
def Store.Reports (s : Store) (declarations : Bool) (f : Entry) : Prop :=
  f.tag = .subprogram ∧ f.Candidate ∧ (∀ g ∈ s.toList, ¬ g.Completes f.id) ∧
    (declarations = true ∨ ¬ Value.IsSet (f.attr .declaration))

instance (s : Store) (declarations : Bool) (f : Entry) : Decidable (s.Reports declarations f) :=
  inferInstanceAs (Decidable (_ ∧ _ ∧ _ ∧ _))

/-- The entry of the function that an outcome is about. -/
def outcomeEntry : Except Failure Prototype → EntryId
  | .ok p => p.signature.entry
  | .error f => f.entry

namespace Report

/-- A report has a prototype or a failure for the function with an identifier. -/
def Mentions (r : Report) (id : EntryId) : Prop :=
  (∃ p ∈ r.prototypes, p.signature.entry = id) ∨ ∃ f ∈ r.failures, f.entry = id

/-- The part of a report that is about functions with chosen identifiers. -/
def restrict (r : Report) (keep : EntryId → Bool) : Report :=
  ⟨r.prototypes.filter fun p => keep p.signature.entry, r.failures.filter fun f => keep f.entry⟩

/-- A report of outcomes is about the functions that the outcomes are about. -/
lemma mentions_ofOutcomes_iff {outcomes : List (Except Failure Prototype)} {id : EntryId} :
    (ofOutcomes outcomes).Mentions id ↔ ∃ o ∈ outcomes, outcomeEntry o = id := by
  unfold Mentions ofOutcomes
  simp only [List.mem_filterMap]
  constructor
  · rintro (⟨p, ⟨o, ho, hp⟩, rfl⟩ | ⟨f, ⟨o, ho, hf⟩, rfl⟩)
    · cases o with
      | ok p' => cases hp; exact ⟨_, ho, rfl⟩
      | error f' => cases hp
    · cases o with
      | ok p' => cases hf
      | error f' => cases hf; exact ⟨_, ho, rfl⟩
  · rintro ⟨o, ho, rfl⟩
    cases o with
    | ok p => exact .inl ⟨p, ⟨_, ho, rfl⟩, rfl⟩
    | error f => exact .inr ⟨f, ⟨_, ho, rfl⟩, rfl⟩

/-- A part of a report of outcomes is the report of a part of the outcomes. -/
lemma restrict_ofOutcomes (outcomes : List (Except Failure Prototype)) (keep : EntryId → Bool) :
    (ofOutcomes outcomes).restrict keep =
      ofOutcomes (outcomes.filter fun o => keep (outcomeEntry o)) := by
  unfold restrict ofOutcomes
  congr 1
  · rw [List.filter_filterMap, List.filterMap_filter]
    refine List.filterMap_congr fun o _ => ?_
    cases o with
    | ok p => rfl
    | error f => exact (ite_self none).symm
  · rw [List.filter_filterMap, List.filterMap_filter]
    refine List.filterMap_congr fun o _ => ?_
    cases o with
    | ok p => exact (ite_self none).symm
    | error f => rfl

end Report

namespace Store

/-- The outcome of a function is about the entry of the function. -/
lemma outcomeEntry_outcome (s : Store) (unit : String) (e : Entry) :
    outcomeEntry (s.outcome unit e) = e.id := by
  unfold outcome
  cases h : s.signature e with
  | ok sig => exact (describes_of_signature h).entry
  | error d => rfl

/-- The functions of a store. -/
lemma mem_subprograms_iff {s : Store} {e : Entry} :
    e ∈ s.subprograms ↔ e ∈ s.toList ∧ e.tag = .subprogram := by
  unfold subprograms
  simp

/-- What the selection of functions takes for completed is what some function completes. -/
lemma contains_completed_iff {s : Store} {id : EntryId} :
    s.completed.contains id = true ↔ ∃ f ∈ s.toList, f.Completes id := by
  unfold completed
  simp only [Std.HashSet.contains_ofList, List.contains_iff_mem, List.mem_filterMap,
    mem_subprograms_iff, Entry.completed?_eq_some_iff, and_assoc]
  rfl

/-- The functions that are reported are selected, in the order of the store. -/
lemma selected_eq_filter (s : Store) (declarations : Bool) :
    s.selected declarations = s.toList.filter fun f => s.Reports declarations f := by
  unfold selected subprograms
  rw [List.filter_filter]
  refine List.filter_congr fun f _ => ?_
  have free : s.completed.contains f.id = false ↔ ∀ g ∈ s.toList, ¬ g.Completes f.id := by
    rw [← Bool.not_eq_true, contains_completed_iff, not_exists]
    simp only [not_and]
  have defined : f.flag .declaration = false ↔ ¬ Value.IsSet (f.attr .declaration) := by
    rw [← Entry.flag_eq_true_iff, Bool.not_eq_true]
  rw [Bool.eq_iff_iff, decide_eq_true_iff, Reports, Entry.candidate_iff, ← free, ← defined]
  simp only [isSelected, Bool.and_eq_true, Bool.or_eq_true, Bool.not_eq_true', beq_iff_eq]
  tauto

/-- The selected functions are those of the store that are reported. -/
lemma mem_selected_iff {s : Store} {declarations : Bool} {e : Entry} :
    e ∈ s.selected declarations ↔ e ∈ s.toList ∧ s.Reports declarations e := by
  rw [selected_eq_filter, List.mem_filter, decide_eq_true_iff]

end Store

/-- A report of a store is about the functions that are reported. -/
lemma Report.mentions_ofStore_iff {unit : String} {s : Store} {declarations : Bool}
    {id : EntryId} :
    (ofStore unit s declarations).Mentions id ↔
      ∃ f ∈ s.toList, s.Reports declarations f ∧ f.id = id := by
  unfold ofStore
  rw [mentions_ofOutcomes_iff]
  simp only [List.mem_map, exists_exists_and_eq_and, Store.outcomeEntry_outcome]
  simp only [Store.mem_selected_iff, and_assoc]

end Prototyper
