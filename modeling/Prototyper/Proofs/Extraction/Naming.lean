import Prototyper.Proofs.Extraction.Selection

/-!
# The names in a report

A function has the name of the nearest entry along its origins that carries one, and its prototype
is reported under it. A failure is filed under a name that is looked for in two places only: the
entry itself and the declaration that it completes. `names_ofStore` says what comes of that. The
failure has the name of the function if the search for it ends there, and if it goes on to further
origins the failure has no name. It never has another one.
-/

namespace Prototyper

/-- An entry that stands for a function but has no name completes what its specification names. -/
lemma Entry.Candidate.originLink {e : Entry} (candidate : e.Candidate)
    (unnamed : e.attr .name = none) : e.originLink = e.attr .specification := by
  rcases candidate with named | ⟨-, noOrigin⟩
  · exact absurd unnamed named
  · rw [Entry.originLink, noOrigin]

namespace Store

variable {s : Store} {e : Entry}

/-- A selected function is found under its identifier. -/
lemma get?_of_selected {declarations : Bool} (selected : e ∈ s.selected declarations) :
    s.get? e.id = some e := by
  exact get?_eq_some_iff.2 ⟨(mem_selected_iff.1 selected).1, rfl⟩

/-- A function with a name of its own fails under it. -/
lemma failureName_of_own {n : String} (own : e.attr .name = some (.string n)) :
    s.failureName e = some n := by
  unfold failureName
  rw [Entry.name?_eq_some_iff.2 own]

/-- Without a name of its own, a function that completes a declaration fails under the name of the
declaration. -/
lemma failureName_of_specification {o : Entry} {id : EntryId} (unnamed : e.attr .name = none)
    (specification : e.attr .specification = some (.ref id)) (ho : s.get? id = some o) :
    s.failureName e = o.name? := by
  have noName : e.name? = none := by rw [Entry.name?, unnamed]; rfl
  unfold failureName
  rw [noName, specification]
  exact congrArg (Option.bind · Entry.name?) ho

/-- The name under which a failure is filed is the one that the function inherits, if that is not
further away than the declaration; else there is none. -/
lemma failureName_eq {line : List Entry} {c : Entry} {n : String} (candidate : e.Candidate)
    (lineage : s.Lineage .name (e :: line) (some c)) (holds : c.attr .name = some (.string n)) :
    s.failureName e = if line.length ≤ 1 then some n else none := by
  cases lineage with
  | carrier => exact failureName_of_own holds
  | leaves unnamed origin ho behind =>
    -- the next entry of the line is the second and last one at which the failure looks for a name
    rw [candidate.originLink unnamed] at origin
    rw [failureName_of_specification unnamed origin ho]
    cases behind with
    | carrier => exact Entry.name?_eq_some_iff.2 holds
    | leaves unnamed' =>
      rw [Entry.name?, unnamed', if_neg (by simp)]
      rfl

end Store

namespace Report

/-- The prototypes of a report are those of the selected functions with a signature. -/
lemma mem_prototypes_iff {unit : String} {s : Store} {declarations : Bool} {p : Prototype} :
    p ∈ (ofStore unit s declarations).prototypes ↔ ∃ e ∈ s.selected declarations, ∃ sig,
      s.signature e = .ok sig ∧ p = ⟨unit, sig.name, sig.text, sig⟩ := by
  simp only [ofStore, ofOutcomes, List.filterMap_map, List.mem_filterMap, Function.comp_apply]
  refine exists_congr fun e => and_congr_right fun _ => ?_
  unfold Store.outcome
  cases s.signature e with
  | ok sig => simp [Except.toOption, eq_comm]
  | error d => simp [Except.toOption]

/-- The failures of a report are those of the selected functions without a signature. -/
lemma mem_failures_iff {unit : String} {s : Store} {declarations : Bool} {x : Failure} :
    x ∈ (ofStore unit s declarations).failures ↔ ∃ e ∈ s.selected declarations, ∃ d,
      s.signature e = .error d ∧ x = ⟨unit, e.id, s.failureName e, d⟩ := by
  simp only [ofStore, ofOutcomes, List.filterMap_map, List.mem_filterMap, Function.comp_apply]
  refine exists_congr fun e => and_congr_right fun _ => ?_
  unfold Store.outcome
  cases s.signature e with
  | ok sig => simp [failure?]
  | error d => simp [failure?, eq_comm]

/-- A selected function without a signature is among the failures. -/
lemma mem_failures {s : Store} {declarations : Bool} {e : Entry} {d : Defect} (unit : String)
    (selected : e ∈ s.selected declarations) (fails : s.signature e = .error d) :
    ⟨unit, e.id, s.failureName e, d⟩ ∈ (ofStore unit s declarations).failures :=
  mem_failures_iff.2 ⟨e, selected, d, fails, rfl⟩

/-- The failure of a function that has a name has the same name, or none if the search for the name
goes on behind the first link. -/
lemma failure_name {s : Store} {declarations : Bool} {e : Entry} {n : String}
    (selected : e ∈ s.selected declarations)
    (named : s.Inherits e .name (some (.string n))) :
    (s.failureName e = some n ↔ s.EndsWithin .name 1 e) ∧
      (s.failureName e = some n ∨ s.failureName e = none) := by
  obtain ⟨-, -, candidate, -⟩ := Store.mem_selected_iff.1 selected
  obtain ⟨c, ⟨line, lineage, -⟩, holds⟩ := Store.inherits_some_iff.1 named
  have ends : s.EndsWithin .name 1 e ↔ line.length ≤ 1 := by
    constructor
    · rintro ⟨line', found, lineage', short⟩
      obtain ⟨⟨⟩, -⟩ := lineage.unique lineage' rfl
      exact short
    · exact fun short => ⟨line, some c, lineage, short⟩
  rw [ends, Store.failureName_eq candidate lineage holds]
  by_cases short : line.length ≤ 1
  · rw [if_pos short]
    exact ⟨iff_of_true rfl short, .inl rfl⟩
  · rw [if_neg short]
    exact ⟨iff_of_false nofun short, .inr rfl⟩

/-- A prototype has the name of its function. A failure of a function that has a name is filed under
that name exactly if the search for it ends at the entry of the function or one link further, and
under no name otherwise. -/
theorem names_ofStore (unit : String) (s : Store) (declarations : Bool) :
    (∀ p ∈ (ofStore unit s declarations).prototypes, ∃ e, s.get? p.signature.entry = some e ∧
      s.Inherits e .name (some (.string p.name))) ∧
    ∀ x ∈ (ofStore unit s declarations).failures, ∀ e n, s.get? x.entry = some e →
      s.Inherits e .name (some (.string n)) →
      (x.name = some n ↔ s.EndsWithin .name 1 e) ∧ (x.name = some n ∨ x.name = none) := by
  constructor
  · intro p hp
    obtain ⟨e, selected, sig, built, rfl⟩ := mem_prototypes_iff.1 hp
    have described := Store.describes_of_signature built
    have own : s.get? sig.entry = some e := described.entry ▸ Store.get?_of_selected selected
    exact ⟨e, own, described.name⟩
  · intro x hx e n entry named
    obtain ⟨f, selected, d, -, rfl⟩ := mem_failures_iff.1 hx
    cases (Store.get?_of_selected selected).symm.trans entry
    exact failure_name selected named

end Report

/-! ## Failing definitions -/

namespace Store

/-- Where declarations count, a candidate among the functions is selected, unless another function
completes it. -/
lemma mem_selected_of_toList {s : Store} {es : List Entry} (list : s.toList = es) {e : Entry}
    (he : e ∈ es) (function : e.tag = .subprogram) (candidate : e.Candidate)
    (free : ∀ f ∈ es, ¬ f.Completes e.id) : e ∈ s.selected true :=
  mem_selected_iff.2 ⟨list ▸ he, function, candidate, list ▸ free, .inl rfl⟩

/-- A function whose type is a number has no usable type. -/
lemma signature_of_numberedType {s : Store} {e : Entry} {n : String} {number : UInt64}
    (function : e.tag = .subprogram) (named : s.Inherits e .name (some (.string n)))
    (type : e.attr .type = some (.unsigned number)) :
    s.signature e = .error (.missingType e.id) := by
  have carrier : s.carrier .type e = .ok (some e) := carrier_of_own (by simp [type])
  have noReference : e.reference .type = .error (.missingType e.id) := by
    unfold Entry.reference
    rw [type]
    rfl
  have untyped : s.inheritedType e = .error (.missingType e.id) :=
    bind_eq_error_iff.2 (.inr ⟨_, carrier, bind_eq_error_iff.2 (.inl noReference)⟩)
  unfold signature
  simp only [function, ne_eq, not_true_eq_false, if_false]
  refine bind_eq_error_iff.2 (.inr ⟨_, inherited_eq_ok_iff.2 named, ?_⟩)
  exact bind_eq_error_iff.2 (.inl untyped)

end Store

/-- A declaration `f` at `<0x10>`, a definition at `<0x20>` that completes it, and a definition at
`<0x30>` that completes the other one. The type of the latter is a number. -/
def completedTwice : List Entry :=
  [⟨⟨0x10⟩, .subprogram, .ofList [(.name, .string "f"), (.declaration, .flag true)], []⟩,
   ⟨⟨0x20⟩, .subprogram, .ofList [(.specification, .ref ⟨0x10⟩)], []⟩,
   ⟨⟨0x30⟩, .subprogram, .ofList [(.specification, .ref ⟨0x20⟩), (.type, .unsigned 4)], []⟩]

/-- A declaration `g` at `<0x10>` and a definition at `<0x20>` that completes it. The type of the
latter is a number. -/
def completedOnce : List Entry :=
  [⟨⟨0x10⟩, .subprogram, .ofList [(.name, .string "g"), (.declaration, .flag true)], []⟩,
   ⟨⟨0x20⟩, .subprogram, .ofList [(.specification, .ref ⟨0x10⟩), (.type, .unsigned 4)], []⟩]

namespace Report

/-- The failure of a definition that completes a declaration has the name of the declaration. -/
theorem names_ofStore_completedOnce :
    ∃ s x, Store.ofList completedOnce = .ok s ∧ x ∈ (ofStore "unit.c" s true).failures ∧
      x.entry = ⟨0x20⟩ ∧ x.name = some "g" := by
  have distinct : (completedOnce.map Entry.id).Nodup := by decide
  obtain ⟨s, made, list⟩ := Store.ofList_of_nodup distinct
  have found := Store.get?_of_toList list
  have lineage : s.Lineage .name completedOnce.reverse (some completedOnce[0]) :=
    .leaves rfl rfl (found _) (.carrier nofun)
  have named : s.Inherits completedOnce[1] .name (some (.string "g")) :=
    ⟨_, ⟨_, lineage, by decide, by decide⟩, rfl⟩
  have selected : completedOnce[1] ∈ s.selected true :=
    Store.mem_selected_of_toList list (by simp [completedOnce]) rfl (by decide) (by decide)
  have fails := Store.signature_of_numberedType rfl named rfl
  have reported := mem_failures "unit.c" selected fails
  obtain ⟨name, -⟩ := (names_ofStore "unit.c" s true).2 _ reported _ _ (found _) named
  exact ⟨s, _, made, reported, rfl, name.2 ⟨_, _, lineage, Nat.le_refl 1⟩⟩

/-- The failure of a definition that completes a definition has no name, though the function has the
name of the declaration. -/
theorem failure_unnamed_completedTwice :
    ∃ s x, Store.ofList completedTwice = .ok s ∧ x ∈ (ofStore "unit.c" s true).failures ∧
      s.get? x.entry = some completedTwice[2] ∧
      s.Inherits completedTwice[2] .name (some (.string "f")) ∧
      s.inherited .name completedTwice[2] = .ok (some (.string "f")) ∧ x.name ≠ some "f" := by
  have distinct : (completedTwice.map Entry.id).Nodup := by decide
  obtain ⟨s, made, list⟩ := Store.ofList_of_nodup distinct
  have found := Store.get?_of_toList list
  have lineage : s.Lineage .name completedTwice.reverse (some completedTwice[0]) :=
    .leaves rfl rfl (found _) (.leaves rfl rfl (found _) (.carrier nofun))
  have named : s.Inherits completedTwice[2] .name (some (.string "f")) :=
    ⟨_, ⟨_, lineage, by decide, by decide⟩, rfl⟩
  have selected : completedTwice[2] ∈ s.selected true :=
    Store.mem_selected_of_toList list (by simp [completedTwice]) rfl (by decide) (by decide)
  have fails := Store.signature_of_numberedType rfl named rfl
  have unnamed : s.failureName completedTwice[2] = none :=
    Store.failureName_of_specification rfl rfl (found ⟨0x20⟩)
  refine ⟨s, _, made, mem_failures "unit.c" selected fails, found _, named,
    Store.inherited_eq_ok_iff.2 named, ?_⟩
  rw [unnamed]
  nofun

end Report

end Prototyper
