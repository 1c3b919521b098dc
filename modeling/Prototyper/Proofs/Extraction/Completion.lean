import Mathlib.Data.Set.Finite.Basic
import Mathlib.Dynamics.PeriodicPts.Lemmas
import Mathlib.Logic.Relator
import Prototyper.Proofs.Extraction.Selection

/-!
# Completed declarations

A declaration is left out of a report when a definition completes it, and the definition may itself
be completed. Following these links backwards from a function ends at a selected function, which is
reported, or goes round in a circle. `accounted_iff` says when a function is lost in this way: when
it lies on a cycle of completions that no completion enters from outside.

The first part is about links in general, of which a source has at most one.
-/

namespace Prototyper

/-- A cycle of links none of whose members is the target of a link from outside the cycle. -/
structure IsolatedCycle {α : Type} (link : α → α → Prop) (c : Cycle α) : Prop where
  nodup : c.Nodup
  chain : c.Chain link
  closed : ∀ {a b}, b ∈ c → link a b → a ∈ c

/-- What leads to `e` along links, with `e` itself. -/
abbrev Before {α : Type} (link : α → α → Prop) (e : α) : Type :=
  {a // Relation.ReflTransGen link a e}

section

variable {α : Type} {link : α → α → Prop}

/-- Every member of a chain but the first has a link from another member. -/
lemma exists_link_of_isChain {x b : α} {l : List α} (chain : (x :: l).IsChain link)
    (hb : b ∈ l) : ∃ a ∈ x :: l, link a b := by
  induction l generalizing x with
  | nil => cases hb
  | cons y l ih =>
    obtain ⟨first, rest⟩ := List.isChain_cons_cons.1 chain
    rcases List.mem_cons.1 hb with rfl | hb
    · exact ⟨x, List.mem_cons_self, first⟩
    · obtain ⟨a, ha, h⟩ := ih rest hb
      exact ⟨a, List.mem_cons_of_mem x ha, h⟩

/-- Every member of a cycle has a link from a member. -/
lemma exists_link_of_mem_cycle {c : Cycle α} {b : α} (chain : c.Chain link) (hb : b ∈ c) :
    ∃ a, link a b := by
  induction c using Cycle.induction_on with
  | nil => cases hb
  | cons x l _ =>
    have hb' : b ∈ l ++ [x] := by
      rw [Cycle.mem_coe_iff, List.mem_cons] at hb
      rw [List.mem_append, List.mem_singleton]
      exact hb.symm
    obtain ⟨a, -, h⟩ := exists_link_of_isChain ((Cycle.chain_coe_cons link x l).1 chain) hb'
    exact ⟨a, h⟩

/-- All from which links lead to an isolated cycle is on the cycle. -/
lemma IsolatedCycle.mem_of_reach {c : Cycle α} (isolated : IsolatedCycle link c) {a b : α}
    (hb : b ∈ c) (reach : Relation.ReflTransGen link a b) : a ∈ c := by
  induction reach using Relation.ReflTransGen.head_induction_on with
  | refl => exact hb
  | head h _ ih => exact isolated.closed ih h

/-- What lies on an isolated cycle is not reached from a start of links. -/
lemma IsolatedCycle.exists_link {c : Cycle α} (isolated : IsolatedCycle link c) {a b : α}
    (hb : b ∈ c) (reach : Relation.ReflTransGen link a b) : ∃ d, link d a :=
  exists_link_of_mem_cycle isolated.chain (isolated.mem_of_reach hb reach)

/-- If all that leads to `e` is the target of a link, links go on from all of it, and to a different
target from each. -/
lemma exists_next (unique : Relator.RightUnique link) (finite : {a | ∃ b, link a b}.Finite) {e : α}
    (entered : ∀ a, Relation.ReflTransGen link a e → ∃ d, link d a) :
    Finite (Before link e) ∧
      ∃ next : Before link e → Before link e, next.Injective ∧ ∀ a, link a.1 (next a).1 := by
  have few : Finite (Before link e) := by
    refine Set.Finite.subset (finite.insert e) fun a reach => ?_
    rcases Relation.ReflTransGen.cases_head reach with rfl | ⟨b, h, -⟩
    · exact Set.mem_insert a _
    · exact Set.mem_insert_of_mem e ⟨b, h⟩
  have back : ∀ a : Before link e, ∃ d : Before link e, link d.1 a.1 := by
    rintro ⟨a, reach⟩
    obtain ⟨d, h⟩ := entered a reach
    exact ⟨⟨d, .head h reach⟩, h⟩
  choose previous leads using back
  -- a source has one target, so `previous` is injective, and no member is left without a target
  have injective : previous.Injective := by
    intro a b same
    have hb := leads b
    rw [← same] at hb
    exact Subtype.ext (unique (leads a) hb)
  have onto : previous.Surjective := Finite.surjective_of_injective injective
  choose next inverse using onto
  refine ⟨few, next, Function.LeftInverse.injective inverse, fun a => ?_⟩
  have h := leads (next a)
  rwa [inverse] at h

/-- If all that leads to `e` is the target of a link, then `e` lies on an isolated cycle. -/
lemma exists_isolatedCycle (unique : Relator.RightUnique link)
    (finite : {a | ∃ b, link a b}.Finite) {e : α}
    (entered : ∀ a, Relation.ReflTransGen link a e → ∃ d, link d a) :
    ∃ c, IsolatedCycle link c ∧ e ∈ c := by
  obtain ⟨few, next, injective, leads⟩ := exists_next unique finite entered
  have periodic := fun a => injective.mem_periodicPts a
  let start : Before link e := ⟨e, .refl⟩
  let orbit := Function.periodicOrbit next start
  have distinct : (orbit.map Subtype.val).Nodup :=
    List.Nodup.map Subtype.val_injective Function.nodup_periodicOrbit
  have chain : (orbit.map Subtype.val).Chain link := by
    rw [Cycle.chain_map, Function.periodicOrbit_chain' _ (periodic start)]
    intro n
    rw [Function.iterate_succ_apply']
    exact leads _
  have closed : ∀ {a b}, b ∈ orbit.map Subtype.val → link a b → a ∈ orbit.map Subtype.val := by
    intro a b hb h
    obtain ⟨b', mem, rfl⟩ := Cycle.mem_map.1 hb
    obtain ⟨n, rfl⟩ := (Function.mem_periodicOrbit_iff (periodic start)).1 mem
    -- the source leads to `e` as well, so it is on an orbit, and that is the one of its target
    let source : Before link e := ⟨a, .head h (next^[n] start).2⟩
    have target : next source = next^[n] start := Subtype.ext (unique (leads source) h)
    have same : Function.periodicOrbit next source = orbit := by
      rw [← Function.periodicOrbit_apply_eq (periodic source), target,
        Function.periodicOrbit_apply_iterate_eq (periodic start)]
    have self := Function.self_mem_periodicOrbit (periodic source)
    exact Cycle.mem_map.2 ⟨source, same ▸ self, rfl⟩
  have self := Function.self_mem_periodicOrbit (periodic start)
  exact ⟨orbit.map Subtype.val, ⟨distinct, chain, closed⟩, Cycle.mem_map.2 ⟨start, self, rfl⟩⟩

/-- Links lead from a start of links to everything that does not lie on an isolated cycle. -/
lemma exists_start_iff (unique : Relator.RightUnique link)
    (finite : {a | ∃ b, link a b}.Finite) {e : α} :
    (∃ a, Relation.ReflTransGen link a e ∧ ∀ d, ¬ link d a) ↔
      ¬ ∃ c, IsolatedCycle link c ∧ e ∈ c := by
  constructor
  · rintro ⟨a, reach, start⟩ ⟨c, isolated, he⟩
    obtain ⟨d, h⟩ := isolated.exists_link he reach
    exact start d h
  · intro none
    by_contra noStart
    refine none (exists_isolatedCycle unique finite fun a reach => ?_)
    by_contra start
    exact noStart ⟨a, reach, not_exists.1 start⟩

end

namespace Store

/-- The entry with an identifier is a function that completes the declaration with another one. -/
def Completes (s : Store) (d t : EntryId) : Prop :=
  ∃ f ∈ s.toList, f.id = d ∧ f.Completes t

/-- A function completes one declaration. -/
lemma Completes.unique (s : Store) : Relator.RightUnique s.Completes := by
  rintro d t t' ⟨f, hf, rfl, -, -, ht⟩ ⟨f', hf', same, -, -, ht'⟩
  cases eq_of_id_eq hf' hf same
  rw [ht] at ht'
  cases ht'
  rfl

/-- The functions that complete a declaration are entries of the store. -/
lemma Completes.finite (s : Store) : {d | ∃ t, s.Completes d t}.Finite := by
  refine (s.toList.map Entry.id).finite_toSet.subset ?_
  rintro d ⟨t, f, hf, rfl, -⟩
  exact List.mem_map_of_mem hf

/-- No function completes an entry if no entry of the store does. -/
lemma not_completes_iff {s : Store} {id : EntryId} :
    (∀ d, ¬ s.Completes d id) ↔ ∀ g ∈ s.toList, ¬ g.Completes id := by
  constructor
  · exact fun free g hg h => free g.id ⟨g, hg, rfl, h⟩
  · rintro free d ⟨g, hg, -, h⟩
    exact free g hg h

/-- With declarations, a report is about the candidates among the functions that no function
completes. -/
lemma mentions_declarations_iff {unit : String} {s : Store} {id : EntryId} :
    (Report.ofStore unit s true).Mentions id ↔
      (∃ f ∈ s.toList, f.tag = .subprogram ∧ f.id = id ∧ f.Candidate) ∧
        ∀ d, ¬ s.Completes d id := by
  rw [Report.mentions_ofStore_iff, not_completes_iff]
  constructor
  · rintro ⟨f, hf, ⟨function, candidate, free, -⟩, rfl⟩
    exact ⟨⟨f, hf, function, rfl, candidate⟩, free⟩
  · rintro ⟨⟨f, hf, function, rfl, candidate⟩, free⟩
    exact ⟨f, hf, ⟨function, candidate, free, .inl rfl⟩, rfl⟩

/-- A function is lost by the rule that leaves declarations to their definitions exactly on a cycle
of completions that no completion enters: all others are reported, or a function from which
completions lead to them is. -/
theorem accounted_iff {s : Store} {e : Entry} (mem : e ∈ s.toList) (function : e.tag = .subprogram)
    (candidate : e.Candidate) (unit : String) :
    (∃ f ∈ s.toList, f.tag = .subprogram ∧ (f = e ∨ Relation.TransGen s.Completes f.id e.id) ∧
        (Report.ofStore unit s true).Mentions f.id) ↔
      ¬ ∃ c, IsolatedCycle s.Completes c ∧ e.id ∈ c := by
  rw [← exists_start_iff (Completes.unique s) (Completes.finite s)]
  simp only [mentions_declarations_iff]
  constructor
  · rintro ⟨f, -, -, rfl | reach, -, start⟩
    · exact ⟨f.id, .refl, start⟩
    · exact ⟨f.id, reach.to_reflTransGen, start⟩
  · rintro ⟨a, reach, start⟩
    rcases Relation.reflTransGen_iff_eq_or_transGen.1 reach with rfl | reach
    · exact ⟨e, mem, function, .inl rfl, ⟨e, mem, function, rfl, candidate⟩, start⟩
    · obtain ⟨b, ⟨f, hf, rfl, h⟩, -⟩ := Relation.TransGen.head'_iff.1 reach
      exact ⟨f, hf, h.1, .inr reach, ⟨f, hf, h.1, rfl, h.candidate⟩, start⟩

/-- Two nameless definitions, at `<0x10>` and `<0x20>`, that claim to complete each other. -/
def mutualDefinitions : List Entry :=
  [⟨⟨0x10⟩, .subprogram, .ofList [(.specification, .ref ⟨0x20⟩)], []⟩,
   ⟨⟨0x20⟩, .subprogram, .ofList [(.specification, .ref ⟨0x10⟩)], []⟩]

/-- Of two definitions that complete each other nothing is reported. -/
theorem accounted_iff_mutualDefinitions :
    ∃ s, Store.ofList mutualDefinitions = .ok s ∧ ∀ f ∈ s.toList,
      ¬ (Report.ofStore "mutual.c" s true).Mentions f.id := by
  have distinct : (mutualDefinitions.map Entry.id).Nodup := by decide
  obtain ⟨s, made, list⟩ := Store.ofList_of_nodup distinct
  have links : s.Completes ⟨0x10⟩ ⟨0x20⟩ ∧ s.Completes ⟨0x20⟩ ⟨0x10⟩ := by
    unfold Completes
    rw [list]
    exact ⟨⟨_, .head _, rfl, rfl, rfl, rfl⟩, ⟨_, .tail _ (.head _), rfl, rfl, rfl, rfl⟩⟩
  have ids : ∀ f ∈ mutualDefinitions, f.id ∈ ([⟨0x10⟩, ⟨0x20⟩] : List EntryId) := by decide
  have candidates : ∀ f ∈ mutualDefinitions, f.tag = .subprogram ∧ f.Candidate := by decide
  have isolated : IsolatedCycle s.Completes ([⟨0x10⟩, ⟨0x20⟩] : List EntryId) := by
    refine ⟨by decide, ?_, ?_⟩
    · exact .cons_cons links.1 (.cons_cons links.2 (.singleton _))
    · rintro a b - ⟨f, hf, rfl, -⟩
      exact ids f (list ▸ hf)
  refine ⟨s, made, fun f hf mentioned => ?_⟩
  have hf' : f ∈ mutualDefinitions := list ▸ hf
  obtain ⟨function, candidate⟩ := candidates f hf'
  exact (accounted_iff hf function candidate "mutual.c").1 ⟨f, hf, function, .inl rfl, mentioned⟩
    ⟨_, isolated, ids f hf'⟩

end Store

end Prototyper
