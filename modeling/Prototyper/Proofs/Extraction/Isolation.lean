import Prototyper.Proofs.Extraction.Footprint
import Prototyper.Proofs.Extraction.Selection

/-!
# Isolation of failures

One entry of a store gives way to another one with the same identifier, tag and origins, which may
be broken in any other respect. Functions outside of whose footprint the entry lies come to the same
outcomes in the same order (`restrict_ofStore_replace`). Being left to a definition that completes
the function counts as an outcome too. It is decided by the origins of all functions, and these
stay.
-/

namespace Prototyper

/-- An entry, or the one that takes its place. -/
def Entry.replacedBy (e x' : Entry) : Entry :=
  if e.id = x'.id then x' else e

/-- An entry and the one that takes its place have one identifier. -/
lemma Entry.id_replacedBy (e x' : Entry) : (e.replacedBy x').id = e.id := by
  unfold replacedBy
  split
  case isTrue same => exact same.symm
  case isFalse => rfl

/-- The parts of an entry on which the outcomes of other functions may depend. -/
structure Entry.SamePlace (x x' : Entry) : Prop where
  id : x'.id = x.id
  tag : x'.tag = x.tag
  abstractOrigin : x'.attr .abstractOrigin = x.attr .abstractOrigin
  specification : x'.attr .specification = x.attr .specification

/-- An entry in the same place completes the same declaration. -/
lemma Entry.SamePlace.completed?_eq {x x' : Entry} (same : x.SamePlace x') :
    x'.completed? = x.completed? := by
  unfold completed? hasAttr
  rw [same.abstractOrigin, same.specification]

namespace Store

/-- The store with an entry in the place of the one that has its identifier. -/
def replace (s : Store) (x' : Entry) : Store where
  entries := s.entries.map fun e => e.replacedBy x'
  position := s.position
  position_eq_some_iff := by
    intro id i
    rw [s.position_eq_some_iff, Array.getElem?_map]
    constructor
    · rintro ⟨e, he, rfl⟩
      exact ⟨e.replacedBy x', by rw [he]; rfl, e.id_replacedBy x'⟩
    · rintro ⟨e', he', rfl⟩
      obtain ⟨e, he, rfl⟩ := Option.map_eq_some_iff.1 he'
      exact ⟨e, he, (e.id_replacedBy x').symm⟩

/-- A replacement changes one entry of the list. -/
lemma toList_replace (s : Store) (x' : Entry) :
    (s.replace x').toList = s.toList.map fun e => e.replacedBy x' := by
  unfold toList replace
  exact Array.toList_map

/-- A replacement does not touch entries with other identifiers. -/
lemma get?_replace {s : Store} {x' : Entry} {id : EntryId} (other : id ≠ x'.id) :
    (s.replace x').get? id = s.get? id := by
  have kept : ∀ e : Entry, e.id = id → e.replacedBy x' = e :=
    fun e he => if_neg fun same => other (he.symm.trans same)
  ext e
  rw [get?_eq_some_iff, get?_eq_some_iff, toList_replace, List.mem_map]
  constructor
  · rintro ⟨⟨e₀, mem, rfl⟩, he⟩
    rw [Entry.id_replacedBy] at he
    rw [kept e₀ he]
    exact ⟨mem, he⟩
  · rintro ⟨mem, he⟩
    exact ⟨⟨e, mem, kept e he⟩, he⟩

/-- A store agrees with its replacement on the footprint of a function that does not depend on the
replaced entry. -/
lemma agree_replace {s : Store} {x' f : Entry} (apart : ¬ s.Footprint f x'.id) :
    Agree s (s.replace x') (s.Footprint f) where
  get?_eq := by
    intro id h
    apply get?_replace
    rintro rfl
    exact apart h
  within := fun h he _ ht => .step h he ht

/-- A function that does not depend on the replaced entry comes to the same outcome. -/
lemma outcome_replace {s : Store} {x' f : Entry} (hf : f ∈ s.toList)
    (apart : ¬ s.Footprint f x'.id) (unit : String) :
    (s.replace x').outcome unit f = s.outcome unit f := by
  apply (agree_replace apart).outcome_eq
  · exact fun _ ht => .step .self (get?_eq_some_iff.2 ⟨hf, rfl⟩) ht
  · exact fun _ hc => .child hc

/-- A filter passes over the members of a list that a function changes. -/
lemma filter_map_of_fixed {l : List Entry} {g : Entry → Entry} {p : Entry → Bool}
    (fixed : ∀ a ∈ l, p (g a) = true ∨ p a = true → g a = a) :
    (l.map g).filter p = l.filter p := by
  induction l with
  | nil => rfl
  | cons a l ih =>
    have rest := ih fun b hb => fixed b (List.mem_cons_of_mem a hb)
    by_cases changed : g a = a
    · rw [List.map_cons, changed, List.filter_cons, List.filter_cons, rest]
    · obtain ⟨after, before⟩ := not_or.1 (mt (fixed a List.mem_cons_self) changed)
      rw [List.map_cons, List.filter_cons_of_neg after, List.filter_cons_of_neg before, rest]

variable {s : Store} {x x' : Entry}

/-- A replacement in the same place changes an entry to one in the same place. -/
lemma samePlace_replacedBy (mem : x ∈ s.toList) (same : x.SamePlace x') {e : Entry}
    (he : e ∈ s.toList) : e.SamePlace (e.replacedBy x') := by
  unfold Entry.replacedBy
  split
  case isTrue id =>
    cases eq_of_id_eq he mem (id.trans same.id)
    exact same
  case isFalse => exact ⟨rfl, rfl, rfl, rfl⟩

/-- A replacement in the same place turns functions into functions. -/
lemma subprograms_replace (mem : x ∈ s.toList) (same : x.SamePlace x') :
    (s.replace x').subprograms = s.subprograms.map fun e => e.replacedBy x' := by
  unfold subprograms
  rw [toList_replace, List.filter_map]
  refine congrArg (List.map _) (List.filter_congr fun e he => ?_)
  rw [Function.comp_apply, (samePlace_replacedBy mem same he).tag]

/-- A replacement in the same place leaves the completed declarations as they are. -/
lemma completed_replace (mem : x ∈ s.toList) (same : x.SamePlace x') :
    (s.replace x').completed = s.completed := by
  unfold completed
  rw [subprograms_replace mem same, List.filterMap_map]
  refine congrArg _ (List.filterMap_congr fun e he => ?_)
  exact (samePlace_replacedBy mem same (mem_subprograms_iff.1 he).1).completed?_eq

/-- The selected functions that do not depend on the replaced entry stay selected, in their
order. -/
lemma selected_replace (mem : x ∈ s.toList) (same : x.SamePlace x') {keep : EntryId → Bool}
    (apart : keep x.id = true → x ∉ s.subprograms) (declarations : Bool) :
    ((s.replace x').selected declarations).filter (fun f => keep f.id) =
      (s.selected declarations).filter fun f => keep f.id := by
  -- a chosen function is not the replaced one, so the replacement leaves it as it is
  have fixed : ∀ f ∈ s.subprograms, keep f.id = true → f.replacedBy x' = f := by
    intro f hf chosen
    apply if_neg
    intro replaced
    cases eq_of_id_eq (mem_subprograms_iff.1 hf).1 mem (replaced.trans same.id)
    exact apart chosen hf
  unfold selected
  rw [completed_replace mem same, subprograms_replace mem same, List.filter_filter,
    List.filter_filter]
  refine filter_map_of_fixed fun f hf chosen => fixed f hf ?_
  rw [Entry.id_replacedBy] at chosen
  rcases chosen with chosen | chosen
  · exact (Bool.and_eq_true_iff.1 chosen).1
  · exact (Bool.and_eq_true_iff.1 chosen).1

end Store

/-- Replacing an entry by one in the same place, however broken, changes nothing in the part of the
report about functions that do not depend on the entry: `keep` may choose one of them, for what
comes of it, or several, for the order in which they are reported. -/
theorem Report.restrict_ofStore_replace {s : Store} {x x' : Entry} (mem : x ∈ s.toList)
    (same : x.SamePlace x') {keep : EntryId → Bool}
    (apart : ∀ f ∈ s.subprograms, keep f.id = true → ¬ s.Footprint f x.id) (unit : String)
    (declarations : Bool) :
    (ofStore unit (s.replace x') declarations).restrict keep =
      (ofStore unit s declarations).restrict keep := by
  have outcomes : ∀ s' : Store, (ofStore unit s' declarations).restrict keep =
      ofOutcomes (((s'.selected declarations).filter fun f => keep f.id).map (s'.outcome unit)) := by
    intro s'
    unfold ofStore
    rw [restrict_ofOutcomes, List.filter_map]
    congr 2
    exact List.filter_congr fun f _ => congrArg keep (Store.outcomeEntry_outcome s' unit f)
  have self : keep x.id = true → x ∉ s.subprograms := fun chosen hx => apart x hx chosen .self
  rw [outcomes, outcomes, Store.selected_replace mem same self]
  refine congrArg ofOutcomes (List.map_congr_left fun f hf => ?_)
  obtain ⟨chosen, keeps⟩ := List.mem_filter.1 hf
  have function : f ∈ s.subprograms := (List.mem_filter.1 chosen).1
  apply Store.outcome_replace (Store.mem_subprograms_iff.1 function).1
  rw [same.id]
  exact apart f function keeps

/-- The type `const int`, or the same entry with a reference to itself and a function for a child. -/
def constInt (broken : Bool) : Entry :=
  ⟨⟨0x32⟩, .constType, .ofList [(.type, .ref ⟨if broken then 0x32 else 0x30⟩)],
    if broken then [⟨0x10⟩] else []⟩

/-- Two functions, `int f(char)` at `<0x10>` and `const int g(void)` at `<0x20>`. -/
def twoFunctions : List Entry :=
  [⟨⟨0x10⟩, .subprogram, .ofList [(.name, .string "f"), (.type, .ref ⟨0x30⟩)], [⟨0x11⟩]⟩,
   ⟨⟨0x11⟩, .formalParameter, .ofList [(.type, .ref ⟨0x31⟩)], []⟩,
   ⟨⟨0x20⟩, .subprogram, .ofList [(.name, .string "g"), (.type, .ref ⟨0x32⟩)], []⟩,
   ⟨⟨0x30⟩, .baseType, .ofList [(.name, .string "int")], []⟩,
   ⟨⟨0x31⟩, .baseType, .ofList [(.name, .string "char")], []⟩,
   constInt false]

/-- Breaking the type that one function returns leaves the other one alone. -/
theorem Report.restrict_ofStore_replace_constInt :
    ∃ s, Store.ofList twoFunctions = .ok s ∧
      (ofStore "pair.c" (s.replace (constInt true)) true).restrict (· == ⟨0x10⟩) =
        (ofStore "pair.c" s true).restrict (· == ⟨0x10⟩) := by
  have distinct : (twoFunctions.map Entry.id).Nodup := by decide
  obtain ⟨s, made, list⟩ := Store.ofList_of_nodup distinct
  have mem : constInt false ∈ s.toList := by
    rw [list]
    exact List.mem_of_getLast? rfl
  have same : (constInt false).SamePlace (constInt true) := ⟨rfl, rfl, rfl, rfl⟩
  refine ⟨s, made, restrict_ofStore_replace mem same ?_ "pair.c" true⟩
  intro f hf chosen reached
  have first : f.id = ⟨0x10⟩ := eq_of_beq chosen
  have hf' : f ∈ twoFunctions := list ▸ (Store.mem_subprograms_iff.1 hf).1
  -- all that the first function depends on, the replaced entry not among it
  let needed : List EntryId := [⟨0x10⟩, ⟨0x11⟩, ⟨0x30⟩, ⟨0x31⟩]
  have children : ∀ e ∈ twoFunctions, e.id = ⟨0x10⟩ → ∀ c ∈ e.children, c ∈ needed := by decide
  have closed : ∀ e ∈ twoFunctions, e.id ∈ needed → ∀ t ∈ e.dependencies, t ∈ needed := by decide
  have inside : (constInt false).id ∈ needed :=
    reached.subset (by rw [first]; decide) (children f hf' first) (list ▸ closed)
  exact absurd inside (by decide)

end Prototyper
