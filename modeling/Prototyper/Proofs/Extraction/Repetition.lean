import Prototyper.Proofs.Extraction.Completion

/-!
# Functions that are reported twice

A concrete instance and its abstract origin are one function, and so are a definition and the
declaration that it completes. `OriginLink` leads from the first to the second. The selection of
functions heeds completions only, so of functions that complete one another a report is about one
at most. An instance that has a name is reported beside its origin. `mentions_once_iff` says that
this, in the end, is the only way in which a function comes to be reported twice.
-/

namespace Prototyper

namespace Store

/-- An entry refers to another one as its abstract origin or by its specification. -/
def OriginLink (s : Store) (id target : EntryId) : Prop :=
  ∃ e, s.get? id = some e ∧
    (e.attr .abstractOrigin = some (.ref target) ∨ e.attr .specification = some (.ref target))

/-- The specification of an entry completes nothing: the entry is a concrete instance, or no
function. -/
def Unheeded (s : Store) (id : EntryId) : Prop :=
  ∃ e, s.get? id = some e ∧ (e.attr .abstractOrigin ≠ none ∨ e.tag ≠ .subprogram)

/-- A completion is a link between origins. -/
lemma Completes.originLink {s : Store} {d t : EntryId} (h : s.Completes d t) :
    s.OriginLink d t := by
  obtain ⟨f, hf, rfl, -, -, ht⟩ := h
  exact ⟨f, get?_eq_some_iff.2 ⟨hf, rfl⟩, .inr ht⟩

/-- A link between origins is a completion, or the selection does not heed it. -/
lemma OriginLink.completes {s : Store} {a b : EntryId} (h : s.OriginLink a b)
    (heeded : ¬ s.Unheeded a) : s.Completes a b := by
  obtain ⟨e, he, link⟩ := h
  have noOrigin : e.attr .abstractOrigin = none := by
    by_contra origin
    exact heeded ⟨e, he, .inl origin⟩
  have function : e.tag = .subprogram := by
    by_contra other
    exact heeded ⟨e, he, .inr other⟩
  obtain ⟨mem, id⟩ := get?_eq_some_iff.1 he
  refine ⟨e, mem, id, function, noOrigin, ?_⟩
  rcases link with origin | specification
  · rw [noOrigin] at origin
    cases origin
  · exact specification

/-- Links that arrive at an entry that nothing completes pass one that the selection does not heed,
and up to there they are completions. -/
lemma exists_unheeded {s : Store} {a b : EntryId} (reach : Relation.TransGen s.OriginLink a b)
    (free : ∀ d, ¬ s.Completes d b) :
    ∃ x, Relation.ReflTransGen s.Completes a x ∧ s.Unheeded x ∧
      Relation.TransGen s.OriginLink x b := by
  -- the last link arrives at `b`, so it is no completion; the first such link leaves `x`
  induction reach using Relation.TransGen.head_induction_on with
  | @single a link =>
    by_cases heeded : s.Unheeded a
    · exact ⟨a, .refl, heeded, .single link⟩
    · exact absurd (link.completes heeded) (free a)
  | @head a c link rest ih =>
    by_cases heeded : s.Unheeded a
    · exact ⟨a, .refl, heeded, .head link rest⟩
    · obtain ⟨x, completions, unheeded, reach⟩ := ih
      exact ⟨x, .head (link.completes heeded) completions, unheeded, reach⟩

end Store

/-- No function completes one that a report is about. -/
lemma Report.Mentions.not_completes {unit : String} {s : Store} {declarations : Bool}
    {id : EntryId} (h : (ofStore unit s declarations).Mentions id) (d : EntryId) :
    ¬ s.Completes d id := by
  obtain ⟨f, -, ⟨-, -, free, -⟩, rfl⟩ := mentions_ofStore_iff.1 h
  exact Store.not_completes_iff.2 free d

/-- A report is about each function once, so that none of its functions leads to another one,
exactly when none of them is, or completes in some steps, a concrete instance or an entry of
another kind from which origins lead to another of them. -/
theorem Report.mentions_once_iff (unit : String) (s : Store) (declarations : Bool) :
    (∀ a b, (ofStore unit s declarations).Mentions a → (ofStore unit s declarations).Mentions b →
        a ≠ b → ¬ Relation.TransGen s.OriginLink a b) ↔
      ∀ a x b, (ofStore unit s declarations).Mentions a →
        (ofStore unit s declarations).Mentions b → a ≠ b →
        Relation.ReflTransGen s.Completes a x → s.Unheeded x →
        ¬ Relation.TransGen s.OriginLink x b := by
  constructor
  · intro once a x b ha hb ne completions _ rest
    have start : Relation.ReflTransGen s.OriginLink a x :=
      Relation.ReflTransGen.mono (fun _ _ => Store.Completes.originLink) _ _ completions
    exact once a b ha hb ne (.trans_right start rest)
  · intro apart a b ha hb ne reach
    obtain ⟨x, completions, unheeded, rest⟩ := Store.exists_unheeded reach hb.not_completes
    exact apart a x b ha hb ne completions unheeded rest

/-- A function at `<0x10>` and a concrete instance of it at `<0x20>`, both with their name. -/
def namedInstance : List Entry :=
  [⟨⟨0x10⟩, .subprogram, .ofList [(.name, .string "f")], []⟩,
   ⟨⟨0x20⟩, .subprogram, .ofList [(.name, .string "f"), (.abstractOrigin, .ref ⟨0x10⟩)], []⟩]

/-- A concrete instance with a name is reported beside the function of which it is an instance. -/
theorem Report.mentions_twice_namedInstance :
    ∃ s, Store.ofList namedInstance = .ok s ∧ ∀ unit declarations,
      (ofStore unit s declarations).Mentions ⟨0x20⟩ ∧
      (ofStore unit s declarations).Mentions ⟨0x10⟩ ∧
      Relation.TransGen s.OriginLink ⟨0x20⟩ ⟨0x10⟩ := by
  have distinct : (namedInstance.map Entry.id).Nodup := by decide
  obtain ⟨s, made, list⟩ := Store.ofList_of_nodup distinct
  have reports : ∀ f ∈ namedInstance, f.tag = .subprogram ∧ f.Candidate ∧
      (∀ g ∈ namedInstance, ¬ g.Completes f.id) ∧ ¬ Value.IsSet (f.attr .declaration) := by
    decide
  have reported : ∀ unit declarations, ∀ f ∈ namedInstance,
      (ofStore unit s declarations).Mentions f.id := by
    intro unit declarations f hf
    obtain ⟨function, candidate, free, defined⟩ := reports f hf
    rw [mentions_ofStore_iff, list]
    exact ⟨f, hf, ⟨function, candidate, list ▸ free, .inr defined⟩, rfl⟩
  have instance' : s.get? ⟨0x20⟩ = namedInstance[1]? := by
    rw [Store.get?_eq_find?, list]
    rfl
  refine ⟨s, made, fun unit declarations => ⟨?_, ?_, ?_⟩⟩
  · exact reported unit declarations _ (.tail _ (.head _))
  · exact reported unit declarations _ (.head _)
  · exact .single ⟨_, instance', .inl rfl⟩

end Prototyper
