import Mathlib.Tactic.Lemma
import Prototyper.Reader

/-!
# Readers at work

Readers are taken apart at their binds, and a reader that is repeated at its repetitions.
-/

namespace Prototyper

namespace Reader

variable {σ ε ε' α β : Type} [Input σ]

/-- Two readers succeed one after the other. -/
lemma bind_run_eq_ok_iff {r : Reader σ ε α} {f : α → Reader σ ε β} {s s₂ : σ} {b : β} :
    (r >>= f).run s = .ok (b, s₂) ↔
      ∃ a s₁, r.run s = .ok (a, s₁) ∧ (f a).run s₁ = .ok (b, s₂) := by
  simp only [Bind.bind, Reader.bind]
  cases r.run s with
  | error e => simp
  | ok result =>
    constructor
    · exact fun h => ⟨_, _, rfl, h⟩
    · rintro ⟨_, _, ⟨⟩, h⟩
      exact h

/-- A reader whose first part succeeds goes on from there. -/
lemma bind_run_of_ok {r : Reader σ ε α} {f : α → Reader σ ε β} {s s₁ : σ} {a : α}
    (h : r.run s = .ok (a, s₁)) : (r >>= f).run s = (f a).run s₁ := by
  simp only [Bind.bind, Reader.bind, h]

/-- Of two readers the first one fails, or the second one after it. -/
lemma bind_run_eq_error_iff {r : Reader σ ε α} {f : α → Reader σ ε β} {s : σ} {e : ε} :
    (r >>= f).run s = .error e ↔
      r.run s = .error e ∨ ∃ a s₁, r.run s = .ok (a, s₁) ∧ (f a).run s₁ = .error e := by
  simp only [Bind.bind, Reader.bind]
  cases r.run s with
  | error e => simp
  | ok result =>
    constructor
    · exact fun h => .inr ⟨_, _, rfl, h⟩
    · rintro (⟨⟨⟩⟩ | ⟨_, _, ⟨⟩, h⟩)
      exact h

/-- A reader of nothing gives its value and leaves the input. -/
lemma pure_run_eq_ok_iff {a b : α} {s s₁ : σ} :
    (pure a : Reader σ ε α).run s = .ok (b, s₁) ↔ a = b ∧ s = s₁ := by
  simp [Pure.pure, Reader.pure]

/-- Another error changes nothing in what a reader reads. -/
lemma mapError_run_eq_ok_iff {r : Reader σ ε α} {f : ε → ε'} {s s₁ : σ} {a : α} :
    (r.mapError f).run s = .ok (a, s₁) ↔ r.run s = .ok (a, s₁) := by
  simp only [Reader.mapError]
  cases r.run s with
  | error e => simp
  | ok result =>
    obtain ⟨a, s₁⟩ := result
    simp

/-- Another error takes the place of the one that a reader fails with. -/
lemma mapError_run_eq_error_iff {r : Reader σ ε α} {f : ε → ε'} {s : σ} {e' : ε'} :
    (r.mapError f).run s = .error e' ↔ ∃ e, r.run s = .error e ∧ f e = e' := by
  simp only [Reader.mapError]
  cases r.run s with
  | error e => simp
  | ok result =>
    obtain ⟨a, s₁⟩ := result
    simp

/-- A reader that is repeated goes on from the next state. -/
lemma iterateFrom_of_some {step : α → Reader σ ε (Option α)} {advances : ∀ a, (step a).Advances}
    {limit : Nat} {state next : α} {s s₁ : σ} {le : Input.size s ≤ limit}
    (h : (step state).run s = .ok (some next, s₁)) :
    iterateFrom step advances limit state s le =
      iterateFrom step advances limit next s₁ (Nat.le_trans ((step state).size_le h) le) := by
  rw [iterateFrom]
  split
  case h_1 h' => rw [h] at h'; cases h'
  case h_2 h' => rw [h] at h'; cases h'
  case h_3 h' => rw [h] at h'; cases h'; rfl

/-- A reader that is repeated ends with the last state. -/
lemma iterateFrom_of_none {step : α → Reader σ ε (Option α)} {advances : ∀ a, (step a).Advances}
    {limit : Nat} {state : α} {s s₁ : σ} {le : Input.size s ≤ limit}
    (h : (step state).run s = .ok (none, s₁)) :
    iterateFrom step advances limit state s le =
      .ok (state, ⟨s₁, Nat.le_trans ((step state).size_le h) le⟩) := by
  rw [iterateFrom]
  split
  case h_1 h' => rw [h] at h'; cases h'
  case h_2 h' => rw [h] at h'; cases h'; rfl
  case h_3 h' => rw [h] at h'; cases h'

/-- A repeated step reads what the loop reads within the size of the input. -/
lemma iterate_run_eq_ok {step : α → Reader σ ε (Option α)} {advances : ∀ a, (step a).Advances}
    {state last : α} {s : σ} {s₁ : { s₁ : σ // Input.size s₁ ≤ Input.size s }}
    (h : iterateFrom step advances (Input.size s) state s (Nat.le_refl _) = .ok (last, s₁)) :
    (iterate step advances state).run s = .ok (last, s₁.val) := by
  simp only [iterate, h]

/-- The items that a reader gives one after the other, up to the first none. -/
inductive Series (item : Reader σ ε (Option α)) : σ → List α → σ → Prop where
  | nil {s s₁} :
    item.run s = .ok (none, s₁) →
    Series item s [] s₁
  | cons {s s₁ s₂ a as} :
    item.run s = .ok (some a, s₁) →
    Series item s₁ as s₂ →
    Series item s (a :: as) s₂

/-- Items are read one after the other. -/
lemma many_run_of_series {item : Reader σ ε (Option α)} {as : List α} {s s' : σ}
    (h : Series item s as s') (advances : item.Advances) :
    (many item advances).run s = .ok (as, s') := by
  -- the items read so far stand in front of the others, the last one first
  have collects (limit : Nat) (earlier : List α) (le : Input.size s ≤ limit) : ∃ le',
      iterateFrom (fun items => item.mapItem (· :: items)) (fun _ => advances.mapItem _) limit
        earlier s le = .ok (as.reverse ++ earlier, ⟨s', le'⟩) := by
    induction h generalizing earlier with
    | nil ends =>
      exact ⟨_, iterateFrom_of_none (by simp only [mapItem, ends, Option.map_none])⟩
    | @cons s s₁ s₂ a as first _ ih =>
      have step : (item.mapItem (· :: earlier)).run s = .ok (some (a :: earlier), s₁) := by
        simp only [mapItem, first, Option.map_some]
      obtain ⟨le', rest⟩ := ih (a :: earlier) (Nat.le_trans (Reader.size_le _ step) le)
      refine ⟨le', (iterateFrom_of_some step).trans (rest.trans ?_)⟩
      rw [List.reverse_cons, List.append_assoc, List.singleton_append]
  obtain ⟨_, all⟩ := collects (Input.size s) [] (Nat.le_refl _)
  refine bind_run_eq_ok_iff.2 ⟨_, _, iterate_run_eq_ok all, ?_⟩
  rw [pure_run_eq_ok_iff, List.append_nil, List.reverse_reverse]
  exact ⟨rfl, rfl⟩

end Reader

end Prototyper
