/-!
# Readers

A reader takes a value from the front of an input, or fails. That it never leaves a larger input
than it was given is part of the type, and `Reader.iterate`, which repeats a reader, rests on it.
-/

namespace Prototyper

/-- What can be read from its front, with a size that bounds the reading. -/
class Input (σ : Type) where
  size : σ → Nat

instance {τ : Type} : Input (List τ) :=
  ⟨List.length⟩

/-- A reader of values of type `α` from inputs of type `σ` that fails with errors of type `ε`. -/
structure Reader (σ : Type) [Input σ] (ε α : Type) where
  run : σ → Except ε (α × σ)
  size_le : ∀ {s : σ} {a : α} {s₁ : σ}, run s = .ok (a, s₁) → Input.size s₁ ≤ Input.size s

namespace Reader

variable {σ ε ε' α β : Type} [Input σ]

/-- The reader that takes nothing. -/
protected def pure (a : α) : Reader σ ε α where
  run s := .ok (a, s)
  size_le h := by
    simp only [Except.ok.injEq, Prod.mk.injEq] at h
    exact h.2 ▸ Nat.le_refl _

/-- One reader after another. -/
protected def bind (r : Reader σ ε α) (f : α → Reader σ ε β) : Reader σ ε β where
  run s :=
    match r.run s with
    | .error e => .error e
    | .ok (a, s₁) => (f a).run s₁
  size_le {s} b s₁' h := by
    split at h
    · simp at h
    · next a s₁ hr => exact Nat.le_trans ((f a).size_le h) (r.size_le hr)

instance : Monad (Reader σ ε) where
  pure := Reader.pure
  bind := Reader.bind

/-- The reader that fails. -/
def fail (e : ε) : Reader σ ε α where
  run _ := .error e
  size_le h := by simp at h

/-- The same reader with other errors. -/
def mapError (f : ε → ε') (r : Reader σ ε α) : Reader σ ε' α where
  run s :=
    match r.run s with
    | .error e => .error (f e)
    | .ok (a, s₁) => .ok (a, s₁)
  size_le {s} a s₁ h := by
    split at h
    · simp at h
    · next a' s₁' hr =>
      simp only [Except.ok.injEq, Prod.mk.injEq] at h
      exact h.2 ▸ r.size_le hr

/-- The whole input that is left, which stays where it is. -/
def rest : Reader σ ε σ where
  run s := .ok (s, s)
  size_le h := by
    simp only [Except.ok.injEq, Prod.mk.injEq] at h
    exact h.2 ▸ Nat.le_refl _

/-- Whether the input is used up. -/
def atEnd : Reader σ ε Bool where
  run s := .ok (Input.size s == 0, s)
  size_le h := by
    simp only [Except.ok.injEq, Prod.mk.injEq] at h
    exact h.2 ▸ Nat.le_refl _

/-- The value of a reader, or none where it fails and takes nothing. -/
def attempt (r : Reader σ ε α) : Reader σ ε (Option α) where
  run s :=
    match r.run s with
    | .error _ => .ok (none, s)
    | .ok (a, s₁) => .ok (some a, s₁)
  size_le {s} a s₁ h := by
    split at h
    · simp only [Except.ok.injEq, Prod.mk.injEq] at h
      exact h.2 ▸ Nat.le_refl _
    · next a' s₂ hr =>
      simp only [Except.ok.injEq, Prod.mk.injEq] at h
      exact h.2 ▸ r.size_le hr

/-- A reader that takes something when it succeeds. -/
def Consumes (r : Reader σ ε α) : Prop :=
  ∀ {s : σ} {a : α} {s₁ : σ}, r.run s = .ok (a, s₁) → Input.size s₁ < Input.size s

/-- A reader that takes something when it succeeds with an item. -/
def Advances (r : Reader σ ε (Option α)) : Prop :=
  ∀ {s : σ} {a : α} {s₁ : σ}, r.run s = .ok (some a, s₁) → Input.size s₁ < Input.size s

/-- What follows a reader that takes something gives nothing back. -/
theorem Consumes.bind {r : Reader σ ε α} (hr : r.Consumes) (f : α → Reader σ ε β) :
    (r >>= f).Consumes := by
  intro s b s₁' h
  simp only [Bind.bind, Reader.bind] at h
  split at h
  · simp at h
  · next a s₁ ha => exact Nat.lt_of_le_of_lt ((f a).size_le h) (hr ha)

/-- A reader takes something if what follows it does. -/
theorem consumes_bind_of_forall {r : Reader σ ε α} {f : α → Reader σ ε β}
    (hf : ∀ a, (f a).Consumes) : (r >>= f).Consumes := by
  intro s b s₁' h
  simp only [Bind.bind, Reader.bind] at h
  split at h
  · simp at h
  · next a s₁ ha => exact Nat.lt_of_lt_of_le (hf a h) (r.size_le ha)

/-- Other errors do not change what a reader takes. -/
theorem Consumes.mapError {r : Reader σ ε α} (hr : r.Consumes) (f : ε → ε') :
    (r.mapError f).Consumes := by
  intro s a s₁ h
  simp only [Reader.mapError] at h
  split at h
  · simp at h
  · next a' s₁' ha =>
    simp only [Except.ok.injEq, Prod.mk.injEq] at h
    exact h.2 ▸ hr ha

/-- A reader that takes something whenever it succeeds also does so for an item. -/
theorem Consumes.advances {r : Reader σ ε (Option α)} (hr : r.Consumes) : r.Advances :=
  fun h => hr h

/-- The item at the front, or none at the end of the input. -/
def unlessAtEnd (r : Reader σ ε (Option α)) : Reader σ ε (Option α) where
  run s := if Input.size s = 0 then .ok (none, s) else r.run s
  size_le {s} a s₁ h := by
    split at h
    · simp only [Except.ok.injEq, Prod.mk.injEq] at h
      exact h.2 ▸ Nat.le_refl _
    · exact r.size_le h

/-- At the end of the input there is no item. -/
theorem Advances.unlessAtEnd {r : Reader σ ε (Option α)} (hr : r.Advances) :
    r.unlessAtEnd.Advances := by
  intro s a s₁ h
  simp only [Reader.unlessAtEnd] at h
  split at h
  · simp at h
  · exact hr h

/-- A reader without an item has nothing to take. -/
theorem advances_pure_none : (pure none : Reader σ ε (Option α)).Advances := by
  intro s a s₁ h
  simp [Pure.pure, Reader.pure] at h

/-- What is taken before an item does not keep its reader from advancing. -/
theorem advances_bind_of_forall {r : Reader σ ε α} {f : α → Reader σ ε (Option β)}
    (hf : ∀ a, (f a).Advances) : (r >>= f).Advances := by
  intro s b s₂ h
  simp only [Bind.bind, Reader.bind] at h
  split at h
  · simp at h
  · next a s₁ ha => exact Nat.lt_of_lt_of_le (hf a h) (r.size_le ha)

/-- The item of a reader with a function applied to it. -/
def mapItem (r : Reader σ ε (Option α)) (f : α → β) : Reader σ ε (Option β) where
  run s :=
    match r.run s with
    | .error e => .error e
    | .ok (a, s₁) => .ok (a.map f, s₁)
  size_le {s} a s₁ h := by
    split at h
    · simp at h
    · next a' s₂ hr =>
      simp only [Except.ok.injEq, Prod.mk.injEq] at h
      exact h.2 ▸ r.size_le hr

/-- A function applied to an item changes nothing about what is taken. -/
theorem Advances.mapItem {r : Reader σ ε (Option α)} (hr : r.Advances) (f : α → β) :
    (r.mapItem f).Advances := by
  intro s b s₁ h
  simp only [Reader.mapItem] at h
  split at h
  · simp at h
  · next a s₂ ha =>
    simp only [Except.ok.injEq, Prod.mk.injEq] at h
    cases a with
    | none => simp at h
    | some a => exact h.2 ▸ hr ha

/-- The last state of a reader that is repeated from a state until it yields none, within an input
of at most the size `limit`. -/
def iterateFrom (step : α → Reader σ ε (Option α)) (advances : ∀ a, (step a).Advances) (limit : Nat)
    (state : α) (s : σ) (le : Input.size s ≤ limit) :
    Except ε (α × { s₁ : σ // Input.size s₁ ≤ limit }) :=
  match h : (step state).run s with
  | .error e => .error e
  | .ok (none, s₁) => .ok (state, ⟨s₁, Nat.le_trans ((step state).size_le h) le⟩)
  | .ok (some next, s₁) =>
    iterateFrom step advances limit next s₁ (Nat.le_trans ((step state).size_le h) le)
  termination_by Input.size s
  decreasing_by exact advances state h

/-- A reader that is repeated until it yields none. Each state before the last takes something, so
the input bounds the repetition. -/
def iterate (step : α → Reader σ ε (Option α)) (advances : ∀ a, (step a).Advances) (state : α) :
    Reader σ ε α where
  run s :=
    match iterateFrom step advances (Input.size s) state s (Nat.le_refl _) with
    | .error e => .error e
    | .ok (last, s₁) => .ok (last, s₁.val)
  size_le {s} a s₁ h := by
    split at h
    · simp at h
    · next last s₁' _ =>
      simp only [Except.ok.injEq, Prod.mk.injEq] at h
      exact h.2 ▸ s₁'.property

/-- The items up to the first none. -/
def many (item : Reader σ ε (Option α)) (advances : item.Advances) : Reader σ ε (List α) := do
  let reversed ← iterate (fun items => item.mapItem (· :: items)) (fun _ => advances.mapItem _) []
  return reversed.reverse

/-- Skips items until there is none. -/
def skipWhile (item : Reader σ ε Bool) (consumes : item.Consumes) : Reader σ ε Unit :=
  iterate (fun _ => item >>= fun more => pure (if more then some () else none))
    (fun _ => Consumes.advances (Consumes.bind consumes _)) ()

end Reader

end Prototyper
