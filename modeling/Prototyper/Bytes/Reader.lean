import Prototyper.Bytes.Window
import Prototyper.Reader

/-!
# Readers of bytes

Readers whose input is a window of a byte array.
-/

namespace Prototyper

instance : Input Window :=
  ⟨Window.size⟩

/-- A reader of bytes. -/
abbrev ByteReader (ε α : Type) : Type :=
  Reader Window ε α

namespace ByteReader

variable {ε α : Type}

/-- The position in the byte array. -/
def position : ByteReader ε Nat where
  run w := .ok (w.start, w)
  size_le h := by
    simp only [Except.ok.injEq, Prod.mk.injEq] at h
    exact h.2 ▸ Nat.le_refl _

/-- The next byte; `short` is the error when there is none. -/
def byte (short : ε) : ByteReader ε UInt8 where
  run w :=
    match w.next? with
    | some (b, w') => .ok (b, w')
    | none => .error short
  size_le {w} a w' h := by
    split at h
    · next b w'' hn =>
      simp only [Except.ok.injEq, Prod.mk.injEq] at h
      exact h.2 ▸ Nat.le_of_lt (Window.size_of_next? hn)
    · simp at h

/-- The next `n` bytes, as a window of their own. -/
def split (short : ε) (n : Nat) : ByteReader ε Window where
  run w :=
    match w.take? n, w.drop? n with
    | some front, some w' => .ok (front, w')
    | _, _ => .error short
  size_le {w} a w' h := by
    split at h
    · next front w'' _ hd =>
      simp only [Except.ok.injEq, Prod.mk.injEq] at h
      have := Window.size_of_drop? hd
      rw [← h.2]
      simp only [Input.size]
      omega
    · simp at h

/-- The reader `r` on a window of its own, with what it leaves of that window. -/
def within (w : Window) (r : ByteReader ε α) : ByteReader ε (α × Window) where
  run outer :=
    match r.run w with
    | .error e => .error e
    | .ok result => .ok (result, outer)
  size_le {w} a w' h := by
    split at h
    · simp at h
    · simp only [Except.ok.injEq, Prod.mk.injEq] at h
      exact h.2 ▸ Nat.le_refl _

/-- Reading a byte takes one. -/
theorem consumes_byte (short : ε) : (byte short).Consumes := by
  intro w a w' h
  simp only [byte] at h
  split at h
  · next b w'' hn =>
    simp only [Except.ok.injEq, Prod.mk.injEq] at h
    exact h.2 ▸ Window.size_of_next? hn
  · simp at h

/-- Splitting off some bytes takes them. -/
theorem consumes_split {short : ε} {n : Nat} (hn : 0 < n) : (split short n).Consumes := by
  intro w a w' h
  simp only [split] at h
  split at h
  · next front w'' _ hd =>
    simp only [Except.ok.injEq, Prod.mk.injEq] at h
    have := Window.size_of_drop? hd
    rw [← h.2]
    simp only [Input.size]
    omega
  · simp at h

end ByteReader

end Prototyper
