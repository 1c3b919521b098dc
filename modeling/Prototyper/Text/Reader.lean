import Prototyper.Reader

/-!
# Readers of text

Readers whose input is a list of characters. An error tells what was left when it arose.
-/

namespace Prototyper

/-- A reader of characters. -/
abbrev TextReader (ε α : Type) : Type :=
  Reader (List Char) ε α

namespace TextReader

variable {ε α : Type}

/-- The failure that tells what is left. -/
def fail (error : List Char → ε) : TextReader ε α where
  run s := .error (error s)
  size_le h := by simp at h

/-- The next character. -/
def next (error : List Char → ε) : TextReader ε Char where
  run
    | [] => .error (error [])
    | c :: s => .ok (c, s)
  size_le {s} c s' h := by
    cases s with
    | nil => simp at h
    | cons c s =>
      simp only [Except.ok.injEq, Prod.mk.injEq] at h
      simp [← h.2, Input.size]

/-- Whether the next characters are the given ones; then they are taken. -/
def accept (expected : List Char) : TextReader ε Bool where
  run s :=
    if expected.isPrefixOf s then .ok (true, s.drop expected.length) else .ok (false, s)
  size_le {s} found s' h := by
    split at h <;> simp only [Except.ok.injEq, Prod.mk.injEq] at h <;> simp [← h.2, Input.size]

/-- The characters at the front that satisfy a test. -/
def takeWhile (test : Char → Bool) : TextReader ε (List Char) where
  run s := .ok (s.takeWhile test, s.dropWhile test)
  size_le {s} front s' h := by
    simp only [Except.ok.injEq, Prod.mk.injEq] at h
    simp only [← h.2, Input.size]
    exact (List.dropWhile_sublist test).length_le

/-- What a function drops at the front. -/
def skip (drop : List Char → List Char) (le : ∀ s, (drop s).length ≤ s.length) :
    TextReader ε Unit where
  run s := .ok ((), drop s)
  size_le {s} a s' h := by
    simp only [Except.ok.injEq, Prod.mk.injEq] at h
    simp only [← h.2, Input.size]
    exact le s

/-- The given characters. -/
def expect (error : List Char → ε) (expected : List Char) : TextReader ε Unit := do
  if ← accept expected then pure () else fail error

/-- Reading a character takes it. -/
theorem consumes_next (error : List Char → ε) : (next error).Consumes := by
  intro s c s' h
  cases s with
  | nil => simp [next] at h
  | cons c s =>
    simp only [next, Except.ok.injEq, Prod.mk.injEq] at h
    simp [← h.2, Input.size]

end TextReader

end Prototyper
