/-!
# Sets of characters

A set of characters is given by the codes at which membership changes, in increasing order: the
first code is that of the first member, the second that of the next character that is none, and so
on.
-/

namespace Prototyper.Text

/-- A set of characters, as the codes at which membership changes. -/
structure CharSet where
  changes : List Nat

namespace CharSet

/-- Whether membership holds at a code after it has changed at each of some increasing codes. No
change after the code counts. -/
def holdsAt (code : Nat) : List Nat → Bool
  | [] => false
  | change :: rest => if code < change then false else !holdsAt code rest

/-- Whether a character is in a set. -/
def contains (s : CharSet) (c : Char) : Bool :=
  holdsAt c.toNat s.changes

/-- What holds of the first 128 characters holds of a character below them. -/
theorem of_lt_128 {p : Char → Prop} (all : ∀ n : Fin 128, p (Char.ofNat n)) {c : Char}
    (h : c.toNat < 128) : p c := by
  simpa using all ⟨c.toNat, h⟩

end CharSet

end Prototyper.Text
