import Mathlib.Tactic.Lemma
import Prototyper.Text.CharSet
import Prototyper.Text.Numeral

/-!
# Codes of characters

Characters that cannot stand for themselves in a quoted text are written by their codes, in four
hexadecimal digits. All of them are among the first 128.
-/

namespace Prototyper.Text

/-- Four digits that stand for a character. -/
structure IsCode (digits : List Char) (c : Char) : Prop where
  length : digits.length = 4
  hex : digits.all isHexDigit = true
  value : ofDigits 16 digits = c.toNat

instance (digits : List Char) (c : Char) : Decidable (IsCode digits c) :=
  decidable_of_iff (digits.length = 4 ∧ digits.all isHexDigit = true ∧
      ofDigits 16 digits = c.toNat)
    ⟨fun ⟨length, hex, value⟩ => ⟨length, hex, value⟩, fun h => ⟨h.length, h.hex, h.value⟩⟩

/-- The code of a character is read back, in small and in capital letters. -/
lemma isCode_hexPadded {c : Char} (low : c.toNat < 128) :
    IsCode (hexPadded 4 c.toNat) c ∧ IsCode ((hexPadded 4 c.toNat).map Char.toUpper) c := by
  have all : ∀ n : Fin 128, IsCode (hexPadded 4 (Char.ofNat n).toNat) (Char.ofNat n) ∧
      IsCode ((hexPadded 4 (Char.ofNat n).toNat).map Char.toUpper) (Char.ofNat n) := by
    decide +kernel
  exact CharSet.of_lt_128 (p := fun c => IsCode (hexPadded 4 c.toNat) c ∧
    IsCode ((hexPadded 4 c.toNat).map Char.toUpper) c) all low

/-- The digits of a code are the number of its character. -/
lemma IsCode.ofNat_eq {digits : List Char} {c : Char} (h : IsCode digits c) :
    Char.ofNat (ofDigits 16 digits) = c := by
  rw [h.value, Char.ofNat_toNat]

end Prototyper.Text
