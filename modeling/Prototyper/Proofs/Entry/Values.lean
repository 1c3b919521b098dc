import Mathlib.Tactic.Common
import Prototyper.Entry.Basic

/-!
# What values say

A value that an entry has, or lacks, says a text, a number or that a flag is set. `TextOf`,
`NumberOf` and `IsSet` spell out which values say what. The functions that read values are not
mentioned in them, and each comes with a lemma that the function for it reads just that.
-/

namespace Prototyper

/-- Two values that may be missing are the same if one is whatever the other is. -/
lemma eq_iff_forall_eq_some {α : Type} {o o' : Option α} :
    o' = o ↔ ∀ a, o = some a ↔ o' = some a := by
  rw [Option.ext_iff]
  exact forall_congr' fun _ => Iff.comm

namespace Value

/-- The text that a value says: that of a string. -/
def TextOf (v : Option Value) (text : Option String) : Prop :=
  ∀ t, text = some t ↔ v = some (.string t)

/-- A value says a number: a number that is not negative, whether it is signed or not. -/
def HoldsNumber (v : Option Value) (n : UInt64) : Prop :=
  v = some (.unsigned n) ∨ ∃ i : Int64, v = some (.signed i) ∧ i.toInt = n.toNat

/-- The number that a value says, if it says one. -/
def NumberOf (v : Option Value) (number : Option UInt64) : Prop :=
  ∀ n, number = some n ↔ HoldsNumber v n

/-- A value is a reference, be it one that names no entry. -/
def IsReference (v : Value) : Prop :=
  (∃ t, v = .ref t) ∨ ∃ form, v = .unresolvedRef form

/-- A value says that a flag is set: it is a flag that is, or a number other than zero. -/
def IsSet (v : Option Value) : Prop :=
  v = some (.flag true) ∨ ∃ n, v = some (.unsigned n) ∧ n ≠ 0

/-- References are told by their kind. -/
lemma isReference_eq_true_iff {v : Value} : v.isReference = true ↔ v.IsReference := by
  cases v <;> simp [isReference, IsReference]

/-- The text of a value is the one that is read from it. -/
lemma textOf_iff {v : Option Value} {text : Option String} :
    TextOf v text ↔ v.bind string? = text := by
  have reads (t : String) : v.bind string? = some t ↔ v = some (.string t) := by
    rcases v with _ | v
    · simp
    · cases v <;> simp [string?]
  rw [eq_iff_forall_eq_some]
  exact forall_congr' fun t => iff_congr Iff.rfl (reads t).symm

/-- A value holds the number that is read from it. -/
lemma holdsNumber_iff {v : Option Value} {n : UInt64} :
    HoldsNumber v n ↔ v.bind unsigned? = some n := by
  unfold HoldsNumber
  cases v with
  | none => simp
  | some v =>
    cases v with
    | signed i =>
      have read : i.toInt = n.toNat ↔ 0 ≤ i ∧ i.toUInt64 = n := by
        constructor
        · intro h
          have nonneg : 0 ≤ i := by
            rw [Int64.le_iff_toInt_le, Int64.toInt_zero]
            omega
          refine ⟨nonneg, UInt64.toNat_inj.1 ?_⟩
          rw [Int64.toNat_toUInt64_of_le nonneg, Int64.toNatClampNeg, h, Int.toNat_natCast]
        · rintro ⟨nonneg, rfl⟩
          rw [Int64.toNat_toUInt64_of_le nonneg]
          rw [Int64.le_iff_toInt_le, Int64.toInt_zero] at nonneg
          exact (Int.toNat_of_nonneg nonneg).symm
      simp [unsigned?, read]
    | _ => simp [unsigned?]

/-- A value says one number at most. -/
lemma HoldsNumber.unique {v : Option Value} {n m : UInt64} (h : HoldsNumber v n)
    (h' : HoldsNumber v m) : n = m :=
  Option.some.inj ((holdsNumber_iff.1 h).symm.trans (holdsNumber_iff.1 h'))

/-- The number of a value is the one that is read from it. -/
lemma numberOf_iff {v : Option Value} {number : Option UInt64} :
    NumberOf v number ↔ v.bind unsigned? = number := by
  rw [eq_iff_forall_eq_some]
  exact forall_congr' fun _ => iff_congr Iff.rfl holdsNumber_iff

/-- A flag counts as set where it is read as set. -/
lemma isSet_iff {v : Option Value} : IsSet v ↔ (v.bind flag?).getD false = true := by
  unfold IsSet
  rcases v with _ | v
  · simp
  · cases v <;> simp [flag?]

instance : DecidablePred IsSet := fun _ => decidable_of_iff _ isSet_iff.symm

end Value

namespace Entry

/-- The flag of an entry is set where its value says so. -/
lemma flag_eq_true_iff {e : Entry} {a : Attr} : e.flag a = true ↔ Value.IsSet (e.attr a) :=
  Value.isSet_iff.symm

/-- The name of an entry is the text of its name attribute. -/
lemma name?_eq_iff {e : Entry} {name : Option String} :
    e.name? = name ↔ Value.TextOf (e.attr .name) name :=
  Value.textOf_iff.symm

end Entry

end Prototyper
