import Mathlib.Algebra.Group.Nat.Defs
import Prototyper.Proofs.Decoding.Layout

/-!
# How large encoded numbers are

A number of fixed width is as large as its bytes allow, and one of variable width has 64 bits. So a
reference, whatever its form, is by a number of 64 bits (`formValue_inRange`), though the sum of a
unit's offset and such a number may not be one.
-/

namespace Prototyper

/-- A reader gives only values with a property. -/
def Reader.Gives {ε α : Type} (P : α → Prop) (r : ByteReader ε α) : Prop :=
  ∀ ⦃w w' : Window⦄ ⦃a : α⦄, r.run w = .ok (a, w') → P a

namespace Reader.Gives

variable {ε α β : Type} {P : α → Prop} {Q : β → Prop}

/-- A value that is given without reading is the one that is given. -/
lemma pure {a : α} (h : P a) : Gives P (Pure.pure a : ByteReader ε α) := by
  intro w w' b run
  obtain ⟨rfl, -⟩ := pure_run_eq_ok_iff.1 run
  exact h

/-- A reader that fails gives no value. -/
lemma fail (e : ε) : Gives P (Reader.fail e : ByteReader ε α) := by
  intro w w' a run
  cases run

/-- What a reader gives may be used for what the next one gives. -/
lemma bind {r : ByteReader ε α} {f : α → ByteReader ε β} (hr : r.Gives P)
    (hf : ∀ a, P a → (f a).Gives Q) : (r >>= f).Gives Q := by
  intro w w₂ b run
  obtain ⟨a, w₁, first, second⟩ := bind_run_eq_ok_iff.1 run
  exact hf a (hr first) second

/-- What comes last is what counts. -/
lemma last {r : ByteReader ε α} {f : α → ByteReader ε β} (hf : ∀ a, (f a).Gives Q) :
    (r >>= f).Gives Q := by
  intro w w₂ b run
  obtain ⟨a, w₁, -, second⟩ := bind_run_eq_ok_iff.1 run
  exact hf a second

end Reader.Gives

/-- A window has as many bytes as its size says. -/
lemma Window.length_toList (w : Window) : w.toList.length = w.size := by
  have loop : ∀ (bytes : ByteArray) (i : Nat) (read : List UInt8),
      (ByteArray.toList.loop bytes i read).length = read.length + (bytes.size - i) := by
    intro bytes i read
    fun_induction ByteArray.toList.loop bytes i read with
    | case1 i read more ih =>
      rw [ih, List.length_cons]
      omega
    | case2 i read ended =>
      rw [List.length_reverse]
      omega
  rw [toList, ByteArray.toList, loop, List.length_nil, ByteArray.size_extract,
    Nat.min_eq_left w.stop_le_size, Nat.zero_add, Nat.sub_zero, size]

/-- The value of bytes, the least one first, is less than what they have room for. -/
lemma littleEndianValue_lt (bytes : List UInt8) :
    littleEndianValue bytes < 256 ^ bytes.length := by
  induction bytes with
  | nil => exact Nat.one_pos
  | cons b bytes ih =>
    have byte := b.toNat_lt
    rw [List.length_cons, Nat.pow_succ]
    change b.toNat + 256 * littleEndianValue bytes < _
    omega

/-- In either order, the value of bytes is less than what they have room for. -/
lemma Endian.value_lt (endian : Endian) (bytes : List UInt8) :
    endian.value bytes < 256 ^ bytes.length := by
  cases endian with
  | little => exact littleEndianValue_lt bytes
  | big => exact List.length_reverse ▸ littleEndianValue_lt bytes.reverse

/-- A reader gives the same values on a window of its own. -/
lemma ByteReader.gives_within {ε α : Type} {P : α → Prop} {r : ByteReader ε α} {w : Window}
    (hr : r.Gives P) : (within w r).Gives fun result => P result.1 := by
  intro outer outer' result h
  simp only [within] at h
  split at h
  case h_1 => cases h
  case h_2 read =>
    cases h
    exact hr read

namespace Dwarf

/-- A number of fixed size is less than what its bytes have room for. -/
lemma gives_fixed (endian : Endian) (n : Nat) : (fixed endian n).Gives (· < 256 ^ n) := by
  have block : (block n).Gives fun front => front.size = n := fun _ _ _ h =>
    (ByteReader.front_of_split h).size
  refine block.bind fun front size => .pure ?_
  have value := endian.value_lt front.toList
  rw [front.length_toList, size] at value
  exact value

/-- An unsigned number in groups of seven bits fits into 64 bits. -/
lemma gives_unsignedLeb : unsignedLeb.Gives (· < UInt64.size) := by
  suffices all : ∀ more, (unsignedLebFrom more).Gives (· < 2 * 128 ^ more) from all 9
  intro more
  induction more with
  | zero =>
    refine .last fun b => ?_
    split
    case isTrue small => exact .pure (Nat.lt_succ_of_le (UInt8.le_iff_toNat_le.1 small))
    case isFalse => exact .fail _
  | succ more ih =>
    refine .last fun b => ?_
    have byte := b.toNat_lt
    split
    case isTrue small =>
      have positive : 0 < 128 ^ more := Nat.pow_pos (by decide)
      have last : b.toNat < 128 := UInt8.lt_iff_toNat_lt.1 small
      exact .pure (by omega)
    case isFalse => exact ih.bind fun rest bound => .pure (by omega)

/-! ## References -/

/-- A reference is by a number of 64 bits. -/
def FormValue.InRange : FormValue → Prop
  | unitReference n | sectionReference n => n < UInt64.size
  | _ => True

/-- A reference of up to eight bytes fits into 64 bits. -/
lemma gives_reference {endian : Endian} {n : Nat} (narrow : n ≤ 8) :
    (fixed endian n).Gives (· < UInt64.size) := by
  intro w w' value h
  have bound : value < 256 ^ n := gives_fixed endian n h
  exact Nat.lt_of_lt_of_le bound (Nat.pow_le_pow_right (by decide) narrow)

/-- The value of a block that is passed over is in range. -/
lemma gives_unusedBlock (n : Nat) : (unusedBlock n).Gives FormValue.InRange :=
  .last fun _ => .pure trivial

/-- A value of any form is in range if addresses have at most eight bytes. -/
lemma gives_directValue {enc : Encoding} (narrow : enc.addressWidth ≤ 8) (implicit : Option Int)
    (form : UInt16) : (directValue enc implicit form).Gives FormValue.InRange := by
  unfold directValue
  dsimp only
  split
  case h_15 =>
    refine (gives_reference ?_).bind fun n bound => .pure bound
    split
    · exact narrow
    · cases enc.format <;> decide
  case h_20 => exact gives_unsignedLeb.bind fun n bound => .pure bound
  case h_31 =>
    split
    · exact .pure trivial
    · exact .fail _
  all_goals
    first
    | exact gives_unusedBlock _
    | exact .last fun _ => gives_unusedBlock _
    | exact .last fun _ => .pure trivial
    | exact (gives_reference (by decide)).bind fun n bound => .pure bound
    | exact .pure trivial
    | exact .fail _

/-- The value of an attribute is in range if addresses have at most eight bytes. -/
lemma gives_formValue {enc : Encoding} (narrow : enc.addressWidth ≤ 8) (spec : AttributeSpec) :
    (formValue enc spec).Gives FormValue.InRange :=
  .last fun form => gives_directValue narrow spec.implicit form

/-! ## Headers -/

/-- Addresses have at most eight bytes, or the unit is refused. -/
lemma gives_addressWidth : addressWidth.Gives (· ≤ 8) := by
  refine .last fun b => ?_
  split
  case isTrue width => rcases width with rfl | rfl | rfl | rfl <;> exact .pure (by decide)
  case isFalse => exact .fail _

/-- The header of a unit says that addresses have at most eight bytes. -/
lemma gives_headerFields (endian : Endian) (format : Format) :
    (headerFields endian format).Gives fun fields => fields.1.addressWidth ≤ 8 := by
  refine .last fun version => ?_
  split
  case isTrue => exact .last fun _ => gives_addressWidth.bind fun width narrow => .pure narrow
  case isFalse =>
    split
    case isTrue =>
      refine .last fun _ => gives_addressWidth.bind fun width narrow => ?_
      exact .last fun _ => .last fun _ => .pure narrow
    case isFalse => exact .fail _

/-- Each unit has addresses of at most eight bytes. -/
lemma gives_unitHeader (endian : Endian) :
    (unitHeader endian).Gives fun header => header.encoding.addressWidth ≤ 8 := by
  refine .last fun offset => .last fun ⟨length, format⟩ => .last fun body => ?_
  have fields := ByteReader.gives_within (w := body) (gives_headerFields endian format)
  exact fields.bind fun _ narrow => .pure narrow

/-! ## Entries -/

variable {enc : Encoding} {table : AbbreviationTable}

/-- The attributes that bytes hold have values in range. -/
lemma HoldsAttributes.inRange {specs : List AttributeSpec} {raw : List RawAttribute} {w w' : Window}
    (h : HoldsAttributes enc specs w raw w') (narrow : enc.addressWidth ≤ 8) :
    ∀ r ∈ raw, r.value.InRange := by
  induction h with
  | nil => nofun
  | cons value _ ih =>
    intro r hr
    rcases List.mem_cons.1 hr with rfl | hr
    · exact gives_formValue narrow _ value
    · exact ih r hr

mutual

/-- In the tree that bytes hold, all attributes have values in range. -/
lemma Holds.inRange {w w' : Window} {d : Die} (h : Holds enc table w d w')
    (narrow : enc.addressWidth ≤ 8) : ∀ x ∈ d.preorder, ∀ r ∈ x.attributes, r.value.InRange := by
  match h with
  | .leaf _ attributes _ =>
    intro x hx
    rcases List.mem_cons.1 hx with rfl | hx
    · exact attributes.inRange narrow
    · cases hx
  | .parent _ attributes _ children =>
    intro x hx
    rcases List.mem_cons.1 hx with rfl | hx
    · exact attributes.inRange narrow
    · exact children.inRange narrow x hx

/-- In the trees that bytes hold, all attributes have values in range. -/
lemma HoldsAll.inRange {w w' : Window} {ds : List Die} (h : HoldsAll enc table w ds w')
    (narrow : enc.addressWidth ≤ 8) :
    ∀ x ∈ Die.preorderAll ds, ∀ r ∈ x.attributes, r.value.InRange := by
  match h with
  | .ended _ => nofun
  | .closed _ _ => nofun
  | .cons _ first rest =>
    intro x hx
    rcases List.mem_append.1 hx with hx | hx
    · exact first.inRange narrow x hx
    · exact rest.inRange narrow x hx

end

end Dwarf

end Prototyper
