import Prototyper.Dwarf.Unit
import Prototyper.Proofs.Reader

/-!
# Reading goes forward

A reader of bytes leaves a window that lies behind the one it was given, in the same bytes and up to
the same end. So the positions at which entries begin grow as a unit is read, and none of them
leaves the section.
-/

namespace Prototyper

/-- A window is the first bytes of another one, up to where a third one begins. -/
structure Window.Front (n : Nat) (front w w' : Window) : Prop where
  bytes : front.bytes = w.bytes
  start : front.start = w.start
  size : front.size = n
  stop : front.stop = w'.start
  inside : front.stop ≤ w.stop

/-- A window is what is left of another one from a place in it, or behind it, on. -/
structure Window.Behind (w' w : Window) : Prop where
  bytes : w'.bytes = w.bytes
  stop : w'.stop = w.stop
  start_le : w.start ≤ w'.start

namespace Window

/-- A window is behind itself. -/
lemma Behind.refl (w : Window) : w.Behind w :=
  ⟨rfl, rfl, Nat.le_refl _⟩

/-- What is left of what is left of a window is left of the window. -/
lemma Behind.trans {w w' w'' : Window} (h' : w''.Behind w') (h : w'.Behind w) : w''.Behind w :=
  ⟨h'.bytes.trans h.bytes, h'.stop.trans h.stop, Nat.le_trans h.start_le h'.start_le⟩

/-- A window behind another one is no larger. -/
lemma Behind.size_le {w w' : Window} (h : w'.Behind w) : w'.size ≤ w.size := by
  have stop := h.stop
  have start := h.start_le
  simp only [size]
  omega

/-- A smaller window behind another one begins later. -/
lemma Behind.start_lt {w w' : Window} (h : w'.Behind w) (smaller : w'.size < w.size) :
    w.start < w'.start := by
  have stop := h.stop
  simp only [size] at smaller
  omega

end Window

namespace Reader

variable {ε α β : Type}

/-- A reader of bytes leaves windows behind those that it is given. -/
def Forward (r : ByteReader ε α) : Prop :=
  ∀ ⦃w w' : Window⦄ ⦃a : α⦄, r.run w = .ok (a, w') → w'.Behind w

/-- A reader that reads nothing leaves the window where it is. -/
lemma Forward.pure (a : α) : Forward (Pure.pure a : ByteReader ε α) := by
  intro w w' b h
  obtain ⟨-, rfl⟩ := pure_run_eq_ok_iff.1 h
  exact .refl w

/-- A reader that fails leaves no window. -/
lemma Forward.fail (e : ε) : Forward (Reader.fail e : ByteReader ε α) := by
  intro w w' a h
  cases h

/-- To look at the rest of the bytes moves nothing. -/
lemma Forward.rest : Forward (Reader.rest : ByteReader ε Window) := by
  intro w w' a h
  cases h
  exact .refl w

/-- Readers that go forward do so one after the other. -/
lemma Forward.bind {r : ByteReader ε α} {f : α → ByteReader ε β} (hr : r.Forward)
    (hf : ∀ a, (f a).Forward) : (r >>= f).Forward := by
  intro w w₂ b h
  obtain ⟨a, w₁, first, second⟩ := bind_run_eq_ok_iff.1 h
  exact (hf a second).trans (hr first)

/-- Of two readers that go forward either may be chosen. -/
lemma Forward.ite {c : Prop} [Decidable c] {r r' : ByteReader ε α} (hr : r.Forward)
    (hr' : r'.Forward) : Forward (if c then r else r') := by
  split
  · exact hr
  · exact hr'

/-- Steps that go forward do so together, whatever their number. -/
lemma behind_of_iterateFrom {step : α → ByteReader ε (Option α)}
    {advances : ∀ a, (step a).Advances} (hstep : ∀ a, (step a).Forward) {limit : Nat} {state last : α}
    {w : Window} {le : Input.size w ≤ limit} {w' : { w' : Window // Input.size w' ≤ limit }}
    (h : iterateFrom step advances limit state w le = .ok (last, w')) : w'.val.Behind w := by
  fun_induction iterateFrom step advances limit state w le with
  | case1 => cases h
  | case2 _ _ _ _ ends =>
    cases h
    exact hstep _ ends
  | case3 _ _ _ _ _ more ih => exact (ih h).trans (hstep _ more)

/-- A repeated step goes forward if each step does. -/
lemma Forward.iterate {step : α → ByteReader ε (Option α)} {advances : ∀ a, (step a).Advances}
    (hstep : ∀ a, (step a).Forward) (state : α) : (iterate step advances state).Forward := by
  intro w w' last h
  simp only [Reader.iterate] at h
  split at h
  case h_1 => cases h
  case h_2 last' w'' found =>
    cases h
    exact behind_of_iterateFrom hstep found

end Reader

namespace ByteReader

variable {ε α : Type}

/-- One byte is read going forward. -/
lemma forward_byte (short : ε) : (byte short).Forward := by
  intro w w' b h
  simp only [byte] at h
  split at h
  case h_1 b' w'' next =>
    cases h
    unfold Window.next? at next
    split at next
    case isTrue =>
      cases next
      exact ⟨rfl, rfl, Nat.le_succ _⟩
    case isFalse => cases next
  case h_2 => cases h

/-- Splitting off a front goes forward by it. -/
lemma forward_split (short : ε) (n : Nat) : (split short n).Forward := by
  intro w w' front h
  simp only [split] at h
  split at h
  case h_1 _ w'' _ dropped =>
    cases h
    unfold Window.drop? at dropped
    split at dropped
    case isTrue =>
      cases dropped
      exact ⟨rfl, rfl, Nat.le_add_right _ _⟩
    case isFalse => cases dropped
  case h_2 => cases h

/-- What is split off a window is its front, and what is left begins where that ends. -/
lemma front_of_split {short : ε} {n : Nat} {w w' front : Window}
    (h : (split short n).run w = .ok (front, w')) : front.Front n w w' := by
  simp only [split] at h
  split at h
  case h_1 _ _ taken dropped =>
    cases h
    unfold Window.take? at taken
    unfold Window.drop? at dropped
    split at taken
    case isTrue enough =>
      cases taken
      split at dropped
      case isTrue =>
        cases dropped
        exact ⟨rfl, rfl, Nat.add_sub_cancel_left w.start n, rfl, enough⟩
      case isFalse => cases dropped
    case isFalse => cases taken
  case h_2 => cases h

/-- What a reader leaves of a window of its own is behind that window. -/
lemma behind_of_within {r : ByteReader ε α} (hr : r.Forward) {v v' w w' : Window} {a : α}
    (h : (within v r).run w = .ok ((a, v'), w')) : v'.Behind v ∧ w' = w := by
  simp only [within] at h
  split at h
  case h_1 => cases h
  case h_2 result read =>
    cases h
    exact ⟨hr read, rfl⟩

end ByteReader

namespace Dwarf

/-! ## Numbers, forms and entries -/

/-- One byte of a section is read going forward. -/
lemma forward_byte : byte.Forward :=
  ByteReader.forward_byte _

/-- A block of bytes is read going forward. -/
lemma forward_block (n : Nat) : (block n).Forward :=
  ByteReader.forward_split _ n

/-- A number of fixed size is read going forward. -/
lemma forward_fixed (endian : Endian) (n : Nat) : (fixed endian n).Forward :=
  (forward_block n).bind fun _ => .pure _

/-- An unsigned number in groups of seven bits is read going forward. -/
lemma forward_unsignedLeb : unsignedLeb.Forward := by
  suffices all : ∀ more, (unsignedLebFrom more).Forward from all 9
  intro more
  induction more with
  | zero => exact forward_byte.bind fun _ => .ite (.pure _) (.fail _)
  | succ more ih => exact forward_byte.bind fun _ => .ite (.pure _) (ih.bind fun _ => .pure _)

/-- A signed number in groups of seven bits is read going forward. -/
lemma forward_signedLeb : signedLeb.Forward := by
  suffices all : ∀ more, (signedLebFrom more).Forward from all 9
  intro more
  induction more with
  | zero => exact forward_byte.bind fun _ => .ite (.pure _) (.ite (.pure _) (.fail _))
  | succ more ih =>
    exact forward_byte.bind fun _ => .ite (.pure _) (.ite (.pure _) (ih.bind fun _ => .pure _))

/-- A short number in groups of seven bits is read going forward. -/
lemma forward_shortLeb : shortLeb.Forward :=
  forward_byte.bind fun _ => .ite (.pure _) <|
    forward_byte.bind fun _ => .ite (.pure _) <|
      forward_byte.bind fun _ => .ite (.pure _) (.fail _)

/-- A text up to its null byte is read going forward. -/
lemma forward_terminated : terminated.Forward := by
  refine Reader.Forward.rest.bind fun w => ?_
  split
  · exact .fail _
  · exact (forward_block _).bind fun _ => forward_byte.bind fun _ => .pure _

/-- A block that is passed over is read going forward. -/
lemma forward_unusedBlock (n : Nat) : (unusedBlock n).Forward :=
  (forward_block n).bind fun _ => .pure _

/-- A value of any form is read going forward. -/
lemma forward_directForm (form : UInt16) : (directForm form).Forward := by
  refine .iterate (fun form => ?_) form
  exact .ite (forward_shortLeb.bind fun _ => .pure _) (.pure _)

/-- A value is one number, or one text, or some bytes that are left unread. -/
lemma forward_directValue (enc : Encoding) (implicit : Option Int) (form : UInt16) :
    (directValue enc implicit form).Forward := by
  unfold directValue
  dsimp only
  split
  case h_31 =>
    split
    · exact .pure _
    · exact .fail _
  all_goals
    first
    | exact forward_unusedBlock _
    | exact (forward_fixed _ _).bind fun _ => .pure _
    | exact (forward_fixed _ _).bind fun _ => forward_unusedBlock _
    | exact forward_unsignedLeb.bind fun _ => .pure _
    | exact forward_unsignedLeb.bind fun _ => forward_unusedBlock _
    | exact forward_signedLeb.bind fun _ => .pure _
    | exact forward_terminated.bind fun _ => .pure _
    | exact .pure _
    | exact .fail _

/-- The value of an attribute is read going forward. -/
lemma forward_formValue (enc : Encoding) (spec : AttributeSpec) : (formValue enc spec).Forward :=
  (forward_directForm _).bind fun _ => forward_directValue _ _ _

/-- The head of an entry is read going forward. -/
lemma forward_entryHead (table : AbbreviationTable) : (entryHead table).Forward := by
  refine forward_unsignedLeb.bind fun code => .ite (.pure _) ?_
  split
  · exact .pure _
  · exact .fail _

/-! ## Headers -/

/-- The length of a unit is read going forward. -/
lemma forward_initialLength (endian : Endian) : (initialLength endian).Forward :=
  (forward_fixed _ _).bind fun _ => .ite (.pure _) <|
    .ite ((forward_fixed _ _).bind fun _ => .pure _) (.fail _)

/-- The width of addresses is read going forward. -/
lemma forward_addressWidth : addressWidth.Forward :=
  forward_byte.bind fun _ => .ite (.pure _) (.fail _)

/-- The fields of a unit type are passed over going forward. -/
lemma forward_skipUnitTypeFields (endian : Endian) (format : Format) (unitType : UInt8) :
    (skipUnitTypeFields endian format unitType).Forward := by
  unfold skipUnitTypeFields
  split
  all_goals
    first
    | exact .pure _
    | exact .fail _
    | exact (forward_block _).bind fun _ => .pure _
    | exact (forward_block _).bind fun _ => (forward_fixed _ _).bind fun _ => .pure _

/-- The fields of a unit header are read going forward. -/
lemma forward_headerFields (endian : Endian) (format : Format) :
    (headerFields endian format).Forward := by
  refine (forward_fixed _ _).bind fun version => .ite ?_ (.ite ?_ (.fail _))
  · exact (forward_fixed _ _).bind fun _ => forward_addressWidth.bind fun _ => .pure _
  · exact forward_byte.bind fun _ => forward_addressWidth.bind fun _ =>
      (forward_fixed _ _).bind fun _ => (forward_skipUnitTypeFields _ _ _).bind fun _ => .pure _

/-- The header at the front of a window tells where the unit begins, and its entries go from behind
the header to where the next unit begins. -/
structure UnitHeader.Heads (header : UnitHeader) (w w' : Window) : Prop where
  offset : header.offset = w.start
  bytes : header.entries.bytes = w.bytes
  start : w.start < header.entries.start
  stop : header.entries.stop = w'.start
  inside : header.entries.stop ≤ w.stop
  behind : w'.Behind w

/-- A unit header that is read heads the bytes that it was read from. -/
lemma heads_of_unitHeader {endian : Endian} {w w' : Window} {header : UnitHeader}
    (h : (unitHeader endian).run w = .ok (header, w')) : header.Heads w w' := by
  obtain ⟨offset, w₁, position, h⟩ := Reader.bind_run_eq_ok_iff.1 h
  obtain ⟨⟨length, format⟩, w₂, initial, h⟩ := Reader.bind_run_eq_ok_iff.1 h
  obtain ⟨body, w₃, taken, h⟩ := Reader.bind_run_eq_ok_iff.1 h
  obtain ⟨⟨⟨encoding, abbreviations⟩, entries⟩, w₄, fields, h⟩ := Reader.bind_run_eq_ok_iff.1 h
  obtain ⟨rfl, rfl⟩ := Reader.pure_run_eq_ok_iff.1 h
  obtain ⟨inner, rfl⟩ := ByteReader.behind_of_within (forward_headerFields endian format) fields
  cases position
  have first := forward_initialLength endian initial
  have second := forward_block length taken
  have front := ByteReader.front_of_split taken
  have smaller : w₂.size < w.size :=
    Reader.Consumes.bind (consumes_fixed (by decide)) _ initial
  exact {
    offset := rfl
    bytes := (inner.bytes.trans front.bytes).trans first.bytes
    start := Nat.lt_of_lt_of_le (first.start_lt smaller) (front.start ▸ inner.start_le)
    stop := inner.stop.trans front.stop
    inside := inner.stop.symm ▸ first.stop ▸ front.inside
    behind := second.trans first }

end Dwarf

end Prototyper
