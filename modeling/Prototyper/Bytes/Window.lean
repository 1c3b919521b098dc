/-!
# Windows

A stretch of a byte array that is read from its front. Reading moves the front forward and never
past the end, so the size of a window bounds every loop over it.
-/

namespace Prototyper

/-- The order of the bytes of a number. -/
inductive Endian where
  | little
  | big
  deriving DecidableEq, Inhabited, Repr

/-- The number that bytes stand for, the least significant byte first. -/
def littleEndianValue (bytes : List UInt8) : Nat :=
  bytes.foldr (fun b rest => b.toNat + 256 * rest) 0

/-- The number that bytes stand for in a given order. -/
def Endian.value (e : Endian) (bytes : List UInt8) : Nat :=
  match e with
  | .little => littleEndianValue bytes
  | .big => littleEndianValue bytes.reverse

/-- A stretch of a byte array. -/
structure Window where
  bytes : ByteArray
  start : Nat
  stop : Nat
  stop_le_size : stop ≤ bytes.size

namespace Window

/-- The whole of a byte array. -/
def ofBytes (bytes : ByteArray) : Window :=
  ⟨bytes, 0, bytes.size, Nat.le_refl _⟩

instance : Inhabited Window :=
  ⟨ofBytes .empty⟩

/-- The number of bytes left. -/
def size (w : Window) : Nat :=
  w.stop - w.start

/-- The window without its first `n` bytes, if there are as many. -/
def drop? (w : Window) (n : Nat) : Option Window :=
  if n ≤ w.size then some { w with start := w.start + n } else none

/-- The first `n` bytes of a window, if there are as many. -/
def take? (w : Window) (n : Nat) : Option Window :=
  if h : w.start + n ≤ w.stop then
    some ⟨w.bytes, w.start, w.start + n, Nat.le_trans h w.stop_le_size⟩
  else
    none

/-- The first byte of a window, and the window after it. -/
def next? (w : Window) : Option (UInt8 × Window) :=
  if h : w.start < w.stop then
    have : w.start < w.bytes.size := Nat.lt_of_lt_of_le h w.stop_le_size
    some (w.bytes[w.start], { w with start := w.start + 1 })
  else
    none

/-- The bytes of a window. -/
def toList (w : Window) : List UInt8 :=
  (w.bytes.extract w.start w.stop).toList

/-- The number of bytes in front of the first zero byte, if there is one. -/
def indexOfZero? (w : Window) : Option Nat :=
  match w.bytes.findIdx? (· == 0) w.start with
  | some i => if i < w.stop then some (i - w.start) else none
  | none => none

/-- Dropping bytes leaves a window that is smaller by their number. -/
theorem size_of_drop? {w w' : Window} {n : Nat} (h : w.drop? n = some w') :
    w'.size + n = w.size := by
  unfold drop? at h
  split at h
  · obtain rfl := Option.some.inj h
    simp only [size] at *
    omega
  · simp at h

/-- Reading a byte makes a window smaller. -/
theorem size_of_next? {w w' : Window} {b : UInt8} (h : w.next? = some (b, w')) :
    w'.size < w.size := by
  unfold next? at h
  split at h
  · obtain ⟨-, rfl⟩ := Prod.mk.inj (Option.some.inj h)
    simp only [size]
    omega
  · simp at h

end Window

end Prototyper
