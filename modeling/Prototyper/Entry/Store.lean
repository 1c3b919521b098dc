import Prototyper.Entry.Basic
import Std.Data.HashMap

/-!
# Entry stores

The entries of one compilation unit in input order, with a table of positions beside them so that a
look-up by identifier takes constant time. Identifiers are unique, and nothing is ever changed or
removed. Table and entries agree by construction, which makes `Store.get?` the search for an
identifier in `Store.toList`.
-/

namespace Prototyper

/-- Why a store refuses an entry or cannot find one. -/
inductive StoreError where
  | unknownEntry (id : EntryId)
  | duplicateEntry (id : EntryId)
  deriving DecidableEq, Inhabited, Repr

/-- The message of a store error. -/
def StoreError.message : StoreError → String
  | unknownEntry id => s!"unknown entry {id.text}"
  | duplicateEntry id => s!"entry {id.text} inserted twice"

/-- The entries of a unit, in input order, with the position of each identifier. -/
structure Store where
  entries : Array Entry
  position : Std.HashMap EntryId Nat
  position_eq_some_iff : ∀ (id : EntryId) (i : Nat),
    position[id]? = some i ↔ ∃ e : Entry, entries[i]? = some e ∧ e.id = id

namespace Store

/-- The store without entries. -/
def empty : Store where
  entries := #[]
  position := ∅
  position_eq_some_iff := by simp

instance : EmptyCollection Store :=
  ⟨empty⟩

instance : Inhabited Store :=
  ⟨empty⟩

/-- The entries in input order. -/
def toList (s : Store) : List Entry :=
  s.entries.toList

/-- The number of entries. -/
def size (s : Store) : Nat :=
  s.entries.size

/-- Whether there is no entry. -/
def isEmpty (s : Store) : Bool :=
  s.entries.isEmpty

/-- Whether an entry has this identifier. -/
def contains (s : Store) (id : EntryId) : Bool :=
  s.position.contains id

/-- The entry with this identifier. -/
def get? (s : Store) (id : EntryId) : Option Entry :=
  match s.position[id]? with
  | some i => s.entries[i]?
  | none => none

/-- The entry with this identifier, or the error that names the identifier. -/
def get (s : Store) (id : EntryId) : Except StoreError Entry :=
  match s.get? id with
  | some e => .ok e
  | none => .error (.unknownEntry id)

private theorem position_push {s : Store} {e : Entry} (h : s.contains e.id = false)
    (id : EntryId) (i : Nat) :
    (s.position.insert e.id s.entries.size)[id]? = some i ↔
      ∃ x, (s.entries.push e)[i]? = some x ∧ x.id = id := by
  have absent : ∀ j, s.position[e.id]? ≠ some j := by
    intro j hj
    have : s.position.contains e.id = true := by
      rw [Std.HashMap.contains_eq_isSome_getElem?, hj]; rfl
    simp_all [contains]
  rw [Std.HashMap.getElem?_insert, Array.getElem?_push]
  by_cases he : e.id = id
  · subst he
    constructor
    · intro hi
      have : s.entries.size = i := by simpa using hi
      exact ⟨e, by simp [this], rfl⟩
    · rintro ⟨x, hx, hid⟩
      split at hx
      · next hi => simp [hi]
      · exact absurd ((s.position_eq_some_iff e.id i).2 ⟨x, hx, hid⟩) (absent i)
  · simp only [beq_iff_eq, he, if_false, s.position_eq_some_iff]
    constructor
    · rintro ⟨x, hx, hid⟩
      refine ⟨x, ?_, hid⟩
      have : i ≠ s.entries.size := by
        intro hi
        simp [hi] at hx
      simp [this, hx]
    · rintro ⟨x, hx, hid⟩
      split at hx
      · simp only [Option.some.injEq] at hx
        exact absurd (hx ▸ hid) he
      · exact ⟨x, hx, hid⟩

/-- Appends an entry; an identifier that is already taken is refused. -/
def insert (s : Store) (e : Entry) : Except StoreError Store :=
  if h : s.contains e.id = true then
    .error (.duplicateEntry e.id)
  else
    .ok {
      entries := s.entries.push e
      position := s.position.insert e.id s.entries.size
      position_eq_some_iff := position_push (by simpa using h) }

/-- Appends entries one after the other until one is refused. -/
def insertAll (s : Store) : List Entry → Except StoreError Store
  | [] => .ok s
  | e :: es =>
    match s.insert e with
    | .ok s' => s'.insertAll es
    | .error err => .error err

/-- The store of a list of entries with distinct identifiers. -/
def ofList (es : List Entry) : Except StoreError Store :=
  empty.insertAll es

/-- The children of an entry in order; the first one that is not in the store is the error. -/
def childrenOf (s : Store) (id : EntryId) : Except StoreError (List Entry) :=
  match s.get id with
  | .ok e => e.children.mapM s.get
  | .error err => .error err

/-- The entries of functions, in input order. -/
def subprograms (s : Store) : List Entry :=
  s.toList.filter fun e => e.tag == .subprogram

/-- The first entry, when it is that of the compilation unit. -/
def root? (s : Store) : Option Entry :=
  s.entries[0]?.filter fun e => e.tag == .compileUnit

/-- A reference from an entry of the store to an identifier outside of it. -/
structure Dangling where
  source : EntryId
  attr : Attr
  target : EntryId
  deriving DecidableEq, Repr

/-- The references that leave the store, by entry and then by attribute. -/
def dangling (s : Store) : List Dangling :=
  s.toList.flatMap fun e =>
    (e.references.filter fun r => !s.contains r.2).map fun r => ⟨e.id, r.1, r.2⟩

/-- A position in the table belongs to an entry. -/
theorem position_eq_none_iff {s : Store} {id : EntryId} :
    s.position[id]? = none ↔ ∀ e ∈ s.toList, e.id ≠ id := by
  constructor
  · intro h e he hid
    obtain ⟨i, hi⟩ := List.mem_iff_getElem?.1 he
    have := (s.position_eq_some_iff id i).2 ⟨e, by simpa [toList] using hi, hid⟩
    simp [h] at this
  · intro h
    cases hp : s.position[id]? with
    | none => rfl
    | some i =>
      obtain ⟨e, he, hid⟩ := (s.position_eq_some_iff id i).1 hp
      have : e ∈ s.toList := List.mem_iff_getElem?.2 ⟨i, by simpa [toList] using he⟩
      exact absurd hid (h e this)

/-- Two entries of a store with one identifier are the same entry. -/
theorem eq_of_id_eq {s : Store} {a b : Entry} (ha : a ∈ s.toList) (hb : b ∈ s.toList)
    (h : a.id = b.id) : a = b := by
  obtain ⟨i, hi⟩ := List.mem_iff_getElem?.1 ha
  obtain ⟨j, hj⟩ := List.mem_iff_getElem?.1 hb
  simp only [toList, Array.getElem?_toList] at hi hj
  have pi := (s.position_eq_some_iff b.id i).2 ⟨a, hi, h⟩
  have pj := (s.position_eq_some_iff b.id j).2 ⟨b, hj, rfl⟩
  rw [pi] at pj
  have : i = j := by simpa using pj
  subst this
  rw [hi] at hj
  simpa using hj

/-- A look-up finds exactly the entry with that identifier. -/
theorem get?_eq_some_iff {s : Store} {id : EntryId} {e : Entry} :
    s.get? id = some e ↔ e ∈ s.toList ∧ e.id = id := by
  constructor
  · intro h
    unfold get? at h
    split at h
    · next i hi =>
      obtain ⟨x, hx, hid⟩ := (s.position_eq_some_iff id i).1 hi
      rw [hx] at h
      obtain rfl : x = e := by simpa using h
      exact ⟨List.mem_iff_getElem?.2 ⟨i, by simpa [toList] using hx⟩, hid⟩
    · simp at h
  · rintro ⟨he, hid⟩
    obtain ⟨i, hi⟩ := List.mem_iff_getElem?.1 he
    simp only [toList, Array.getElem?_toList] at hi
    have := (s.position_eq_some_iff id i).2 ⟨e, hi, hid⟩
    simp [get?, this, hi]

/-- A look-up fails exactly when no entry has that identifier. -/
theorem get?_eq_none_iff {s : Store} {id : EntryId} :
    s.get? id = none ↔ ∀ e ∈ s.toList, e.id ≠ id := by
  constructor
  · intro h e he hid
    simp [get?_eq_some_iff.2 ⟨he, hid⟩] at h
  · intro h
    unfold get?
    rw [position_eq_none_iff.2 h]

/-- A look-up is the search for the identifier among the entries. -/
theorem get?_eq_find? (s : Store) (id : EntryId) :
    s.get? id = s.toList.find? fun e => e.id == id := by
  cases h : s.get? id with
  | none =>
    symm
    rw [List.find?_eq_none]
    intro e he
    simpa using get?_eq_none_iff.1 h e he
  | some e =>
    obtain ⟨he, hid⟩ := get?_eq_some_iff.1 h
    symm
    cases hf : s.toList.find? fun e => e.id == id with
    | none =>
      rw [List.find?_eq_none] at hf
      exact absurd (by simpa using hid) (hf e he)
    | some x =>
      have hx : x.id = id := by simpa using List.find?_some hf
      rw [eq_of_id_eq (List.mem_of_find?_eq_some hf) he (hx.trans hid.symm)]

/-- A found entry has the identifier that was looked up. -/
theorem id_of_get? {s : Store} {id : EntryId} {e : Entry} (h : s.get? id = some e) : e.id = id :=
  (get?_eq_some_iff.1 h).2

/-- A found entry is in the store. -/
theorem mem_of_get? {s : Store} {id : EntryId} {e : Entry} (h : s.get? id = some e) :
    e ∈ s.toList :=
  (get?_eq_some_iff.1 h).1

/-- Containment agrees with look-up. -/
theorem contains_eq_isSome_get? (s : Store) (id : EntryId) :
    s.contains id = (s.get? id).isSome := by
  unfold contains get?
  rw [Std.HashMap.contains_eq_isSome_getElem?]
  cases h : s.position[id]? with
  | none => rfl
  | some i =>
    obtain ⟨e, he, -⟩ := (s.position_eq_some_iff id i).1 h
    simp [he]

/-- An accepted entry comes last. -/
theorem toList_insert {s s' : Store} {e : Entry} (h : s.insert e = .ok s') :
    s'.toList = s.toList ++ [e] := by
  unfold insert at h
  split at h
  · simp at h
  · simp only [Except.ok.injEq] at h
    subst h
    simp [toList]

/-- An entry is refused exactly when its identifier is taken. -/
theorem insert_eq_error_iff {s : Store} {e : Entry} {err : StoreError} :
    s.insert e = .error err ↔ s.contains e.id = true ∧ err = .duplicateEntry e.id := by
  unfold insert
  split
  · next h => simp [h, eq_comm]
  · next h => simp [h]

end Store

end Prototyper
