import Mathlib.Data.List.Forall2
import Mathlib.Tactic.Lemma
import Prototyper.Defect

/-!
# Look-ups that succeed

What every walk over a store rests on: a look-up gives the entry with that identifier, a reference
attribute gives the entry that it names, and a computation that may fail succeeds exactly when its
steps do. Filling a store succeeds as long as no identifier occurs twice.
-/

namespace Prototyper

/-- A computation succeeds when its first step does and the rest does with what the step gives. -/
lemma bind_eq_ok_iff {ε α β : Type} {x : Except ε α} {f : α → Except ε β} {b : β} :
    (x >>= f) = .ok b ↔ ∃ a, x = .ok a ∧ f a = .ok b := by
  cases x with
  | error err => simp [bind, Except.bind]
  | ok a => simp [bind, Except.bind]

/-- A computation fails where its first step does, or the rest with what the step gives. -/
lemma bind_eq_error_iff {ε α β : Type} {x : Except ε α} {f : α → Except ε β} {err : ε} :
    (x >>= f) = .error err ↔ x = .error err ∨ ∃ a, x = .ok a ∧ f a = .error err := by
  cases x with
  | error err' => simp [bind, Except.bind]
  | ok a => simp [bind, Except.bind]

/-- What follows a computation counts only on what the computation gives. -/
lemma bind_congr_of_ok {ε α β : Type} {x : Except ε α} {f g : α → Except ε β}
    (h : ∀ a, x = .ok a → f a = g a) : (x >>= f) = (x >>= g) := by
  cases x with
  | error err => rfl
  | ok a => exact h a rfl

/-- A list of computations depends on the computations of its members only. -/
lemma mapM_congr_of_mem {ε α β : Type} {f g : α → Except ε β} {as : List α}
    (h : ∀ a ∈ as, f a = g a) : as.mapM f = as.mapM g := by
  induction as with
  | nil => rfl
  | cons a as ih =>
    rw [List.mapM_cons, List.mapM_cons, h a List.mem_cons_self,
      ih fun b hb => h b (List.mem_cons_of_mem a hb)]

/-- Of two lists that correspond, each member of the first one has a partner in the second one. -/
lemma exists_of_mem_left {α β : Type} {r : α → β → Prop} {as : List α} {bs : List β}
    (h : List.Forall₂ r as bs) {a : α} (mem : a ∈ as) : ∃ b ∈ bs, r a b := by
  induction h with
  | nil => cases mem
  | @cons a' b as bs first _ ih =>
    rcases List.mem_cons.1 mem with rfl | mem
    · exact ⟨b, List.mem_cons_self, first⟩
    · obtain ⟨b', hb', rest⟩ := ih mem
      exact ⟨b', List.mem_cons_of_mem b hb', rest⟩

/-- A list of computations succeeds when each of them does. -/
lemma mapM_eq_ok_iff {ε α β : Type} {f : α → Except ε β} {as : List α} {bs : List β} :
    as.mapM f = .ok bs ↔ List.Forall₂ (fun a b => f a = .ok b) as bs := by
  induction as generalizing bs with
  | nil =>
    rw [List.mapM_nil, List.forall₂_nil_left_iff]
    exact ⟨fun h => (Except.ok.inj h).symm, fun h => h ▸ rfl⟩
  | cons a as ih =>
    rw [List.mapM_cons, List.forall₂_cons_left_iff]
    constructor
    · intro h
      obtain ⟨b, hb, h⟩ := bind_eq_ok_iff.1 h
      obtain ⟨bs', hbs, h⟩ := bind_eq_ok_iff.1 h
      exact ⟨b, bs', hb, ih.1 hbs, (Except.ok.inj h).symm⟩
    · rintro ⟨b, bs', hb, hbs, rfl⟩
      exact bind_eq_ok_iff.2 ⟨b, hb, bind_eq_ok_iff.2 ⟨bs', ih.2 hbs, rfl⟩⟩

/-- A look-up succeeds with the entry that has the identifier. -/
lemma Store.lookup_eq_ok_iff {s : Store} {id : EntryId} {e : Entry} :
    s.lookup id = .ok e ↔ s.get? id = some e := by
  unfold lookup get
  cases s.get? id <;> simp [Except.mapError]

/-- A look-up fails with the identifier that the store does not have. -/
lemma Store.lookup_of_missing {s : Store} {id : EntryId} (missing : s.get? id = none) :
    s.lookup id = .error (.unknownEntry id) := by
  unfold lookup get
  rw [missing]
  rfl

/-- All that a look-up can fail with is the identifier that was looked up. -/
lemma Store.lookup_eq_error_iff {s : Store} {id : EntryId} {d : Defect} :
    s.lookup id = .error d ↔ s.get? id = none ∧ d = .unknownEntry id := by
  unfold lookup get
  cases s.get? id with
  | none => simp [Except.mapError, Defect.ofStoreError, eq_comm]
  | some e => simp [Except.mapError]

/-- A list of computations fails where one of them does. -/
lemma exists_of_mapM_eq_error {ε α β : Type} {f : α → Except ε β} {as : List α} {err : ε}
    (h : as.mapM f = .error err) : ∃ a ∈ as, f a = .error err := by
  induction as with
  | nil => cases h
  | cons a as ih =>
    rw [List.mapM_cons] at h
    rcases bind_eq_error_iff.1 h with first | ⟨b, -, h⟩
    · exact ⟨a, List.mem_cons_self, first⟩
    · rcases bind_eq_error_iff.1 h with rest | ⟨bs, -, h⟩
      · obtain ⟨c, hc, fails⟩ := ih rest
        exact ⟨c, List.mem_cons_of_mem a hc, fails⟩
      · cases h

/-- A reference attribute counts as absent only if the entry does not carry it. -/
lemma Entry.reference_eq_none_iff {e : Entry} {a : Attr} :
    e.reference a = .ok none ↔ e.attr a = none := by
  unfold reference
  split
  case h_1 absent => simp [absent]
  case h_2 present => simp [present]
  case h_3 present => simp [present]
  case h_4 v _ _ present => split <;> simp [present]

/-- A reference attribute names an entry only if it is a reference to it. -/
lemma Entry.reference_eq_some_iff {e : Entry} {a : Attr} {t : EntryId} :
    e.reference a = .ok (some t) ↔ e.attr a = some (.ref t) := by
  unfold reference
  split
  case h_1 absent => simp [absent]
  case h_2 present => simp [present]
  case h_3 present => simp [present]
  case h_4 v noRef _ present =>
    have other : v ≠ .ref t := fun h => noRef t h
    split <;> simp [present, other]

/-- A value that is read as a text is the string of that text. -/
lemma Value.string?_eq_some_iff {v : Value} {text : String} :
    v.string? = some text ↔ v = .string text := by
  cases v <;> simp [string?]

/-- The name of an entry is the string that its name attribute holds. -/
lemma Entry.name?_eq_some_iff {e : Entry} {name : String} :
    e.name? = some name ↔ e.attr .name = some (.string name) := by
  unfold name?
  simp only [Option.bind_eq_some_iff, Value.string?_eq_some_iff, exists_eq_right]

/-- No two entries of a store have the same identifier, wherever they stand. -/
lemma Store.nodup_ids (s : Store) : (s.toList.map Entry.id).Nodup := by
  -- the table has one position for an identifier
  have position : ∀ (i : Nat) (hi : i < s.toList.length), s.position[s.toList[i].id]? = some i := by
    intro i hi
    refine (s.position_eq_some_iff _ i).2 ⟨s.toList[i], ?_, rfl⟩
    rw [← Array.getElem?_toList]
    exact List.getElem?_eq_getElem hi
  rw [List.Nodup, List.pairwise_map, List.pairwise_iff_getElem]
  intro i j hi hj before same
  have first := position i hi
  rw [same, position j hj] at first
  exact Nat.ne_of_lt before (Option.some.inj first).symm

/-- A store contains the identifiers of its entries. -/
lemma Store.contains_iff {s : Store} {id : EntryId} :
    s.contains id = true ↔ id ∈ s.toList.map Entry.id := by
  rw [contains_eq_isSome_get?, Option.isSome_iff_exists, List.mem_map]
  exact exists_congr fun e => get?_eq_some_iff

/-- An entry is got if it is found. -/
lemma Store.get_eq_ok_iff {s : Store} {id : EntryId} {e : Entry} :
    s.get id = .ok e ↔ s.get? id = some e := by
  unfold get
  cases s.get? id <;> simp

/-- Where there is no entry, the identifier is unknown. -/
lemma Store.get_of_missing {s : Store} {id : EntryId} (missing : id ∉ s.toList.map Entry.id) :
    s.get id = .error (.unknownEntry id) := by
  have none : s.get? id = none :=
    get?_eq_none_iff.2 fun e he same => missing (same ▸ List.mem_map_of_mem he)
  rw [get, none]

/-- A reference is listed where the store does not have the entry that it names. -/
lemma Store.mem_dangling_iff {s : Store} {x : EntryId} {a : Attr} {t : EntryId} :
    ⟨x, a, t⟩ ∈ s.dangling ↔
      ∃ e ∈ s.toList, e.id = x ∧ e.attr a = some (.ref t) ∧ t ∉ s.toList.map Entry.id := by
  have missing : s.contains t = false ↔ t ∉ s.toList.map Entry.id := by
    rw [← contains_iff, Bool.not_eq_true]
  unfold dangling
  rw [List.mem_flatMap]
  refine exists_congr fun e => and_congr_right fun _ => ?_
  rw [List.mem_map, ← missing]
  constructor
  · rintro ⟨r, listed, same⟩
    obtain ⟨mem, absent⟩ := List.mem_filter.1 listed
    cases same
    exact ⟨rfl, Entry.mem_references.1 mem, by simpa using absent⟩
  · rintro ⟨rfl, reference, absent⟩
    have mem := Entry.mem_references.2 reference
    exact ⟨(a, t), List.mem_filter.2 ⟨mem, by simpa using absent⟩, rfl⟩

/-- Entries that are appended to a store come behind those that it has. -/
lemma Store.toList_insertAll {s s' : Store} {es : List Entry} (h : s.insertAll es = .ok s') :
    s'.toList = s.toList ++ es := by
  induction es generalizing s with
  | nil =>
    cases h
    exact (List.append_nil _).symm
  | cons e es ih =>
    rw [insertAll] at h
    split at h
    case h_1 s₁ inserted =>
      rw [ih h, toList_insert inserted, List.append_assoc, List.singleton_append]
    case h_2 => cases h

/-- A store that is made from a list lists it. -/
lemma Store.toList_ofList {s : Store} {es : List Entry} (h : ofList es = .ok s) : s.toList = es :=
  toList_insertAll h

/-- Entries can be appended to a store as long as no identifier occurs twice. -/
lemma Store.insertAll_of_nodup {s : Store} {es : List Entry}
    (distinct : ((s.toList ++ es).map Entry.id).Nodup) :
    ∃ s', s.insertAll es = .ok s' ∧ s'.toList = s.toList ++ es := by
  induction es generalizing s with
  | nil => exact ⟨s, rfl, (List.append_nil _).symm⟩
  | cons e es ih =>
    cases h : s.insert e with
    | error err =>
      -- the identifier of `e` would stand both in the store and behind it
      obtain ⟨taken, -⟩ := insert_eq_error_iff.1 h
      rw [contains_eq_isSome_get?, Option.isSome_iff_exists] at taken
      obtain ⟨x, found⟩ := taken
      obtain ⟨mem, same⟩ := get?_eq_some_iff.1 found
      rw [List.map_append, List.nodup_append] at distinct
      exact absurd same
        (distinct.2.2 _ (List.mem_map_of_mem mem) _ (List.mem_map_of_mem List.mem_cons_self))
    | ok s' =>
      have list : s'.toList ++ es = s.toList ++ e :: es := by
        rw [toList_insert h, List.append_assoc, List.singleton_append]
      rw [← list] at distinct ⊢
      obtain ⟨s'', inserted, list'⟩ := ih distinct
      refine ⟨s'', ?_, list'⟩
      unfold insertAll
      rw [h]
      exact inserted

/-- Entries of which no two have the same identifier make up a store. -/
lemma Store.ofList_of_nodup {es : List Entry} (distinct : (es.map Entry.id).Nodup) :
    ∃ s, Store.ofList es = .ok s ∧ s.toList = es :=
  insertAll_of_nodup distinct

/-- In a store made up of entries, a look-up is a search among them. -/
lemma Store.get?_of_toList {s : Store} {es : List Entry} (list : s.toList = es) (id : EntryId) :
    s.get? id = es.find? fun e => e.id == id := by
  rw [get?_eq_find?, list]

end Prototyper
