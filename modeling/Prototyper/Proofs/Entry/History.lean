import Prototyper.Proofs.Lookup

/-!
# The history of a store

A store comes about by calls that append an entry or fill it anew, and a call that is refused leaves
it as it was. `inserted` keeps the log of such a history without a store: the entries that went in
since the store was last filled. `Holds` says what can be told of a store from its log, and
`holds_afterAll` that this is so after every history.
-/

namespace Prototyper

namespace Store

/-- A call that may change a store: an entry is appended, or a list of entries takes the place of
all entries. -/
inductive Call where
  | insert (e : Entry)
  | refill (es : List Entry)

/-- The store after a call. A call that is refused leaves the store as it was. -/
def after (s : Store) : Call → Store
  | .insert e => (s.insert e).toOption.getD s
  | .refill es => (ofList es).toOption.getD s

def afterAll (s : Store) (calls : List Call) : Store :=
  calls.foldl after s

/-- A call fills a store anew if no identifier occurs twice in its list. -/
def Call.Replaces (call : Call) : Prop :=
  ∃ es, call = .refill es ∧ (es.map Entry.id).Nodup

/-- The log after a call: an entry with a new identifier comes last, and a list in which no
identifier occurs twice is a log of its own. -/
def Call.log (log : List Entry) : Call → List Entry
  | .insert e => if e.id ∈ log.map Entry.id then log else log ++ [e]
  | .refill es => if (es.map Entry.id).Nodup then es else log

/-- The entries that calls have put into a store that was empty, since it was last filled. -/
def inserted (calls : List Call) : List Entry :=
  calls.foldl Call.log []

/-- All that can be asked of a store. -/
structure Observations where
  size : Nat
  isEmpty : Bool
  entries : List Entry
  get : EntryId → Except StoreError Entry
  contains : EntryId → Bool
  childrenOf : EntryId → Except StoreError (List Entry)
  subprograms : List Entry
  root? : Option Entry
  dangling : List Dangling

def observations (s : Store) : Observations where
  size := s.size
  isEmpty := s.isEmpty
  entries := s.toList
  get := s.get
  contains := s.contains
  childrenOf := s.childrenOf
  subprograms := s.subprograms
  root? := s.root?
  dangling := s.dangling

/-- A store has exactly the entries of a log, in their order, and can be asked for each of them. It
takes an entry with a new identifier, and refuses any other one without a trace. -/
structure Holds (s : Store) (log : List Entry) : Prop where
  distinct : (log.map Entry.id).Nodup
  entries : s.toList = log
  present : ∀ e ∈ log, s.get e.id = .ok e ∧ s.contains e.id = true
  absent : ∀ id ∉ log.map Entry.id, s.get id = .error (.unknownEntry id) ∧ s.contains id = false
  accepts : ∀ e, e.id ∉ log.map Entry.id → ∃ s', s.insert e = .ok s' ∧ s'.toList = log ++ [e]
  refuses : ∀ e, e.id ∈ log.map Entry.id → s.insert e = .error (.duplicateEntry e.id) ∧
    (s.after (.insert e)).observations = s.observations

/-- An entry of a list is the first one whose identifier an earlier entry has. -/
def FirstRepeated (es : List Entry) (e : Entry) : Prop :=
  ∃ front rest, es = front ++ e :: rest ∧ (front.map Entry.id).Nodup ∧ e.id ∈ front.map Entry.id

/-- A store gives each entry that another one gives. -/
def Extends (s' s : Store) : Prop :=
  ∀ ⦃id e⦄, s.get? id = some e → s'.get? id = some e

/-! ## What a store answers -/

variable {s s' : Store}

/-- An entry is taken exactly when its identifier is new. -/
lemma insert_of_new {e : Entry} (new : e.id ∉ s.toList.map Entry.id) :
    ∃ s', s.insert e = .ok s' ∧ s'.toList = s.toList ++ [e] := by
  cases h : s.insert e with
  | error err => exact absurd (contains_iff.1 (insert_eq_error_iff.1 h).1) new
  | ok s' => exact ⟨s', rfl, toList_insert h⟩

/-- An entry is refused where its identifier is taken. -/
lemma insert_of_taken {e : Entry} (taken : e.id ∈ s.toList.map Entry.id) :
    s.insert e = .error (.duplicateEntry e.id) :=
  insert_eq_error_iff.2 ⟨contains_iff.2 taken, rfl⟩

/-- The entries of a store determine all that it answers. -/
lemma observations_eq (same : s'.toList = s.toList) : s'.observations = s.observations := by
  have get? : s'.get? = s.get? := by
    funext id
    rw [get?_eq_find?, get?_eq_find?, same]
  have get : s'.get = s.get := by
    funext id
    rw [Store.get, Store.get, get?]
  have contains : s'.contains = s.contains := by
    funext id
    rw [contains_eq_isSome_get?, contains_eq_isSome_get?, get?]
  have childrenOf : s'.childrenOf = s.childrenOf := by
    funext id
    rw [Store.childrenOf, Store.childrenOf, get]
  have entries : s'.entries = s.entries := Array.toList_inj.1 same
  simp only [observations, size, isEmpty, subprograms, root?, dangling, same, get, contains,
    childrenOf, entries]

/-! ## Lists that fill a store -/

/-- Appending stops at the first entry whose identifier the store or an earlier entry has. -/
lemma insertAll_eq_error_iff {es : List Entry} {err : StoreError} :
    s.insertAll es = .error err ↔ ∃ front e rest, es = front ++ e :: rest ∧
      ((s.toList ++ front).map Entry.id).Nodup ∧ e.id ∈ (s.toList ++ front).map Entry.id ∧
      err = .duplicateEntry e.id := by
  induction es generalizing s with
  | nil => simp [insertAll]
  | cons x es ih =>
    rw [insertAll]
    by_cases taken : x.id ∈ s.toList.map Entry.id
    case pos =>
      rw [insert_of_taken taken]
      constructor
      · intro h
        cases h
        refine ⟨[], x, es, rfl, ?_, ?_, rfl⟩
        · rw [List.append_nil]
          exact s.nodup_ids
        · rw [List.append_nil]
          exact taken
      · rintro ⟨_ | ⟨y, front⟩, e, rest, split, distinct, -, rfl⟩
        · cases split
          rfl
        · -- the first entry is taken, so a longer front has its identifier twice
          cases split
          rw [List.map_append, List.nodup_append] at distinct
          exact absurd rfl (distinct.2.2 _ taken _ List.mem_cons_self)
    case neg =>
      obtain ⟨s', accepted, list⟩ := insert_of_new taken
      rw [accepted]
      dsimp only
      rw [ih, list]
      simp only [List.append_assoc, List.singleton_append]
      constructor
      · rintro ⟨front, e, rest, rfl, h⟩
        exact ⟨x :: front, e, rest, rfl, h⟩
      · rintro ⟨_ | ⟨y, front⟩, e, rest, split, distinct, repeated, rfl⟩
        · cases split
          rw [List.append_nil] at repeated
          exact absurd repeated taken
        · cases split
          exact ⟨front, e, rest, rfl, distinct, repeated, rfl⟩

/-- A list is refused for the first entry that repeats an identifier. -/
lemma ofList_eq_error_iff {es : List Entry} {err : StoreError} :
    ofList es = .error err ↔ ∃ e, FirstRepeated es e ∧ err = .duplicateEntry e.id := by
  rw [ofList, insertAll_eq_error_iff]
  constructor
  · rintro ⟨front, e, rest, split, distinct, repeated, rfl⟩
    exact ⟨e, ⟨front, rest, split, distinct, repeated⟩, rfl⟩
  · rintro ⟨e, ⟨front, rest, split, distinct, repeated⟩, rfl⟩
    exact ⟨front, e, rest, split, distinct, repeated, rfl⟩

/-- A list fills a store exactly when no identifier occurs twice in it. -/
lemma exists_ofList_iff {es : List Entry} :
    (∃ s, ofList es = .ok s) ↔ (es.map Entry.id).Nodup := by
  constructor
  · rintro ⟨s, made⟩
    rw [← toList_ofList made]
    exact s.nodup_ids
  · intro distinct
    obtain ⟨s, made, -⟩ := ofList_of_nodup distinct
    exact ⟨s, made⟩

/-! ## Calls -/

/-- A call does to the entries of a store what it does to a log. -/
lemma toList_after (s : Store) (call : Call) : (s.after call).toList = call.log s.toList := by
  cases call with
  | insert e =>
    by_cases taken : e.id ∈ s.toList.map Entry.id
    · rw [after, insert_of_taken taken, Call.log, if_pos taken]
      rfl
    · obtain ⟨s', accepted, list⟩ := insert_of_new taken
      rw [after, accepted, Call.log, if_neg taken]
      exact list
  | refill es =>
    by_cases distinct : (es.map Entry.id).Nodup
    · obtain ⟨s', made, list⟩ := ofList_of_nodup distinct
      rw [after, made, Call.log, if_pos distinct]
      exact list
    · rw [after, Call.log, if_neg distinct]
      cases made : ofList es with
      | error err => rfl
      | ok s' => exact absurd (exists_ofList_iff.1 ⟨s', made⟩) distinct

/-- The entries of a store are those that the calls have put into it. -/
lemma toList_afterAll (calls : List Call) : (empty.afterAll calls).toList = inserted calls := by
  suffices all : ∀ s : Store, (s.afterAll calls).toList = calls.foldl Call.log s.toList from
    all empty
  induction calls with
  | nil => exact fun s => rfl
  | cons call calls ih =>
    intro s
    rw [List.foldl_cons, ← toList_after]
    exact ih (s.after call)

/-- A call that does not fill a store anew leaves the entries that are there. -/
lemma extends_after (s : Store) {call : Call} (keeps : ¬ call.Replaces) :
    (s.after call).Extends s := by
  intro id e found
  rw [get?_eq_some_iff] at found ⊢
  refine ⟨?_, found.2⟩
  rw [toList_after]
  cases call with
  | insert x =>
    rw [Call.log]
    split
    case isTrue => exact found.1
    case isFalse => exact List.mem_append_left _ found.1
  | refill es =>
    have repeated : ¬ (es.map Entry.id).Nodup := fun distinct => keeps ⟨es, rfl, distinct⟩
    rw [Call.log, if_neg repeated]
    exact found.1

/-- Calls that do not replace a store keep what is in it. -/
lemma extends_afterAll {calls : List Call} (keep : ∀ call ∈ calls, ¬ call.Replaces) (s : Store) :
    (s.afterAll calls).Extends s := by
  induction calls generalizing s with
  | nil => exact fun _ _ found => found
  | cons call calls ih =>
    have first := extends_after s (keep call List.mem_cons_self)
    have rest := ih (fun c hc => keep c (List.mem_cons_of_mem call hc)) (s.after call)
    exact fun _ _ found => rest (first found)

/-- A store holds its own entries. -/
lemma holds_toList (s : Store) : s.Holds s.toList where
  distinct := s.nodup_ids
  entries := rfl
  present := fun e he =>
    ⟨get_eq_ok_iff.2 (get?_eq_some_iff.2 ⟨he, rfl⟩), contains_iff.2 (List.mem_map_of_mem he)⟩
  absent := fun id missing =>
    ⟨get_of_missing missing, Bool.eq_false_iff.2 fun present => missing (contains_iff.1 present)⟩
  accepts := fun e new => insert_of_new new
  refuses := by
    intro e taken
    refine ⟨insert_of_taken taken, observations_eq ?_⟩
    rw [toList_after, Call.log, if_pos taken]

/-- Whatever calls are made, a store holds what they have put into it. -/
lemma holds_inserted (calls : List Call) : (empty.afterAll calls).Holds (inserted calls) := by
  rw [← toList_afterAll]
  exact holds_toList _

/-- After any calls, an empty store holds the entries that went in since it was last filled. An
entry that is there is found unchanged until the store is filled anew. A list fills a store exactly
when no identifier occurs twice in it, and otherwise the first entry that repeats one is the error. -/
theorem holds_afterAll (calls : List Call) :
    (empty.afterAll calls).Holds (inserted calls) ∧
    (∀ later : List Call, (∀ call ∈ later, ¬ call.Replaces) →
      ∀ id, (empty.afterAll calls).contains id = true →
        (empty.afterAll (calls ++ later)).get id = (empty.afterAll calls).get id) ∧
    (∀ es, (∃ s, ofList es = .ok s) ↔ (es.map Entry.id).Nodup) ∧
    ∀ es err, ofList es = .error err ↔ ∃ e, FirstRepeated es e ∧ err = .duplicateEntry e.id := by
  refine ⟨holds_inserted calls, fun later keep id present => ?_, fun es => exists_ofList_iff,
    fun es err => ofList_eq_error_iff⟩
  rw [contains_eq_isSome_get?, Option.isSome_iff_exists] at present
  obtain ⟨e, found⟩ := present
  have kept := extends_afterAll keep (empty.afterAll calls) found
  rw [get_eq_ok_iff.2 found, get_eq_ok_iff, afterAll, List.foldl_append]
  exact kept

/-- The type `int` at `<0x20>`. -/
def intType : Entry :=
  ⟨⟨0x20⟩, .baseType, .ofList [(.name, .string "int")], []⟩

/-- The type `long`, also at `<0x20>`. -/
def longType : Entry :=
  ⟨⟨0x20⟩, .baseType, .ofList [(.name, .string "long")], []⟩

/-- Neither a second entry with the same identifier nor a list with two of them displaces the first
entry. -/
theorem holds_afterAll_intType :
    (empty.afterAll [.insert intType]).Holds [intType] ∧
    (empty.afterAll [.insert intType]).get ⟨0x20⟩ = .ok intType ∧
    (empty.afterAll [.insert intType, .insert longType, .refill [longType, longType]]).get ⟨0x20⟩ =
      .ok intType ∧
    ofList [longType, longType] = .error (.duplicateEntry ⟨0x20⟩) := by
  obtain ⟨holds, kept, -, refused⟩ := holds_afterAll [.insert intType]
  obtain ⟨found, present⟩ := holds.present intType List.mem_cons_self
  have keep : ∀ call ∈ [Call.insert longType, .refill [longType, longType]], ¬ call.Replaces := by
    intro call hcall
    rcases List.mem_cons.1 hcall with rfl | hcall
    · rintro ⟨es, ⟨⟩, -⟩
    · obtain rfl := List.mem_singleton.1 hcall
      rintro ⟨es, ⟨⟩, distinct⟩
      exact absurd distinct (by decide)
  refine ⟨holds, found, ?_, ?_⟩
  · exact (kept _ keep _ present).trans found
  · exact (refused _ _).2 ⟨longType, ⟨[longType], [], rfl, by decide, by decide⟩, rfl⟩

/-- An entry that is there is lost when the store is filled anew. -/
theorem get_lost_refill :
    (empty.afterAll [.insert intType]).contains ⟨0x20⟩ = true ∧
    (empty.afterAll [.insert intType]).get ⟨0x20⟩ = .ok intType ∧
    (empty.afterAll [.insert intType, .refill []]).get ⟨0x20⟩ =
      .error (.unknownEntry ⟨0x20⟩) := by
  obtain ⟨found, present⟩ :=
    (holds_inserted [.insert intType]).present intType List.mem_cons_self
  obtain ⟨lost, -⟩ :=
    (holds_inserted [.insert intType, .refill []]).absent ⟨0x20⟩ List.not_mem_nil
  exact ⟨present, found, lost⟩

end Store

end Prototyper
