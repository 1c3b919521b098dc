import Mathlib.Order.WellFounded
import Prototyper.Proofs.Resolution.Defect

/-!
# How resolution ends

Both walks along type attributes keep the entries they have met, and both end because a store has
only so many of them. `walkWithin` is either walk under guard: it gives an arbitrary answer where an
entry stands on its path twice or where it nests deeper than allowed. That the answer makes no
difference (`walkWithin_eq`) says that the guard is never called.

The rest is about what a walk comes to. A type has at most as many layers and qualifiers as the
store has entries (`Denotes.entryCount_le`), a cycle is reported only where there is one
(`cycle_of_resolveFrom`), and where a walk could go on for ever there is no type (`Denotes.acc`) and
mostly a cycle (`resolveFrom_of_endless`).
-/

namespace Prototyper

/-- The tags of the wrappers for which any target will do. -/
def Tag.isUnconditional : Tag → Bool
  | constType | volatileType | pointerType => true
  | _ => false

namespace CType

/-- The number of qualifiers in all layers. -/
def qualifierCount : CType → Nat
  | leaf qs _ => qs.length
  | pointer qs pointee => qs.length + pointee.qualifierCount
  | array qs _ element => qs.length + element.qualifierCount

/-- The number of entries that a type is put together from: one for each layer and each qualifier,
and one for the specifier unless it is `void`. -/
def entryCount : CType → Nat
  | leaf qs .void => qs.length
  | leaf qs _ => qs.length + 1
  | pointer qs pointee => pointee.entryCount + 1 + qs.length
  | array qs _ element => element.entryCount + 1 + qs.length

/-- A type is put together from an entry for each layer, each qualifier and its specifier. -/
lemma entryCount_eq (t : CType) :
    t.entryCount = t.depth + t.qualifierCount + if t.specifier = .void then 0 else 1 := by
  induction t with
  | leaf qs spec => cases spec <;> simp [entryCount, depth, qualifierCount, specifier]
  | pointer qs pointee ih =>
    rw [entryCount, depth, qualifierCount, specifier, ih]
    omega
  | array qs length element ih =>
    rw [entryCount, depth, qualifierCount, specifier, ih]
    omega

/-- A qualifier is one more entry. -/
lemma entryCount_qualify (q : Qualifier) (t : CType) :
    (t.qualify q).entryCount = t.entryCount + 1 := by
  induction t with
  | leaf qs spec => cases spec <;> rfl
  | pointer qs pointee => rfl
  | array qs length element ih =>
    rw [qualify, entryCount, entryCount, ih]
    omega

end CType

namespace Store

/-! ## Walks under guard -/

/-- A walk, given what it does at an entry, that comes to another answer where it has to make more
than a number of nested calls or where its path holds an entry twice. -/
def walkWithin {α : Type} (s : Store)
    (step : (EntryId → Except Defect α) → Entry → Except Defect α) (otherwise : Except Defect α) :
    (calls : Nat) → (path : List EntryId) → EntryId → Except Defect α
  | 0, _, _ => otherwise
  | calls + 1, path, id =>
    if path.Nodup then
      if id ∈ path then .error (.referenceCycle id)
      else s.lookup id >>= step (s.walkWithin step otherwise calls (id :: path))
    else otherwise

/-- What the look-ahead for a pointer does at an entry. -/
def aheadOf (goOn : EntryId → Except Defect Bool) (e : Entry) : Except Defect Bool :=
  if e.tag = .pointerType then .ok true
  else if e.tag.isTransparent then
    e.reference .type >>= fun
      | none => .ok false
      | some t => goOn t
  else .ok false

/-- A walk that visits each entry once makes at most as many nested calls as there are entries left,
and one more, and its path never holds an entry twice. -/
lemma walkWithin_eq {α : Type} {s : Store}
    {step : (EntryId → Except Defect α) → Entry → Except Defect α}
    {walk : List EntryId → EntryId → Except Defect α}
    (steps : ∀ path id, walk path id =
      if id ∈ path then .error (.referenceCycle id) else s.lookup id >>= step (walk (id :: path)))
    (otherwise : Except Defect α) {calls : Nat} {path : List EntryId} (distinct : path.Nodup)
    (enough : s.unvisited path < calls) (id : EntryId) :
    s.walkWithin step otherwise calls path id = walk path id := by
  induction calls generalizing path id with
  | zero => exact absurd enough (Nat.not_lt_zero _)
  | succ calls ih =>
    rw [walkWithin, if_pos distinct, steps]
    by_cases old : id ∈ path
    · rw [if_pos old, if_pos old]
    · rw [if_neg old, if_neg old]
      refine bind_congr_of_ok fun e found => ?_
      -- the entry is met for the first time, so there is one fewer left
      have fewer := unvisited_lt old (lookup_eq_ok_iff.1 found)
      have further : s.walkWithin step otherwise calls (id :: path) = walk (id :: path) :=
        funext fun t => ih (List.nodup_cons.2 ⟨old, distinct⟩) (by omega) t
      rw [further]

/-- In the beginning no entry has been visited. -/
lemma unvisited_nil (s : Store) : s.unvisited [] = s.size := by
  unfold unvisited size toList
  simp

/-! ## The size of a type -/

/-- The entries that a type is put together from are in the store, and none of them was visited. -/
lemma Denotes.entryCount_le {s : Store} {id : EntryId} {d : CType} (h : s.Denotes id d)
    (path : List EntryId)
    (reach : ∀ p ∈ path, Relation.TransGen (s.TypeLink Tag.isWrapper) p id) :
    d.entryCount ≤ s.unvisited path := by
  -- an entry on the path would lead back to itself
  have fresh : id ∉ path := fun old => h.acyclic (reach id old)
  induction h generalizing path with
  | @qualifiedVoid id e q he _ _ _ => exact Nat.one_le_of_lt (unvisited_lt fresh he)
  | @qualified id e q t d _ he tag _ type ht front ih =>
    obtain rfl := CType.qualified_iff.1 front
    have reach' := TypeLink.reach ⟨e, he, Tag.isWrapper_of_qualifier? tag, type⟩ reach
    have rest := ih (id :: path) reach' fun old => ht.acyclic (reach' t old)
    have fewer := unvisited_lt fresh he
    rw [CType.entryCount_qualify]
    omega
  | voidPointer he _ _ => exact Nat.one_le_of_lt (unvisited_lt fresh he)
  | @pointer id e t d he tag type ht ih =>
    have reach' := TypeLink.reach ⟨e, he, by rw [tag]; rfl, type⟩ reach
    have rest := ih (id :: path) reach' fun old => ht.acyclic (reach' t old)
    have fewer := unvisited_lt fresh he
    rw [CType.entryCount, List.length_nil]
    omega
  | @array id e children length t d he tag _ _ type ht _ ih =>
    have reach' := TypeLink.reach ⟨e, he, by rw [tag]; rfl, type⟩ reach
    have rest := ih (id :: path) reach' fun old => ht.acyclic (reach' t old)
    have fewer := unvisited_lt fresh he
    rw [CType.entryCount, List.length_nil]
    omega
  | base he _ _ => exact Nat.one_le_of_lt (unvisited_lt fresh he)
  | typedef he _ _ => exact Nat.one_le_of_lt (unvisited_lt fresh he)
  | aggregate he _ => exact Nat.one_le_of_lt (unvisited_lt fresh he)

/-! ## Cycles -/

/-- A cycle that the walk reports is one of wrappers, or one of qualifiers and type names. -/
lemma cycle_of_resolveFrom {s : Store} {path : List EntryId} {id x : EntryId}
    (reach : ∀ p ∈ path, Relation.TransGen (s.TypeLink Tag.isWrapper) p id)
    (h : s.resolveFrom path id = .error (.referenceCycle x)) :
    Relation.TransGen (s.TypeLink Tag.isWrapper) x x ∨
      Relation.TransGen (s.TypeLink Tag.isTransparent) x x := by
  cases typeDefect_of_resolveFrom reach h with
  | cycle _ back => exact back
  | fault _ _ wrong =>
    -- no entry is at fault for a cycle all by itself
    cases wrong with
    | leadsNowhere _ nowhere => cases nowhere

/-! ## Endless walks -/

/-- A wrapper for which any target will do has the defects of its target. -/
lemma typeOf_of_target {s : Store} {typeAt : EntryId → Except Defect CType} {e : Entry}
    {t : EntryId} {d : Defect} (tag : e.tag.isUnconditional = true)
    (type : e.attr .type = some (.ref t)) (fails : typeAt t = .error d) :
    s.typeOf typeAt e = .error d := by
  have target : targetType typeAt e = .error d :=
    bind_eq_error_iff.2 (.inr ⟨some t, Entry.reference_eq_some_iff.2 type, fails⟩)
  unfold typeOf
  cases tag' : e.tag <;> rw [tag'] at tag <;>
    simp only [Tag.isUnconditional, Bool.false_eq_true] at tag
  case constType => exact bind_eq_error_iff.2 (.inl target)
  case volatileType => exact bind_eq_error_iff.2 (.inl target)
  case pointerType => exact bind_eq_error_iff.2 (.inl target)

/-- Where constants, volatiles and pointers go on for ever, the walk comes to a cycle at the first
entry that it meets again, whether it met it on the way or before. -/
lemma resolveFrom_of_endless {s : Store} (path : List EntryId) {id : EntryId}
    (walk : Nat → EntryId) (start : walk 0 = id)
    (links : ∀ n, s.TypeLink Tag.isUnconditional (walk n) (walk (n + 1))) :
    ∃ n, (walk n ∈ path ∨ ∃ i < n, walk i = walk n) ∧
      (∀ j < n, walk j ∉ path ∧ ∀ i < j, walk i ≠ walk j) ∧
      s.resolveFrom path id = .error (.referenceCycle (walk n)) := by
  induction path, id using resolveFrom.induct s generalizing walk with
  | case1 path id old =>
    refine ⟨0, .inl (start ▸ old), by simp, ?_⟩
    rw [resolveFrom_eq, if_pos old, start]
  | case2 path id fresh missing =>
    obtain ⟨e, he, -⟩ := links 0
    rw [start, missing] at he
    cases he
  | case3 path id fresh e he ih =>
    obtain ⟨e', he', tag, type⟩ := links 0
    rw [start, he] at he'
    cases he'
    -- the rest of the walk counts from its second entry, with the first one on the path
    obtain ⟨n, again, first, cycle⟩ :=
      ih (walk 1) (fun n => walk (n + 1)) rfl fun n => links (n + 1)
    refine ⟨n + 1, ?_, ?_, ?_⟩
    · rcases again with old | ⟨i, before, same⟩
      · rcases List.mem_cons.1 old with back | old
        · exact .inr ⟨0, Nat.succ_pos n, start.trans back.symm⟩
        · exact .inl old
      · exact .inr ⟨i + 1, Nat.succ_lt_succ before, same⟩
    · intro j before
      cases j with
      | zero => exact ⟨start ▸ fresh, fun i none => absurd none (Nat.not_lt_zero i)⟩
      | succ j =>
        obtain ⟨new, others⟩ := first j (Nat.lt_of_succ_lt_succ before)
        refine ⟨fun old => new (List.mem_cons_of_mem id old), fun i earlier same => ?_⟩
        cases i with
        | zero => exact new (same ▸ start ▸ List.mem_cons_self)
        | succ i => exact others i (Nat.lt_of_succ_lt_succ earlier) same
    · rw [resolveFrom_of_fresh fresh he]
      exact typeOf_of_target tag type cycle

/-- Resolution ends, however the references of a store run: neither walk makes more nested calls
than the store has entries, and one, nor meets an entry on its path again without ending there. A
type has no more layers, qualifiers and specifier than the store has entries, and a cycle is
reported of an entry that leads back to itself. Where wrappers go on for ever there is no type, and
if they are constants, volatiles and pointers, the cycle is reported of the first of them that is
met again. -/
theorem resolve_within_size (s : Store) (start : EntryId) :
    (∀ otherwise, s.walkWithin s.typeOf otherwise (s.size + 1) [] start = s.resolve start) ∧
    (∀ otherwise,
      s.walkWithin aheadOf otherwise (s.size + 1) [] start = s.isPointerLike (some start)) ∧
    (∀ d, s.resolve start = .ok d →
      d.depth + d.qualifierCount + (if d.specifier = .void then 0 else 1) ≤ s.size) ∧
    (∀ id, s.resolve start = .error (.referenceCycle id) →
      Relation.TransGen (s.TypeLink Tag.isFollowed) id id) ∧
    (∀ walk : Nat → EntryId, walk 0 = start →
      (∀ n, s.TypeLink Tag.isWrapper (walk n) (walk (n + 1))) → ∃ d, s.resolve start = .error d) ∧
    ∀ walk : Nat → EntryId, walk 0 = start →
      (∀ n, s.TypeLink Tag.isUnconditional (walk n) (walk (n + 1))) →
      ∃ n, (∃ i < n, walk i = walk n) ∧ (∀ j < n, ∀ i < j, walk i ≠ walk j) ∧
        s.resolve start = .error (.referenceCycle (walk n)) := by
  have enough : s.unvisited [] < s.size + 1 := by
    rw [unvisited_nil]
    exact Nat.lt_succ_self _
  refine ⟨fun otherwise => ?_, fun otherwise => ?_, fun d h => ?_, fun id h => ?_,
    fun walk first links => ?_, fun walk first links => ?_⟩
  · exact walkWithin_eq (resolveFrom_eq s) otherwise List.nodup_nil enough start
  · exact walkWithin_eq (isPointerLikeFrom_eq s) otherwise List.nodup_nil enough start
  · rw [← CType.entryCount_eq, ← unvisited_nil]
    exact (denotes_of_walk h).entryCount_le [] (by simp)
  · rcases cycle_of_resolveFrom (by simp) h with cycle | cycle
    · exact cycle.lift _ fun _ _ => TypeLink.mono Tag.isFollowed_of_isWrapper
    · exact cycle.lift _ fun _ _ => TypeLink.mono Tag.isFollowed_of_isTransparent
  · cases h : s.resolve start with
    | error d => exact ⟨d, rfl⟩
    | ok d =>
      have ends := acc_iff_isEmpty_descending_chain.1 (denotes_of_walk h).acc
      exact ends.elim ⟨walk, first, links⟩
  · obtain ⟨n, old | again, first', cycle⟩ := resolveFrom_of_endless [] walk first links
    · cases old
    · exact ⟨n, again, fun j before => (first' j before).2, cycle⟩

/-- A pointer at `<0x20>` to constants of its own type, at `<0x28>`. -/
def pointerLoop : List Entry :=
  [⟨⟨0x20⟩, .pointerType, .ofList [(.type, .ref ⟨0x28⟩)], []⟩,
   ⟨⟨0x28⟩, .constType, .ofList [(.type, .ref ⟨0x20⟩)], []⟩]

/-- The loop of a pointer and a constant is reported of the pointer, where the walk began. -/
theorem resolve_within_size_pointerLoop :
    ∃ s, Store.ofList pointerLoop = .ok s ∧
      s.resolve ⟨0x20⟩ = .error (.referenceCycle ⟨0x20⟩) := by
  have distinct : (pointerLoop.map Entry.id).Nodup := by decide
  obtain ⟨s, made, list⟩ := Store.ofList_of_nodup distinct
  have atPointer : s.get? ⟨0x20⟩ = pointerLoop[0]? := by
    rw [Store.get?_eq_find?, list]
    rfl
  have atConst : s.get? ⟨0x28⟩ = pointerLoop[1]? := by
    rw [Store.get?_eq_find?, list]
    rfl
  let walk : Nat → EntryId := fun n => if n % 2 = 0 then ⟨0x20⟩ else ⟨0x28⟩
  have links : ∀ n, s.TypeLink Tag.isUnconditional (walk n) (walk (n + 1)) := by
    intro n
    rcases Nat.mod_two_eq_zero_or_one n with even | odd
    · have next : (n + 1) % 2 = 1 := by omega
      simp only [walk, even, next, if_true, if_neg Nat.one_ne_zero]
      exact ⟨_, atPointer, rfl, rfl⟩
    · have next : (n + 1) % 2 = 0 := by omega
      simp only [walk, odd, next, if_true, if_neg Nat.one_ne_zero]
      exact ⟨_, atConst, rfl, rfl⟩
  obtain ⟨n, ⟨i, before, same⟩, first, cycle⟩ :=
    (resolve_within_size s ⟨0x20⟩).2.2.2.2.2 walk rfl links
  -- the walk is back after two steps, and not before
  have notLater : ¬ 2 < n := fun later => first 2 later 0 (by decide) rfl
  have notSooner : n ≠ 1 := by
    rintro rfl
    obtain rfl : i = 0 := by omega
    exact absurd same (by decide)
  obtain rfl : n = 2 := by omega
  exact ⟨s, made, cycle⟩

end Store

end Prototyper
