import Prototyper.Proofs.Decoding.Layout

/-!
# Trees that are decoded

The tree that is decoded is the one that the bytes hold, as `tree_eq_ok_iff` says, with what the unit
makes of the attributes. Where none is decoded, something is wrong in the debugging information.
-/

namespace Prototyper

/-- What a fault comes from, without its contexts. -/
def Fault.origin : Fault → Fault
  | inContext _ fault => fault.origin
  | fault => fault

/-- Another error changes no value. -/
lemma mapError_eq_ok_iff {ε ε' α : Type} {x : Except ε α} {f : ε → ε'} {a : α} :
    x.mapError f = .ok a ↔ x = .ok a := by
  cases x <;> simp [Except.mapError]

/-- Another error takes the place of each error. -/
lemma mapError_eq_error_iff {ε ε' α : Type} {x : Except ε α} {f : ε → ε'} {e' : ε'} :
    x.mapError f = .error e' ↔ ∃ e, x = .error e ∧ f e = e' := by
  cases x <;> simp [Except.mapError]

namespace Dwarf

/-! ## Entries -/

variable {enc : Encoding} {table : AbbreviationTable} {u : UnitContext}

/-- The first entry that is not empty is the one at the front, if there is one. -/
lemma firstHead_of_entryHead {w w₁ : Window} {abbreviation : Abbreviation}
    (h : (entryHead table).run w = .ok (some abbreviation, w₁)) :
    (firstHead table).run w = .ok (some abbreviation, w₁) := by
  have more : ¬ Input.size w = 0 := by
    have smaller : Input.size w₁ < Input.size w := consumes_entryHead table h
    omega
  have step : ((entryHead table >>= fun a => pure (some a)).unlessAtEnd).run w =
      .ok (some (some abbreviation), w₁) := by
    simp only [Reader.unlessAtEnd, if_neg more]
    exact Reader.bind_run_eq_ok_iff.2 ⟨_, _, h, rfl⟩
  exact Reader.iterate_run_eq_ok <|
    (Reader.iterateFrom_of_some step).trans (Reader.iterateFrom_of_none rfl)

/-- Attributes are read where bytes hold them. -/
lemma attributesFrom_eq_ok_iff {ε : Type} {fault : List RawAttribute → Error → ε}
    {specs : List AttributeSpec} {raw all : List RawAttribute} {w w' : Window} :
    (attributesFrom enc fault raw specs).run w = .ok (all, w') ↔
      ∃ new, HoldsAttributes enc specs w new w' ∧ all = raw ++ new := by
  induction specs generalizing raw w with
  | nil =>
    rw [attributesFrom, Reader.pure_run_eq_ok_iff]
    constructor
    · rintro ⟨rfl, rfl⟩
      exact ⟨[], .nil, (List.append_nil _).symm⟩
    · rintro ⟨_, ⟨⟩, rfl⟩
      exact ⟨(List.append_nil _).symm, rfl⟩
  | cons spec specs ih =>
    rw [attributesFrom, Reader.bind_run_eq_ok_iff]
    constructor
    · rintro ⟨value, w₁, read, h⟩
      obtain ⟨new, holds, rfl⟩ := ih.1 h
      refine ⟨_, .cons (Reader.mapError_run_eq_ok_iff.1 read) holds, ?_⟩
      rw [List.append_assoc, List.singleton_append]
    · rintro ⟨_, holds, rfl⟩
      cases holds with
      | cons read rest =>
        refine ⟨_, _, Reader.mapError_run_eq_ok_iff.2 read, ih.2 ⟨_, rest, ?_⟩⟩
        rw [List.append_assoc, List.singleton_append]

/-- Where attributes cannot be read, the error says which were read before. -/
lemma attributesFrom_eq_error {ε : Type} {fault : List RawAttribute → Error → ε}
    {specs : List AttributeSpec} {raw : List RawAttribute} {w : Window} {f : ε}
    (h : (attributesFrom enc fault raw specs).run w = .error f) : ∃ raw' e, f = fault raw' e := by
  induction specs generalizing raw w with
  | nil => cases h
  | cons spec specs ih =>
    rw [attributesFrom, Reader.bind_run_eq_error_iff] at h
    obtain fails | ⟨value, w₁, -, rest⟩ := h
    · obtain ⟨e, -, rfl⟩ := Reader.mapError_run_eq_error_iff.1 fails
      exact ⟨raw, e, rfl⟩
    · exact ih rest

/-- The empty entry is found where its code stands. -/
lemma head_eq_none_iff {w w' : Window} :
    (head u table).run w = .ok (none, w') ↔ (entryHead table).run w = .ok (none, w') := by
  constructor
  · intro h
    obtain ⟨offset, w₁, position, h⟩ := Reader.bind_run_eq_ok_iff.1 h
    cases position
    obtain ⟨abbreviation, w₂, code, h⟩ := Reader.bind_run_eq_ok_iff.1 h
    cases abbreviation with
    | none =>
      obtain ⟨-, rfl⟩ := Reader.pure_run_eq_ok_iff.1 h
      exact Reader.mapError_run_eq_ok_iff.1 code
    | some abbreviation =>
      obtain ⟨raw, w₃, -, h⟩ := Reader.bind_run_eq_ok_iff.1 h
      obtain ⟨⟨⟩, -⟩ := Reader.pure_run_eq_ok_iff.1 h
  · intro code
    refine Reader.bind_run_eq_ok_iff.2 ⟨w.start, w, rfl, ?_⟩
    exact Reader.bind_run_eq_ok_iff.2 ⟨_, _, Reader.mapError_run_eq_ok_iff.2 code, rfl⟩

/-- An entry is found where its code stands, with the attributes of its abbreviation. -/
lemma head_eq_some_iff {w w' : Window} {entry : Head} :
    (head u table).run w = .ok (some entry, w') ↔
      ∃ abbreviation w₁ raw, (entryHead table).run w = .ok (some abbreviation, w₁) ∧
        HoldsAttributes u.encoding abbreviation.specs w₁ raw w' ∧
        entry = ⟨⟨UInt64.ofNat w.start⟩, .ofCode abbreviation.tag, u.attributes raw,
          abbreviation.hasChildren⟩ := by
  constructor
  · intro h
    obtain ⟨offset, w₁, position, h⟩ := Reader.bind_run_eq_ok_iff.1 h
    cases position
    obtain ⟨abbreviation, w₂, code, h⟩ := Reader.bind_run_eq_ok_iff.1 h
    cases abbreviation with
    | none =>
      obtain ⟨⟨⟩, -⟩ := Reader.pure_run_eq_ok_iff.1 h
    | some abbreviation =>
      obtain ⟨raw, w₃, attributes, h⟩ := Reader.bind_run_eq_ok_iff.1 h
      obtain ⟨⟨⟩, rfl⟩ := Reader.pure_run_eq_ok_iff.1 h
      obtain ⟨_, holds, rfl⟩ := attributesFrom_eq_ok_iff.1 attributes
      exact ⟨abbreviation, w₂, raw, Reader.mapError_run_eq_ok_iff.1 code, holds, rfl⟩
  · rintro ⟨abbreviation, w₁, raw, code, holds, rfl⟩
    have attributes : (attributesFrom u.encoding (attributeFault ⟨UInt64.ofNat w.start⟩) []
        abbreviation.specs).run w₁ = .ok (raw, w') :=
      attributesFrom_eq_ok_iff.2 ⟨raw, holds, (List.nil_append raw).symm⟩
    refine Reader.bind_run_eq_ok_iff.2 ⟨w.start, w, rfl, ?_⟩
    refine Reader.bind_run_eq_ok_iff.2 ⟨_, _, Reader.mapError_run_eq_ok_iff.2 code, ?_⟩
    exact Reader.bind_run_eq_ok_iff.2 ⟨raw, w', attributes, rfl⟩

/-- An entry that cannot be read is an error in the debugging information. -/
lemma origin_of_head {w : Window} {fault : Fault} (h : (head u table).run w = .error fault) :
    ∃ e, fault.origin = .dwarf e := by
  obtain ⟨⟨⟩⟩ | ⟨offset, w₁, -, h⟩ := Reader.bind_run_eq_error_iff.1 h
  obtain code | ⟨abbreviation, w₂, -, h⟩ := Reader.bind_run_eq_error_iff.1 h
  · obtain ⟨e, -, rfl⟩ := Reader.mapError_run_eq_error_iff.1 code
    exact ⟨e, rfl⟩
  · cases abbreviation with
    | none => cases h
    | some abbreviation =>
      obtain attributes | ⟨raw, w₃, -, ⟨⟩⟩ := Reader.bind_run_eq_error_iff.1 h
      obtain ⟨raw, e, rfl⟩ := attributesFrom_eq_error attributes
      refine ⟨e, ?_⟩
      unfold attributeFault
      split <;> rfl

/-- The attributes that are read in front of a tree are those of its outermost entry. -/
lemma rootAttributes_of_holds {w rest : Window} {d : Die} (holds : Holds enc table w d rest) :
    ∃ w', (rootAttributes enc table).run w = .ok (d.attributes, w') := by
  obtain ⟨abbreviation, w₁, w₂, code, attributes⟩ := holds.front
  refine ⟨w₂, Reader.bind_run_eq_ok_iff.2 ⟨_, w₁, firstHead_of_entryHead code, ?_⟩⟩
  exact attributesFrom_eq_ok_iff.2 ⟨_, attributes, (List.nil_append _).symm⟩

/-! ## Trees -/

/-- An entry without children is held as a leaf. -/
lemma holds_leaf {w w' : Window} {entry : Head}
    (h : (head u table).run w = .ok (some entry, w')) (childless : ¬ entry.hasChildren = true) :
    ∃ d, Holds u.encoding table w d w' ∧ entry.tree [] = u.treeOf d := by
  obtain ⟨abbreviation, w₁, raw, code, attributes, rfl⟩ := head_eq_some_iff.1 h
  exact ⟨_, .leaf code attributes (Bool.eq_false_iff.2 childless), rfl⟩

/-- An entry is held with the children that follow it. -/
lemma holds_parent {w w' w'' : Window} {entry : Head} {ds : List Die}
    (h : (head u table).run w = .ok (some entry, w')) (parent : entry.hasChildren = true)
    (children : HoldsAll u.encoding table w' ds w'') :
    ∃ d, Holds u.encoding table w d w'' ∧ entry.tree (u.treesOf ds) = u.treeOf d := by
  obtain ⟨abbreviation, w₁, raw, code, attributes, rfl⟩ := head_eq_some_iff.1 h
  exact ⟨_, .parent code attributes parent children, rfl⟩

/-- The trees that are found are those that the bytes hold, behind the ones found before. -/
lemma holdsAll_of_forestFrom {limit : Nat} {trees found : List EntryTree} {w : Window}
    {le : w.size ≤ limit} {w' : { w' : Window // w'.size ≤ limit }}
    (h : forestFrom u table limit trees w le = .ok (found, w')) :
    ∃ ds, HoldsAll u.encoding table w ds w'.val ∧ found = trees.reverse ++ u.treesOf ds := by
  fun_induction forestFrom u table limit trees w le generalizing found with
  | case1 limit trees w le ended =>
    cases h
    exact ⟨[], .ended ended, (List.append_nil _).symm⟩
  | case2 => cases h
  | case3 limit trees w le more w₁ empty =>
    cases h
    exact ⟨[], .closed more (head_eq_none_iff.1 empty), (List.append_nil _).symm⟩
  | case4 => cases h
  | case5 limit trees w le more entry w₁ first smaller le' parent children w₂ inner walked _ ih₁ ih₂ =>
    obtain ⟨ds₁, below, rfl⟩ := ih₁ walked
    obtain ⟨d, holds, tree⟩ := holds_parent first parent below
    obtain ⟨ds, behind, rfl⟩ := ih₂ h
    refine ⟨d :: ds, .cons more holds behind, ?_⟩
    rw [List.reverse_nil, List.nil_append, tree, List.reverse_cons, List.append_assoc]
    rfl
  | case6 limit trees w le more entry w₁ first smaller le' childless ih =>
    obtain ⟨d, holds, tree⟩ := holds_leaf first childless
    obtain ⟨ds, behind, rfl⟩ := ih h
    refine ⟨d :: ds, .cons more holds behind, ?_⟩
    rw [tree, List.reverse_cons, List.append_assoc]
    rfl

/-- What keeps a forest from being read lies in its bytes. -/
lemma origin_of_forestFrom {limit : Nat} {trees : List EntryTree} {w : Window}
    {le : w.size ≤ limit} {fault : Fault}
    (h : forestFrom u table limit trees w le = .error fault) : ∃ e, fault.origin = .dwarf e := by
  fun_induction forestFrom u table limit trees w le with
  | case1 => cases h
  | case2 limit trees w le more f fails =>
    cases h
    exact origin_of_head fails
  | case3 => cases h
  | case4 limit trees w le more entry w₁ first smaller le' parent f fails ih =>
    cases h
    exact ih fails
  | case5 limit trees w le more entry w₁ first smaller le' parent children w₂ inner walked _ ih₁ ih₂ =>
    exact ih₂ h
  | case6 limit trees w le more entry w₁ first smaller le' childless ih => exact ih h

mutual

/-- The tree that the bytes hold is the next one to be found. -/
lemma forestFrom_of_holds {limit : Nat} {trees : List EntryTree} {w w' : Window} {d : Die}
    (h : Holds u.encoding table w d w') (more : w.size ≠ 0) (le : w.size ≤ limit)
    (le' : w'.size ≤ limit) :
    forestFrom u table limit trees w le = forestFrom u table limit (u.treeOf d :: trees) w' le' := by
  match h with
  | .leaf code attributes childless =>
    have first := head_eq_some_iff.2 ⟨_, _, _, code, attributes, rfl⟩
    rw [forestFrom, if_neg more]
    split
    case h_1 h' => cases first.symm.trans h'
    case h_2 h' => cases first.symm.trans h'
    case h_3 h' =>
      cases first.symm.trans h'
      exact if_neg (Bool.eq_false_iff.1 childless)
  | .parent code attributes parent children =>
    have first := head_eq_some_iff.2 ⟨_, _, _, code, attributes, rfl⟩
    rw [forestFrom, if_neg more]
    split
    case h_1 h' => cases first.symm.trans h'
    case h_2 h' => cases first.symm.trans h'
    case h_3 h' =>
      cases first.symm.trans h'
      obtain ⟨inner, below⟩ := forestFrom_of_holdsAll [] children (Nat.le_refl _)
      dsimp only
      rw [if_pos parent, below]
      rfl

/-- The trees that the bytes hold are found. -/
lemma forestFrom_of_holdsAll {limit : Nat} {w w' : Window} {ds : List Die}
    (trees : List EntryTree) (h : HoldsAll u.encoding table w ds w') (le : w.size ≤ limit) :
    ∃ le' : w'.size ≤ limit, forestFrom u table limit trees w le =
      .ok (trees.reverse ++ u.treesOf ds, ⟨w', le'⟩) := by
  match h with
  | .ended ended =>
    refine ⟨le, ?_⟩
    rw [forestFrom, if_pos ended]
    exact congrArg _ (Prod.ext (List.append_nil _).symm rfl)
  | .closed more empty =>
    have closed := (head_eq_none_iff (u := u)).2 empty
    refine ⟨Nat.le_trans ((head u table).size_le closed) le, ?_⟩
    rw [forestFrom, if_neg more]
    split
    case h_1 h' => cases closed.symm.trans h'
    case h_2 h' =>
      cases closed.symm.trans h'
      exact congrArg _ (Prod.ext (List.append_nil _).symm rfl)
    case h_3 h' => cases closed.symm.trans h'
  | .cons more first rest =>
    have inner : _ ≤ limit := Nat.le_trans first.spans.behind.size_le le
    obtain ⟨le', found⟩ := forestFrom_of_holdsAll _ rest inner
    refine ⟨le', ?_⟩
    rw [forestFrom_of_holds first more le inner, found, List.reverse_cons, List.append_assoc]
    rfl

end

/-- The tree of a unit is the one that its bytes hold. -/
lemma tree_eq_ok_iff {w : Window} {t : EntryTree} :
    tree u table w = .ok t ↔ ∃ d rest, Holds u.encoding table w d rest ∧ t = u.treeOf d := by
  constructor
  · intro h
    unfold tree at h
    split at h
    case h_1 => cases h
    case h_2 => cases h
    case h_3 entry w' first =>
      split at h
      case isTrue parent =>
        cases found : forestFrom u table w'.size [] w' (Nat.le_refl _) with
        | error f => rw [found] at h; cases h
        | ok result =>
          rw [found] at h
          cases h
          obtain ⟨ds, below, trees⟩ := holdsAll_of_forestFrom found
          obtain ⟨d, holds, tree⟩ := holds_parent first parent below
          refine ⟨d, _, holds, ?_⟩
          change entry.tree result.1 = _
          rw [← tree, trees, List.reverse_nil, List.nil_append]
      case isFalse childless =>
        cases h
        obtain ⟨d, holds, tree⟩ := holds_leaf first childless
        exact ⟨d, _, holds, tree⟩
  · rintro ⟨d, rest, holds, rfl⟩
    unfold tree
    cases holds with
    | leaf code attributes childless =>
      rw [head_eq_some_iff.2 ⟨_, _, _, code, attributes, rfl⟩]
      exact if_neg (Bool.eq_false_iff.1 childless)
    | parent code attributes parent children =>
      obtain ⟨inner, below⟩ := forestFrom_of_holdsAll [] children (Nat.le_refl _)
      rw [head_eq_some_iff.2 ⟨_, _, _, code, attributes, rfl⟩]
      dsimp only
      rw [if_pos parent, below]
      rfl

/-- What keeps a tree from being read lies in its bytes. -/
lemma origin_of_tree {w : Window} {fault : Fault} (h : tree u table w = .error fault) :
    ∃ e, fault.origin = .dwarf e := by
  unfold tree at h
  split at h
  case h_1 f fails =>
    cases h
    exact origin_of_head fails
  case h_2 =>
    cases h
    exact ⟨_, rfl⟩
  case h_3 entry w' first =>
    split at h
    case isTrue parent =>
      cases found : forestFrom u table w'.size [] w' (Nat.le_refl _) with
      | error f =>
        rw [found] at h
        cases h
        exact origin_of_forestFrom found
      | ok result => rw [found] at h; cases h
    case isFalse => cases h

end Dwarf

end Prototyper
