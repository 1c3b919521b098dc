import Mathlib.Data.List.Nodup
import Mathlib.Data.List.Perm.Basic
import Prototyper.Proofs.Decoding.Units

/-!
# Decoded units are trees

`Store.Walk` goes through a store depth first, along the lists of children. `Store.Flattens` says
that a store is the faithful image of a tree: its entries are those of the tree, parents first, with
growing identifiers, every child is in the store, and the walk from the first entry meets each entry
once and in order. `decode_flattens` says that every decoded unit has such a store, and that no store
ever refuses an entry, since identifiers are offsets and these grow.

How bytes hold a tree rests on the DWARF assumption (see `Dwarf.Encoding`).
-/

namespace Prototyper

namespace Store

mutual

/-- The walk from an entry meets the entry, and then what the walks from its children meet. -/
inductive Walk (s : Store) : EntryId → List Entry → Prop where
  | visit {id e es} :
    s.get? id = some e →
    WalkAll s e.children es →
    Walk s id (e :: es)

inductive WalkAll (s : Store) : List EntryId → List Entry → Prop where
  | nil :
    WalkAll s [] []
  | cons {id ids es es'} :
    Walk s id es →
    WalkAll s ids es' →
    WalkAll s (id :: ids) (es ++ es')

end

/-- A store lists the entries of a tree, parents first, and they hang together as in the tree. -/
structure Flattens (s : Store) (u : Dwarf.UnitContext) (root : Dwarf.Die) : Prop where
  preorder : s.toList = root.preorder.map u.entryOf
  increasing : s.toList.Pairwise fun a b => a.id.offset < b.id.offset
  children : ∀ e ∈ s.toList, ∃ es, s.childrenOf e.id = .ok es ∧ es.map Entry.id = e.children
  listed : ∀ e ∈ s.toList.tail, (s.toList.flatMap Entry.children).count e.id = 1
  unlisted : root.id ∉ s.toList.flatMap Entry.children
  walk : s.Walk root.id s.toList

end Store

/-! ## Trees -/

mutual

/-- In a tree, the children of all entries together are all entries but the outermost one. -/
lemma EntryTree.perm_children (t : EntryTree) :
    (t.id :: t.entries.flatMap Entry.children).Perm (t.entries.map Entry.id) := by
  match t with
  | .node id tag attr ts =>
    rw [EntryTree.entries, List.flatMap_cons, List.map_cons]
    exact (EntryTree.perm_forest ts).cons id

/-- In a forest, each identifier belongs to a root or is listed as a child, once. -/
lemma EntryTree.perm_forest (ts : List EntryTree) :
    (ts.map EntryTree.id ++ (forestEntries ts).flatMap Entry.children).Perm
      ((forestEntries ts).map Entry.id) := by
  match ts with
  | [] => exact .refl _
  | t :: ts =>
    rw [EntryTree.forestEntries, List.flatMap_append, List.map_append, List.map_cons]
    -- the children of the first tree change places with the roots of the others
    have swap : (ts.map EntryTree.id ++ (t.entries.flatMap Entry.children ++
        (forestEntries ts).flatMap Entry.children)).Perm
        (t.entries.flatMap Entry.children ++ (ts.map EntryTree.id ++
          (forestEntries ts).flatMap Entry.children)) := List.perm_append_comm_assoc _ _ _
    exact (swap.cons t.id).trans ((EntryTree.perm_children t).append (EntryTree.perm_forest ts))

end

mutual

/-- Where the entries of a tree are found, the walk from the outermost one goes through them. -/
lemma EntryTree.walk {s : Store} (t : EntryTree) (found : ∀ e ∈ t.entries, s.get? e.id = some e) :
    s.Walk t.id t.entries := by
  match t with
  | .node id tag attr ts =>
    rw [EntryTree.entries] at found ⊢
    have below := fun e he => found e (List.mem_cons_of_mem _ he)
    exact .visit (found _ List.mem_cons_self) (EntryTree.walkAll ts below)

/-- Walking a store from the roots of a forest in it meets the entries of the forest. -/
lemma EntryTree.walkAll {s : Store} (ts : List EntryTree)
    (found : ∀ e ∈ forestEntries ts, s.get? e.id = some e) :
    s.WalkAll (ts.map EntryTree.id) (forestEntries ts) := by
  match ts with
  | [] => exact .nil
  | t :: ts =>
    rw [EntryTree.forestEntries] at found ⊢
    have first := fun e he => found e (List.mem_append_left _ he)
    have rest := fun e he => found e (List.mem_append_right _ he)
    exact .cons (EntryTree.walk t first) (EntryTree.walkAll ts rest)

end

namespace Store

/-- The children of an entry are found one by one. -/
lemma childrenOf_of_found {s : Store} {e : Entry} (he : s.get? e.id = some e)
    (found : ∀ c ∈ e.children, ∃ child, s.get? c = some child) :
    ∃ es, s.childrenOf e.id = .ok es ∧ es.map Entry.id = e.children := by
  have all : ∀ ids : List EntryId, (∀ c ∈ ids, ∃ child, s.get? c = some child) →
      ∃ es, ids.mapM s.get = .ok es ∧ es.map Entry.id = ids := by
    intro ids found
    induction ids with
    | nil => exact ⟨[], rfl, rfl⟩
    | cons c ids ih =>
      obtain ⟨child, first⟩ := found c List.mem_cons_self
      obtain ⟨es, rest, same⟩ := ih fun c' hc' => found c' (List.mem_cons_of_mem c hc')
      have got : s.get c = .ok child := by
        rw [get, first]
      refine ⟨child :: es, ?_, ?_⟩
      · rw [List.mapM_cons, got, rest]
        rfl
      · rw [List.map_cons, same, id_of_get? first]
  have got : s.get e.id = .ok e := by
    rw [get, he]
  rw [childrenOf, got]
  exact all e.children found

end Store

namespace Dwarf

variable {sections : Sections} {header : UnitHeader} {root : Die}

/-! ## Identifiers -/

/-- Offsets that fit into 64 bits keep their order there. -/
lemma ofNat_lt_ofNat {m n : Nat} (less : m < n) (fits : n < UInt64.size) :
    UInt64.ofNat m < UInt64.ofNat n := by
  rw [UInt64.lt_iff_toNat_lt, UInt64.toNat_ofNat_of_lt' (Nat.lt_trans less fits),
    UInt64.toNat_ofNat_of_lt' fits]
  exact less

/-- Identifiers grow as offsets do, where these are no larger than identifiers can tell. -/
lemma Spans.ids {ds : List Die} {w w' : Window} (h : Spans (ds.map Die.offset) w w')
    (fits : w.stop ≤ UInt64.size) : (ds.map Die.id).Pairwise fun a b => a.offset < b.offset := by
  have increasing := h.increasing
  rw [List.pairwise_map] at increasing ⊢
  refine increasing.imp_of_mem fun {a b} _ hb less => ?_
  have stop := (h.inside b.offset (List.mem_map_of_mem hb)).2.2
  exact ofNat_lt_ofNat less (Nat.lt_of_lt_of_le stop fits)

/-- The identifiers of a unit grow from each entry to the next. -/
lemma HoldsUnit.increasing (h : HoldsUnit sections header root)
    (bytes : header.entries.bytes = sections.info) (fits : sections.info.size ≤ UInt64.size)
    (u : UnitContext) :
    (root.preorder.map u.entryOf).Pairwise fun a b => a.id.offset < b.id.offset := by
  obtain ⟨table, rest, -, holds⟩ := h
  have stop : header.entries.stop ≤ UInt64.size :=
    Nat.le_trans header.entries.stop_le_size (bytes ▸ fits)
  have ids := holds.spans.ids stop
  rw [← map_id_entryOf u, List.pairwise_map] at ids
  exact ids

/-- Identifiers that grow are different. -/
lemma nodup_of_increasing {es : List Entry}
    (h : es.Pairwise fun a b => a.id.offset < b.id.offset) : (es.map Entry.id).Nodup := by
  rw [List.Nodup, List.pairwise_map]
  refine h.imp fun {a b} less same => ?_
  rw [same] at less
  exact UInt64.lt_irrefl _ less

/-- A store with the entries of a tree, in growing order, is the faithful image of the tree. -/
lemma flattens_of_toList {s : Store} {u : UnitContext}
    (list : s.toList = root.preorder.map u.entryOf)
    (increasing : (root.preorder.map u.entryOf).Pairwise fun a b => a.id.offset < b.id.offset) :
    s.Flattens u root := by
  have tree : (u.treeOf root).entries = s.toList := by rw [u.entries_treeOf, list]
  have perm := (u.treeOf root).perm_children
  rw [tree, u.id_treeOf] at perm
  have distinct := nodup_of_increasing increasing
  rw [← list] at distinct
  obtain ⟨unlisted, once⟩ := List.nodup_cons.1 (perm.nodup_iff.2 distinct)
  have found : ∀ e ∈ s.toList, s.get? e.id = some e := fun e he =>
    Store.get?_eq_some_iff.2 ⟨he, rfl⟩
  have first : s.toList.map Entry.id = root.id :: s.toList.tail.map Entry.id := by
    rw [list]
    cases root
    rfl
  refine ⟨list, list ▸ increasing, fun e he => ?_, fun e he => ?_, unlisted, ?_⟩
  · refine Store.childrenOf_of_found (found e he) fun c hc => ?_
    have mem : c ∈ s.toList.map Entry.id :=
      perm.subset (List.mem_cons_of_mem _ (List.mem_flatMap.2 ⟨e, he, hc⟩))
    obtain ⟨child, hchild, rfl⟩ := List.mem_map.1 mem
    exact ⟨child, found child hchild⟩
  · -- the children of all entries are the entries but the first one
    rw [first] at perm
    have mem := perm.cons_inv.symm.subset (List.mem_map_of_mem he)
    exact List.count_eq_one_of_mem once mem
  · have walk := (u.treeOf root).walk (tree ▸ found)
    rw [u.id_treeOf, tree] at walk
    exact walk

/-- The store of a unit takes every entry of the tree that the bytes of the unit hold. -/
lemma HoldsUnit.ofTree_ne_error (h : HoldsUnit sections header root)
    (bytes : header.entries.bytes = sections.info) (fits : sections.info.size ≤ UInt64.size)
    (u : UnitContext) (offset : UInt64) (e : StoreError) :
    CompilationUnit.ofTree offset (u.treeOf root) ≠ .error e := by
  have distinct := nodup_of_increasing (h.increasing bytes fits u)
  rw [map_id_entryOf] at distinct
  obtain ⟨unit', made⟩ := exists_ofTree u offset distinct
  rw [made]
  nofun

/-- Every decoded unit is a faithful image of the tree of entries that its bytes hold. What keeps a
section from being decoded is an error in the debugging information, and never an entry that a store
refuses. The section has to be small enough for its offsets to be identifiers. -/
theorem decode_flattens (sections : Sections) (fits : sections.info.size ≤ UInt64.size) :
    (∀ fault, decode sections = .error fault → ∃ e, fault.origin = .dwarf e) ∧
    ∀ units, decode sections = .ok units →
      ∃ headers, HoldsHeaders sections.endian (.ofBytes sections.info) headers ∧
        List.Forall₂ (fun header u => ∃ root, HoldsUnit sections header root ∧
          u.store.Flattens (root.context sections header) root) headers units := by
  constructor
  · intro fault h
    obtain origin | ⟨header, bytes, fails⟩ := origin_of_unitsFrom h
    · exact origin
    · obtain origin | ⟨root, e, holds, refused⟩ := origin_of_unit fails
      · exact origin
      · exact absurd refused (holds.ofTree_ne_error bytes fits _ _ e)
  · intro units h
    obtain ⟨headers, holds, decoded⟩ := holdsHeaders_of_decode h
    refine ⟨headers, holds, ?_⟩
    have inside := (List.forall₂_and_left headers units).2 ⟨holds.bytes, decoded⟩
    refine inside.imp ?_
    rintro header u ⟨bytes, root, held, list⟩
    exact ⟨root, held, flattens_of_toList list (held.increasing bytes fits _)⟩

/-- A unit with a pointer under its root is decoded into a store that flattens its tree. -/
theorem decode_flattens_pointer :
    pointerSections.info.size ≤ UInt64.size ∧
      ∃ u, decode pointerSections = .ok [u] ∧
        ∃ headers, HoldsHeaders .little (.ofBytes pointerSections.info) headers ∧
          List.Forall₂ (fun header u => ∃ root, HoldsUnit pointerSections header root ∧
            u.store.Flattens (root.context pointerSections header) root) headers [u] := by
  have fits : pointerSections.info.size ≤ UInt64.size := by decide
  obtain ⟨u, decoded⟩ := pointerSections.exists_decode
  exact ⟨fits, u, decoded, (decode_flattens pointerSections fits).2 [u] decoded⟩

end Dwarf

end Prototyper
