import Prototyper.Proofs.Decoding.Trees
import Prototyper.Proofs.Lookup

/-!
# Units that are decoded

A section is decoded unit by unit (`decode_eq_ok_iff`), and `holdsHeaders_of_decode` says that the
store of each unit has the entries of the tree that the bytes hold, parents first. All faults on the
way are errors in the debugging information, apart from those of the store into which the entries of
a unit are put.

How bytes hold a tree rests on the DWARF assumption (see `Dwarf.Encoding`).
-/

namespace Prototyper

namespace Dwarf

section

variable {table : AbbreviationTable} {sections : Sections} {header : UnitHeader}

/-- The tree that is found in a unit is one that its bytes hold. -/
lemma holdsUnit_of_tree {raw : List RawAttribute} {w : Window} {t : EntryTree}
    (read : readAt sections.abbreviations header.abbreviationsOffset abbreviationTable = .ok table)
    (attributes : (rootAttributes header.encoding table).run header.entries = .ok (raw, w))
    (found : tree ⟨sections, header.offset, header.encoding,
      (lastValue? raw [0x72] FormValue.sectionOffset?).getD 0⟩ table header.entries = .ok t) :
    ∃ root, HoldsUnit sections header root ∧ t = (root.context sections header).treeOf root := by
  obtain ⟨root, rest, holds, rfl⟩ := tree_eq_ok_iff.1 found
  refine ⟨root, ⟨table, rest, read, holds⟩, ?_⟩
  obtain ⟨w', again⟩ := rootAttributes_of_holds holds
  cases again.symm.trans attributes
  rfl

/-- A decoded unit has the entries of a tree that its bytes hold. -/
lemma holdsUnit_of_unit {unit' : CompilationUnit} (h : unit sections header = .ok unit') :
    ∃ root, HoldsUnit sections header root ∧
      CompilationUnit.ofTree (UInt64.ofNat header.offset)
        ((root.context sections header).treeOf root) = .ok unit' := by
  obtain ⟨table, read, h⟩ := bind_eq_ok_iff.1 h
  obtain ⟨⟨raw, w⟩, attributes, h⟩ := bind_eq_ok_iff.1 h
  obtain ⟨-, -, h⟩ := bind_eq_ok_iff.1 h
  obtain ⟨-, -, h⟩ := bind_eq_ok_iff.1 h
  obtain ⟨t, found, h⟩ := bind_eq_ok_iff.1 h
  rw [mapError_eq_ok_iff] at read attributes h
  obtain ⟨root, holds, rfl⟩ := holdsUnit_of_tree read attributes found
  exact ⟨root, holds, h⟩

/-- A store takes the entries of a tree if no two of them have the same identifier. -/
lemma exists_ofTree {root : Die} (u : UnitContext) (offset : UInt64)
    (distinct : (root.preorder.map Die.id).Nodup) :
    ∃ unit', CompilationUnit.ofTree offset (u.treeOf root) = .ok unit' := by
  rw [← map_id_entryOf u, ← u.entries_treeOf] at distinct
  obtain ⟨s, filled, -⟩ := Store.ofList_of_nodup distinct
  unfold CompilationUnit.ofTree
  rw [filled]
  exact ⟨_, rfl⟩

/-- A unit that holds a tree of distinct entries is decoded if the tables that it names are sound. -/
lemma HoldsUnit.exists_unit {root : Die} (h : HoldsUnit sections header root)
    (lines : checkLineTable sections header.encoding root.attributes = .ok ())
    (address : checkLowAddress sections header.encoding root.attributes = .ok ())
    (distinct : (root.preorder.map Die.id).Nodup) : ∃ u, unit sections header = .ok u := by
  obtain ⟨table, rest, read, holds⟩ := h
  obtain ⟨w', attributes⟩ := rootAttributes_of_holds holds
  have found : tree (root.context sections header) table header.entries = .ok _ :=
    tree_eq_ok_iff.2 ⟨root, rest, holds, rfl⟩
  obtain ⟨u, made⟩ := exists_ofTree (root.context sections header) (.ofNat header.offset) distinct
  refine ⟨u, ?_⟩
  refine bind_eq_ok_iff.2 ⟨table, mapError_eq_ok_iff.2 read, ?_⟩
  refine bind_eq_ok_iff.2 ⟨_, mapError_eq_ok_iff.2 attributes, ?_⟩
  refine bind_eq_ok_iff.2 ⟨(), mapError_eq_ok_iff.2 lines, ?_⟩
  refine bind_eq_ok_iff.2 ⟨(), mapError_eq_ok_iff.2 address, ?_⟩
  exact bind_eq_ok_iff.2 ⟨_, found, mapError_eq_ok_iff.2 made⟩

/-- A unit that cannot be decoded has an error in the debugging information, unless its store
refuses the entries of the tree that its bytes hold. -/
lemma origin_of_unit {fault : Fault} (h : unit sections header = .error fault) :
    (∃ e, fault.origin = .dwarf e) ∨
      ∃ root e, HoldsUnit sections header root ∧
        CompilationUnit.ofTree (UInt64.ofNat header.offset)
          ((root.context sections header).treeOf root) = .error e := by
  -- a part that fails with an error of its own
  have part : ∀ {α : Type} {x : Except Error α}, x.mapError Fault.dwarf = .error fault →
      ∃ e, fault.origin = .dwarf e := by
    intro α x fails
    obtain ⟨e, -, rfl⟩ := mapError_eq_error_iff.1 fails
    exact ⟨e, rfl⟩
  obtain fails | ⟨table, read, h⟩ := bind_eq_error_iff.1 h
  · exact .inl (part fails)
  obtain fails | ⟨⟨raw, w⟩, attributes, h⟩ := bind_eq_error_iff.1 h
  · exact .inl (part fails)
  obtain fails | ⟨-, -, h⟩ := bind_eq_error_iff.1 h
  · exact .inl (part fails)
  obtain fails | ⟨-, -, h⟩ := bind_eq_error_iff.1 h
  · exact .inl (part fails)
  obtain fails | ⟨t, found, h⟩ := bind_eq_error_iff.1 h
  · exact .inl (origin_of_tree fails)
  rw [mapError_eq_ok_iff] at read attributes
  obtain ⟨root, holds, rfl⟩ := holdsUnit_of_tree read attributes found
  obtain ⟨e, refused, -⟩ := mapError_eq_error_iff.1 h
  exact .inr ⟨root, e, holds, refused⟩

/-- The units that are decoded are those of the headers in the section, in their order. -/
lemma holdsHeaders_of_unitsFrom {units all : List CompilationUnit} {w : Window}
    (h : unitsFrom sections units w = .ok all) :
    ∃ headers new, HoldsHeaders sections.endian w headers ∧
      List.Forall₂ (fun header u => unit sections header = .ok u) headers new ∧
      all = units.reverse ++ new := by
  fun_induction unitsFrom sections units w with
  | case1 units w ended =>
    cases h
    exact ⟨[], [], .nil ended, .nil, (List.append_nil _).symm⟩
  | case2 => cases h
  | case3 => cases h
  | case4 units w more header w' read unit' decoded ih =>
    obtain ⟨headers, new, holds, rest, rfl⟩ := ih h
    refine ⟨header :: headers, unit' :: new, .cons more read holds, .cons decoded rest, ?_⟩
    rw [List.reverse_cons, List.append_assoc, List.singleton_append]

/-- A section that cannot be decoded has an error in a header, or a unit that cannot be decoded. -/
lemma origin_of_unitsFrom {units : List CompilationUnit} {w : Window} {fault : Fault}
    (h : unitsFrom sections units w = .error fault) :
    (∃ e, fault.origin = .dwarf e) ∨
      ∃ header, header.entries.bytes = w.bytes ∧ unit sections header = .error fault := by
  fun_induction unitsFrom sections units w with
  | case1 => cases h
  | case2 units w more e =>
    cases h
    exact .inl ⟨e, rfl⟩
  | case3 units w more header w' read fault' fails =>
    cases h
    exact .inr ⟨header, (heads_of_unitHeader read).bytes, fails⟩
  | case4 units w more header w' read unit' decoded ih =>
    obtain origin | ⟨header', bytes, fails⟩ := ih h
    · exact .inl origin
    · exact .inr ⟨header', bytes.trans (heads_of_unitHeader read).behind.bytes, fails⟩

/-- The units of the headers in a section are decoded, in their order. -/
lemma unitsFrom_of_holdsHeaders {units new : List CompilationUnit} {headers : List UnitHeader}
    {w : Window} (h : HoldsHeaders sections.endian w headers)
    (decoded : List.Forall₂ (fun header u => unit sections header = .ok u) headers new) :
    unitsFrom sections units w = .ok (units.reverse ++ new) := by
  induction h generalizing units new with
  | nil ended =>
    cases decoded
    rw [unitsFrom, if_pos ended, List.append_nil]
  | cons more read _ ih =>
    cases decoded with
    | cons first rest =>
      rw [unitsFrom, if_neg more]
      split
      case h_1 h' => cases read.symm.trans h'
      case h_2 h' =>
        cases read.symm.trans h'
        rw [first]
        dsimp only
        rw [ih rest, List.reverse_cons, List.append_assoc, List.singleton_append]

/-- A section is decoded if and only if it is one unit after the other, and each is decoded. -/
lemma decode_eq_ok_iff {units : List CompilationUnit} :
    decode sections = .ok units ↔
      ∃ headers, HoldsHeaders sections.endian (.ofBytes sections.info) headers ∧
        List.Forall₂ (fun header u => unit sections header = .ok u) headers units := by
  constructor
  · intro h
    obtain ⟨headers, _, holds, decoded, rfl⟩ := holdsHeaders_of_unitsFrom h
    exact ⟨headers, holds, decoded⟩
  · rintro ⟨headers, holds, decoded⟩
    exact unitsFrom_of_holdsHeaders holds decoded

/-- The entries of all units are in the bytes of the section. -/
lemma HoldsHeaders.bytes {endian : Endian} {w : Window} {headers : List UnitHeader}
    (h : HoldsHeaders endian w headers) : ∀ header ∈ headers, header.entries.bytes = w.bytes := by
  induction h with
  | nil => nofun
  | cons _ read _ ih =>
    have heads := heads_of_unitHeader read
    intro header mem
    rcases List.mem_cons.1 mem with rfl | mem
    · exact heads.bytes
    · exact (ih header mem).trans heads.behind.bytes

/-- A decoded section is one unit after the other, each with the entries of a tree that its bytes
hold, parents first. -/
lemma holdsHeaders_of_decode {units : List CompilationUnit} (h : decode sections = .ok units) :
    ∃ headers, HoldsHeaders sections.endian (.ofBytes sections.info) headers ∧
      List.Forall₂ (fun header u => ∃ root, HoldsUnit sections header root ∧
        u.store.toList = root.preorder.map (root.context sections header).entryOf) headers units := by
  obtain ⟨headers, holds, decoded⟩ := decode_eq_ok_iff.1 h
  refine ⟨headers, holds, decoded.imp fun header u hu => ?_⟩
  obtain ⟨root, held, made⟩ := holdsUnit_of_unit hu
  refine ⟨root, held, ?_⟩
  rw [← UnitContext.entries_treeOf]
  unfold CompilationUnit.ofTree at made
  split at made
  case h_1 store filled =>
    cases made
    exact Store.toList_ofList filled
  case h_2 => cases made

end

/-! ## A unit by hand -/

/-- A code that a table does not have is added with the abbreviation behind it. -/
lemma addAbbreviation_of_run {table : AbbreviationTable} {abbreviation' : Abbreviation}
    {code : Nat} {w w₁ w₂ : Window}
    (first : unsignedLeb.run w = .ok (code, w₁)) (nonzero : code ≠ 0)
    (rest : abbreviation.run w₁ = .ok (abbreviation', w₂)) (fresh : table.contains code = false) :
    (addAbbreviation table).unlessAtEnd.run w = .ok (some (table.insert code abbreviation'), w₂) := by
  have more : Input.size w ≠ 0 := Nat.ne_of_gt (Nat.zero_lt_of_lt (consumes_unsignedLeb first))
  refine (if_neg more).trans ?_
  refine Reader.bind_run_eq_ok_iff.2 ⟨code, w₁, first, ?_⟩
  rw [if_neg nonzero]
  refine Reader.bind_run_eq_ok_iff.2 ⟨abbreviation', w₂, rest, ?_⟩
  rw [fresh]
  rfl

/-- An entry begins with the code of its abbreviation. -/
lemma entryHead_of_run {table : AbbreviationTable} {abbreviation : Abbreviation} {code : Nat}
    {w w₁ : Window}
    (first : unsignedLeb.run w = .ok (code, w₁)) (nonzero : code ≠ 0)
    (found : table[code]? = some abbreviation) :
    (entryHead table).run w = .ok (some abbreviation, w₁) := by
  refine Reader.bind_run_eq_ok_iff.2 ⟨code, w₁, first, ?_⟩
  rw [if_neg nonzero, found]
  rfl

/-- Sections with one unit, whose only type is a pointer to itself. -/
def pointerSections : Sections where
  endian := .little
  info := ⟨#[0x0e, 0, 0, 0, 4, 0, 0, 0, 0, 0, 8, 1, 2, 0x0c, 0, 0, 0, 0]⟩
  abbreviations := ⟨#[1, 0x11, 1, 0, 0, 2, 0x0f, 0, 0x49, 0x13, 0, 0, 0]⟩
  str := .empty
  lineStr := .empty
  strOffsets := .empty
  line := .empty
  addr := .empty

namespace pointerSections

def abbreviationsFrom (start : Nat) : Window :=
  ⟨pointerSections.abbreviations, start, 13, by decide⟩

def infoFrom (start : Nat) : Window :=
  ⟨pointerSections.info, start, 18, by decide⟩

def table : AbbreviationTable :=
  ((∅ : AbbreviationTable).insert 1 ⟨0x11, true, []⟩).insert 2
    ⟨0x0f, false, [⟨0x49, 0x13, none⟩]⟩

def header : UnitHeader where
  offset := 0
  encoding := ⟨.little, .short, 4, 8⟩
  abbreviationsOffset := 0
  entries := infoFrom 11

def pointer : Die :=
  .node 0x0c 0x0f [⟨0x49, .unitReference 0x0c⟩] []

def root : Die :=
  .node 0x0b 0x11 [] [pointer]

/-- The abbreviations are read from their section. -/
lemma readAt_table : readAt pointerSections.abbreviations 0 abbreviationTable = .ok table := by
  have code₁ : unsignedLeb.run (abbreviationsFrom 0) = .ok (1, abbreviationsFrom 1) := rfl
  have unit : abbreviation.run (abbreviationsFrom 1) =
      .ok (⟨0x11, true, []⟩, abbreviationsFrom 5) := by
    with_unfolding_all rfl
  have code₂ : unsignedLeb.run (abbreviationsFrom 5) = .ok (2, abbreviationsFrom 6) := rfl
  have pointer : abbreviation.run (abbreviationsFrom 6) =
      .ok (⟨0x0f, false, [⟨0x49, 0x13, none⟩]⟩, abbreviationsFrom 12) := by
    with_unfolding_all rfl
  have first := addAbbreviation_of_run code₁ (by decide) unit Std.HashMap.contains_empty
  have fresh : ((∅ : AbbreviationTable).insert 1 ⟨0x11, true, []⟩).contains 2 = false := by simp
  have second := addAbbreviation_of_run code₂ (by decide) pointer fresh
  have last : (addAbbreviation table).unlessAtEnd.run (abbreviationsFrom 12) =
      .ok (none, abbreviationsFrom 13) := rfl
  have run : abbreviationTable.run (abbreviationsFrom 0) = .ok (table, abbreviationsFrom 13) :=
    Reader.iterate_run_eq_ok <| (Reader.iterateFrom_of_some first).trans <|
      (Reader.iterateFrom_of_some second).trans (Reader.iterateFrom_of_none last)
  exact congrArg (Except.map Prod.fst) run

/-- The unit begins with an entry that has children. -/
lemma entryHead_root :
    (entryHead table).run (infoFrom 11) = .ok (some ⟨0x11, true, []⟩, infoFrom 12) := by
  have code : unsignedLeb.run (infoFrom 11) = .ok (1, infoFrom 12) := rfl
  exact entryHead_of_run code (by decide) (by simp [table, Std.HashMap.getElem_insert])

/-- The bytes of the unit hold its tree. -/
lemma holdsUnit_root : HoldsUnit pointerSections header root := by
  have code : unsignedLeb.run (infoFrom 12) = .ok (2, infoFrom 13) := rfl
  have pointer : (entryHead table).run (infoFrom 12) =
      .ok (some ⟨0x0f, false, [⟨0x49, 0x13, none⟩]⟩, infoFrom 13) :=
    entryHead_of_run code (by decide) (by simp [table])
  have type : (formValue header.encoding ⟨0x49, 0x13, none⟩).run (infoFrom 13) =
      .ok (.unitReference 0x0c, infoFrom 17) := by
    with_unfolding_all rfl
  have closed : (entryHead table).run (infoFrom 17) = .ok (none, infoFrom 18) := rfl
  refine ⟨table, infoFrom 18, readAt_table, ?_⟩
  refine .parent entryHead_root .nil rfl (.cons (by decide) ?_ (.closed (by decide) closed))
  exact .leaf pointer (.cons type .nil) rfl

/-- The section holds the header of the unit. -/
lemma holdsHeaders : HoldsHeaders .little (.ofBytes pointerSections.info) [header] := by
  have read : (unitHeader .little).run (.ofBytes pointerSections.info) =
      .ok (header, infoFrom 18) := by
    with_unfolding_all rfl
  exact .cons (by decide) read (.nil rfl)

/-- The section is decoded into one unit. -/
lemma exists_decode : ∃ u, decode pointerSections = .ok [u] := by
  -- the unit names neither a line table nor an address
  obtain ⟨u, decoded⟩ := holdsUnit_root.exists_unit rfl rfl (by decide)
  exact ⟨u, decode_eq_ok_iff.2 ⟨_, holdsHeaders, .cons decoded .nil⟩⟩

end pointerSections

end Dwarf

end Prototyper
