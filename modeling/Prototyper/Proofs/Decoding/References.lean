import Prototyper.Proofs.Decoding.Attributes
import Prototyper.Proofs.Decoding.Flattening
import Prototyper.Proofs.Decoding.Numbers

/-!
# Where references land

An entry of a unit may refer to a place of the section by the distance from where the unit begins or
by the offset in the section (`Die.RefersTo`). Both are mapped to the identifier that the entry at
that place has, if there is one. Units do not overlap, so a reference to an entry of another unit is
to none of its own, and `Lands` says that it leads nowhere rather than to some other entry.

How bytes hold a tree rests on the DWARF assumption (see `Dwarf.Encoding`).
-/

namespace Prototyper

/-- A reference of an entry leads nowhere, and is listed for that. -/
def Store.Misses (s : Store) (source : EntryId) (a : Attr) (t : EntryId) : Prop :=
  s.get t = .error (.unknownEntry t) ∧ ⟨source, a, t⟩ ∈ s.dangling

namespace Dwarf

/-- The encoded entries of units, unit after unit. -/
def diesOf (held : List (UnitHeader × Die)) : List Die :=
  held.flatMap fun p => p.2.preorder

/-- An encoded entry refers with an attribute to a place of the section, in a unit that begins at
`start`. What counts is the first value with the code of the attribute. -/
inductive Die.RefersTo (start : Nat) (x : Die) (a : Attr) : Nat → Prop where
  | withinUnit {code distance} :
    (code, a) ∈ referenceCodes →
    x.HasFirst code (.unitReference distance) →
    RefersTo start x a (start + distance)
  | withinSection {code offset} :
    (code, a) ∈ referenceCodes →
    x.HasFirst code (.sectionReference offset) →
    RefersTo start x a offset

/-- The references in the store of a unit lead to the encoded entries that they designate, among
those of all units, as long as these are in the unit. All others lead nowhere. -/
structure Lands (u : UnitContext) (root : Die) (dies : List Die) (s : Store) : Prop where
  entries : s.toList = root.preorder.map u.entryOf
  inside : ∀ d ∈ root.preorder, u.offset < d.offset
  reads : ∀ x ∈ root.preorder, ∀ a t, (u.entryOf x).attr a = some (.ref t) ↔
    ∃ place, x.RefersTo u.offset a place ∧ t = ⟨UInt64.ofNat place⟩
  own : ∀ x ∈ root.preorder, ∀ a, ∀ d ∈ root.preorder, x.RefersTo u.offset a d.offset →
    (u.entryOf x).attr a = some (.ref d.id) ∧ s.get d.id = .ok (u.entryOf d)
  other : ∀ x ∈ root.preorder, ∀ a, ∀ d ∈ dies, d ∉ root.preorder →
    x.RefersTo u.offset a d.offset →
    (u.entryOf x).attr a = some (.ref d.id) ∧ s.Misses x.id a d.id
  none : ∀ x ∈ root.preorder, ∀ a place, (∀ d ∈ dies, d.offset ≠ place) →
    x.RefersTo u.offset a place → s.Misses x.id a ⟨UInt64.ofNat place⟩

/-! ## Units side by side -/

section

variable {sections : Sections}

/-- The entries of a unit begin one behind the other, behind its header. -/
lemma HoldsUnit.spans {header : UnitHeader} {root : Die} {w w' : Window}
    (h : HoldsUnit sections header root) (heads : header.Heads w w') :
    Spans (root.preorder.map Die.offset) w w' := by
  obtain ⟨table, rest, -, holds⟩ := h
  have spans := holds.spans
  refine ⟨heads.behind, spans.increasing, fun o ho => ?_⟩
  obtain ⟨start, -, stop⟩ := spans.inside o ho
  have before := heads.start
  have inside := heads.inside
  have next := heads.stop
  omega

/-- The offsets of all entries grow, from unit to unit as well. -/
lemma HoldsHeaders.spans {endian : Endian} {w : Window} {held : List (UnitHeader × Die)}
    (h : HoldsHeaders endian w (held.map Prod.fst))
    (units : ∀ p ∈ held, HoldsUnit sections p.1 p.2) :
    ∃ w', Spans ((diesOf held).map Die.offset) w w' := by
  induction held generalizing w with
  | nil => exact ⟨w, .nil (.refl w)⟩
  | cons p held ih =>
    cases h with
    | cons _ read rest =>
      obtain ⟨w', spans⟩ := ih rest fun q hq => units q (List.mem_cons_of_mem p hq)
      have first := (units p List.mem_cons_self).spans (heads_of_unitHeader read)
      rw [diesOf, List.flatMap_cons, List.map_append]
      exact ⟨w', first.append spans⟩

/-- All units begin in front of their entries, and their numbers have at most 64 bits. -/
lemma HoldsHeaders.bounds {endian : Endian} {w : Window} {headers : List UnitHeader}
    (h : HoldsHeaders endian w headers) : ∀ header ∈ headers,
    header.offset < header.entries.start ∧ header.encoding.addressWidth ≤ 8 := by
  induction h with
  | nil => nofun
  | cons _ read _ ih =>
    have heads := heads_of_unitHeader read
    intro header mem
    rcases List.mem_cons.1 mem with rfl | mem
    · exact ⟨heads.offset ▸ heads.start, gives_unitHeader endian read⟩
    · exact ih header mem

end

/-! ## References -/

variable {u : UnitContext}

/-- An entry has the references with which it is encoded, and no others. -/
lemma attr_eq_ref_iff {x : Die} {a : Attr} {t : EntryId} :
    (u.entryOf x).attr a = some (.ref t) ↔
      ∃ place, x.RefersTo u.offset a place ∧ t = ⟨UInt64.ofNat place⟩ := by
  constructor
  · intro holds
    rw [attr_entryOf, Option.bind_eq_some_iff] at holds
    obtain ⟨v, first, value⟩ := holds
    by_cases reference : ∃ code, (code, a) ∈ referenceCodes
    · obtain ⟨code, reference⟩ := reference
      rw [firstValue?_eq_some_iff, code_of_mem_referenceCodes reference] at first
      rw [value?_of_mem_referenceCodes reference, Option.some_inj, reference_eq_ref_iff] at value
      obtain ⟨distance, rfl, rfl⟩ | ⟨offset, rfl, rfl⟩ := value
      · exact ⟨_, .withinUnit reference first, rfl⟩
      · exact ⟨_, .withinSection reference first, rfl⟩
    · exact absurd value (value?_ne_ref (not_exists.1 reference) v t)
  · rintro ⟨place, refers, rfl⟩
    cases refers with
    | withinUnit reference first => exact attr_of_hasFirst reference first
    | withinSection reference first => exact attr_of_hasFirst reference first

/-- A place has an offset of 64 bits, or it is no further than such an offset behind the beginning of
the unit. -/
lemma Die.RefersTo.inRange {x : Die} {start place : Nat} {a : Attr} (h : x.RefersTo start a place)
    (inRange : ∀ r ∈ x.attributes, r.value.InRange) :
    place < UInt64.size ∨ start ≤ place ∧ place < start + UInt64.size := by
  have holds {code : UInt16} {v : FormValue} (first : x.HasFirst code v) : v.InRange := by
    obtain ⟨before, after, split, -⟩ := first
    exact inRange ⟨code, v⟩ (split ▸ List.mem_append_right before List.mem_cons_self)
  cases h with
  | withinUnit _ first =>
    exact .inr ⟨Nat.le_add_right _ _, Nat.add_lt_add_left (holds first) _⟩
  | withinSection _ first => exact .inl (holds first)

/-- A reference whose place no entry of the unit has leads nowhere. The place may be too large for
an identifier, but one that wraps around comes to lie in front of the unit. -/
lemma misses_of_refersTo {root x : Die} {a : Attr} {place : Nat} {s : Store}
    (list : s.toList = root.preorder.map u.entryOf)
    (inside : ∀ d ∈ root.preorder, u.offset < d.offset ∧ d.offset < UInt64.size)
    (inRange : ∀ r ∈ x.attributes, r.value.InRange)
    (hx : x ∈ root.preorder) (refers : x.RefersTo u.offset a place)
    (nowhere : ∀ d ∈ root.preorder, d.offset ≠ place) :
    s.Misses x.id a ⟨UInt64.ofNat place⟩ := by
  have absent : (⟨UInt64.ofNat place⟩ : EntryId) ∉ s.toList.map Entry.id := by
    rw [list, List.map_map]
    intro present
    obtain ⟨d, hd, same⟩ := List.mem_map.1 present
    obtain ⟨before, small⟩ := inside d hd
    have other := nowhere d hd
    have wraps : d.offset = place % UInt64.size := by
      have same' : UInt64.ofNat d.offset = UInt64.ofNat place :=
        congrArg EntryId.offset ((id_entryOf u d).symm.trans same)
      rw [← UInt64.toNat_inj, UInt64.toNat_ofNat_of_lt' small, UInt64.toNat_ofNat'] at same'
      exact same'
    have range := refers.inRange inRange
    simp only [UInt64.size] at wraps range small
    omega
  refine ⟨Store.get_of_missing absent, Store.mem_dangling_iff.2 ⟨u.entryOf x, ?_, ?_, ?_, absent⟩⟩
  · exact list ▸ List.mem_map_of_mem hx
  · exact id_entryOf u x
  · exact attr_eq_ref_iff.2 ⟨place, refers, rfl⟩

/-! ## Sections -/

/-- Members that are related through something can be listed with it. -/
lemma exists_pairs {α β γ : Type} {R : α → γ → β → Prop} {as : List α} {bs : List β}
    (h : List.Forall₂ (fun a b => ∃ c, R a c b) as bs) :
    ∃ ps : List (α × γ), ps.map Prod.fst = as ∧ List.Forall₂ (fun p b => R p.1 p.2 b) ps bs := by
  induction h with
  | nil => exact ⟨[], rfl, .nil⟩
  | @cons a b as bs first _ ih =>
    obtain ⟨c, first⟩ := first
    obtain ⟨ps, rfl, rest⟩ := ih
    exact ⟨(a, c) :: ps, rfl, .cons first rest⟩

section

variable {sections : Sections} {held : List (UnitHeader × Die)}

/-- The entries in the stores of units are their encoded entries, so the identifiers grow alike. -/
lemma increasing_of_spans {units : List CompilationUnit} {w w' : Window}
    (spans : Spans ((diesOf held).map Die.offset) w w') (fits : w.stop ≤ UInt64.size)
    (stores : List.Forall₂ (fun p u =>
      u.store.toList = p.2.preorder.map (p.2.context sections p.1).entryOf) held units) :
    (units.flatMap fun u => u.store.toList).Pairwise fun a b => a.id.offset < b.id.offset := by
  have ids : (units.flatMap fun u => u.store.toList).map Entry.id = (diesOf held).map Die.id := by
    clear spans
    induction stores with
    | nil => rfl
    | @cons p u held units first _ ih =>
      have own : u.store.toList.map Entry.id = p.2.preorder.map Die.id := by
        rw [first, map_id_entryOf]
      rw [diesOf, List.flatMap_cons, List.flatMap_cons, List.map_append, List.map_append, own, ih]
      rfl
  have increasing := spans.ids fits
  rw [← ids, List.pairwise_map] at increasing
  exact increasing

/-- In each unit, references land among the entries of all units. -/
lemma lands_of_spans {w w' : Window} (spans : Spans ((diesOf held).map Die.offset) w w')
    (fits : w.stop ≤ UInt64.size) {header : UnitHeader} {root : Die} {s : Store}
    (mem : (header, root) ∈ held) (holds : HoldsUnit sections header root)
    (bounds : header.offset < header.entries.start ∧ header.encoding.addressWidth ≤ 8)
    (list : s.toList = root.preorder.map (root.context sections header).entryOf) :
    Lands (root.context sections header) root (diesOf held) s := by
  obtain ⟨table, rest, -, tree⟩ := holds
  have within : ∀ d ∈ root.preorder, d ∈ diesOf held := fun d hd =>
    List.mem_flatMap.2 ⟨_, mem, hd⟩
  have inside : ∀ d ∈ root.preorder, header.offset < d.offset ∧ d.offset < UInt64.size := by
    intro d hd
    have start := (tree.spans.inside d.offset (List.mem_map_of_mem hd)).1
    have stop := (spans.inside d.offset (List.mem_map_of_mem (within d hd))).2.2
    omega
  have distinct : ∀ d ∈ diesOf held, ∀ d' ∈ diesOf held, d.offset = d'.offset → d = d' := by
    have nodup : ((diesOf held).map Die.offset).Nodup := spans.increasing.imp Nat.ne_of_lt
    exact fun d hd d' hd' same => List.inj_on_of_nodup_map nodup hd hd' same
  have misses {x : Die} {a : Attr} {place : Nat} (hx : x ∈ root.preorder)
      (refers : x.RefersTo header.offset a place)
      (nowhere : ∀ d ∈ root.preorder, d.offset ≠ place) : s.Misses x.id a ⟨UInt64.ofNat place⟩ :=
    misses_of_refersTo list inside (tree.inRange bounds.2 x hx) hx refers nowhere
  refine ⟨list, fun d hd => (inside d hd).1, fun x _ a t => attr_eq_ref_iff, ?_, ?_, ?_⟩
  · intro x hx a d hd refers
    refine ⟨attr_eq_ref_iff.2 ⟨d.offset, refers, rfl⟩, Store.get_eq_ok_iff.2 ?_⟩
    exact Store.get?_eq_some_iff.2 ⟨list ▸ List.mem_map_of_mem hd, id_entryOf _ d⟩
  · intro x hx a d hd outside refers
    refine ⟨attr_eq_ref_iff.2 ⟨d.offset, refers, rfl⟩, misses hx refers fun d' hd' same => ?_⟩
    exact outside (distinct d' (within d' hd') d hd same ▸ hd')
  · intro x hx a place nowhere refers
    exact misses hx refers fun d hd => nowhere d (within d hd)

end

/-- References land on the entry that they designate or on nothing. The identifiers of all entries
grow from unit to unit. A reference of a unit is to the identifier of the entry at its place, in
whichever form it is and whichever unit that entry is in, and the store of its own unit has that
entry if it is in the unit, and no other one if not. -/
theorem references_land (sections : Sections) (fits : sections.info.size ≤ UInt64.size)
    {units : List CompilationUnit} (decoded : decode sections = .ok units) :
    (units.flatMap fun u => u.store.toList).Pairwise (fun a b => a.id.offset < b.id.offset) ∧
    ((units.flatMap fun u => u.store.toList).map Entry.id).Nodup ∧
    ∃ held : List (UnitHeader × Die),
      HoldsHeaders sections.endian (.ofBytes sections.info) (held.map Prod.fst) ∧
      (∀ p ∈ held, HoldsUnit sections p.1 p.2) ∧
      List.Forall₂ (fun p u => Lands (p.2.context sections p.1) p.2 (diesOf held) u.store)
        held units := by
  obtain ⟨_, headers, paired⟩ := holdsHeaders_of_decode decoded
  obtain ⟨held, rfl, stores⟩ := exists_pairs paired
  have holds : ∀ p ∈ held, HoldsUnit sections p.1 p.2 := by
    intro p hp
    obtain ⟨u, -, holds, -⟩ := exists_of_mem_left stores hp
    exact holds
  obtain ⟨w', spans⟩ := headers.spans holds
  have increasing := increasing_of_spans spans fits (stores.imp fun _ _ => And.right)
  refine ⟨increasing, nodup_of_increasing increasing, held, headers, holds, ?_⟩
  have members := (List.forall₂_and_left held units).2 ⟨fun p hp => hp, stores⟩
  refine members.imp ?_
  rintro ⟨header, root⟩ u ⟨mem, held, list⟩
  exact lands_of_spans spans fits mem held (headers.bounds header (List.mem_map_of_mem mem)) list

/-! ## Two units by hand -/

/-- Sections with two units. Each has a pointer to itself, by the same distance from where the unit
begins, and the second one a constant of the type of the first pointer as well. -/
def twoUnits : Sections where
  endian := .little
  info := ⟨#[0x0e, 0, 0, 0, 4, 0, 0, 0, 0, 0, 8, 1, 2, 0x0c, 0, 0, 0, 0,
    0x13, 0, 0, 0, 4, 0, 0, 0, 0, 0, 8, 1, 2, 0x0c, 0, 0, 0, 3, 0x0c, 0, 0, 0, 0]⟩
  abbreviations := ⟨#[1, 0x11, 1, 0, 0, 2, 0x0f, 0, 0x49, 0x13, 0, 0,
    3, 0x26, 0, 0x49, 0x10, 0, 0, 0]⟩
  str := .empty
  lineStr := .empty
  strOffsets := .empty
  line := .empty
  addr := .empty

namespace twoUnits

def abbreviationsFrom (start : Nat) : Window :=
  ⟨twoUnits.abbreviations, start, 20, by decide⟩

def firstFrom (start : Nat) : Window :=
  ⟨twoUnits.info, start, 0x12, by decide⟩

def secondFrom (start : Nat) : Window :=
  ⟨twoUnits.info, start, 0x29, by decide⟩

def unitAbbreviation : Abbreviation :=
  ⟨0x11, true, []⟩

def pointerAbbreviation : Abbreviation :=
  ⟨0x0f, false, [⟨0x49, 0x13, none⟩]⟩

def constAbbreviation : Abbreviation :=
  ⟨0x26, false, [⟨0x49, 0x10, none⟩]⟩

def table : AbbreviationTable :=
  (((∅ : AbbreviationTable).insert 1 unitAbbreviation).insert 2 pointerAbbreviation).insert 3
    constAbbreviation

def encoding : Encoding :=
  ⟨.little, .short, 4, 8⟩

def first : UnitHeader :=
  ⟨0, encoding, 0, firstFrom 0x0b⟩

def second : UnitHeader :=
  ⟨0x12, encoding, 0, secondFrom 0x1d⟩

def pointer (offset : Nat) : Die :=
  .node offset 0x0f [⟨0x49, .unitReference 0x0c⟩] []

def constant : Die :=
  .node 0x23 0x26 [⟨0x49, .sectionReference 0x0c⟩] []

def firstRoot : Die :=
  .node 0x0b 0x11 [] [pointer 0x0c]

def secondRoot : Die :=
  .node 0x1d 0x11 [] [pointer 0x1e, constant]

/-- The three abbreviations are read from their section. -/
lemma readAt_table : readAt twoUnits.abbreviations 0 abbreviationTable = .ok table := by
  have code₁ : unsignedLeb.run (abbreviationsFrom 0) = .ok (1, abbreviationsFrom 1) := rfl
  have unit : abbreviation.run (abbreviationsFrom 1) =
      .ok (unitAbbreviation, abbreviationsFrom 5) := by
    with_unfolding_all rfl
  have code₂ : unsignedLeb.run (abbreviationsFrom 5) = .ok (2, abbreviationsFrom 6) := rfl
  have pointer : abbreviation.run (abbreviationsFrom 6) =
      .ok (pointerAbbreviation, abbreviationsFrom 12) := by
    with_unfolding_all rfl
  have code₃ : unsignedLeb.run (abbreviationsFrom 12) = .ok (3, abbreviationsFrom 13) := rfl
  have const : abbreviation.run (abbreviationsFrom 13) =
      .ok (constAbbreviation, abbreviationsFrom 19) := by
    with_unfolding_all rfl
  have one := addAbbreviation_of_run code₁ (by decide) unit Std.HashMap.contains_empty
  have two := addAbbreviation_of_run code₂ (by decide) pointer
    (show ((∅ : AbbreviationTable).insert 1 unitAbbreviation).contains 2 = false by simp)
  have three := addAbbreviation_of_run code₃ (by decide) const
    (show (((∅ : AbbreviationTable).insert 1 unitAbbreviation).insert 2
      pointerAbbreviation).contains 3 = false by simp)
  have last : (addAbbreviation table).unlessAtEnd.run (abbreviationsFrom 19) =
      .ok (none, abbreviationsFrom 20) := rfl
  have run : abbreviationTable.run (abbreviationsFrom 0) = .ok (table, abbreviationsFrom 20) :=
    Reader.iterate_run_eq_ok <| (Reader.iterateFrom_of_some one).trans <|
      (Reader.iterateFrom_of_some two).trans <| (Reader.iterateFrom_of_some three).trans <|
        Reader.iterateFrom_of_none last
  exact congrArg (Except.map Prod.fst) run

/-- The first abbreviation is that of a unit. -/
lemma table_unit : table[1]? = some unitAbbreviation := by
  simp [table, Std.HashMap.getElem_insert]

/-- The second abbreviation is that of a pointer. -/
lemma table_pointer : table[2]? = some pointerAbbreviation := by
  simp [table, Std.HashMap.getElem_insert]

/-- The third abbreviation is that of a constant type. -/
lemma table_const : table[3]? = some constAbbreviation := by
  simp [table]

/-- The bytes of the first unit hold its tree. -/
lemma holdsUnit_first : HoldsUnit twoUnits first firstRoot := by
  have code₁ : unsignedLeb.run (firstFrom 0x0b) = .ok (1, firstFrom 0x0c) := rfl
  have code₂ : unsignedLeb.run (firstFrom 0x0c) = .ok (2, firstFrom 0x0d) := rfl
  have type : (formValue encoding ⟨0x49, 0x13, none⟩).run (firstFrom 0x0d) =
      .ok (.unitReference 0x0c, firstFrom 0x11) := by
    with_unfolding_all rfl
  have closed : (entryHead table).run (firstFrom 0x11) = .ok (none, firstFrom 0x12) := rfl
  have head₁ := entryHead_of_run code₁ (by decide) table_unit
  have head₂ := entryHead_of_run code₂ (by decide) table_pointer
  have children : HoldsAll encoding table (firstFrom 0x0c) [pointer 0x0c] (firstFrom 0x12) :=
    .cons (by decide) (.leaf head₂ (.cons type .nil) rfl) (.closed (by decide) closed)
  exact ⟨table, firstFrom 0x12, readAt_table, .parent head₁ .nil rfl children⟩

/-- The bytes of the second unit hold its tree. -/
lemma holdsUnit_second : HoldsUnit twoUnits second secondRoot := by
  have code₁ : unsignedLeb.run (secondFrom 0x1d) = .ok (1, secondFrom 0x1e) := rfl
  have code₂ : unsignedLeb.run (secondFrom 0x1e) = .ok (2, secondFrom 0x1f) := rfl
  have type₂ : (formValue encoding ⟨0x49, 0x13, none⟩).run (secondFrom 0x1f) =
      .ok (.unitReference 0x0c, secondFrom 0x23) := by
    with_unfolding_all rfl
  have code₃ : unsignedLeb.run (secondFrom 0x23) = .ok (3, secondFrom 0x24) := rfl
  have type₃ : (formValue encoding ⟨0x49, 0x10, none⟩).run (secondFrom 0x24) =
      .ok (.sectionReference 0x0c, secondFrom 0x28) := by
    with_unfolding_all rfl
  have closed : (entryHead table).run (secondFrom 0x28) = .ok (none, secondFrom 0x29) := rfl
  have head₁ := entryHead_of_run code₁ (by decide) table_unit
  have head₂ := entryHead_of_run code₂ (by decide) table_pointer
  have head₃ := entryHead_of_run code₃ (by decide) table_const
  have last : HoldsAll encoding table (secondFrom 0x23) [constant] (secondFrom 0x29) :=
    .cons (by decide) (.leaf head₃ (.cons type₃ .nil) rfl) (.closed (by decide) closed)
  have children : HoldsAll encoding table (secondFrom 0x1e) [pointer 0x1e, constant] (secondFrom 0x29) :=
    .cons (by decide) (.leaf head₂ (.cons type₂ .nil) rfl) last
  exact ⟨table, secondFrom 0x29, readAt_table, .parent head₁ .nil rfl children⟩

/-- The section holds the headers of both units. -/
lemma holdsHeaders : HoldsHeaders .little (.ofBytes twoUnits.info) [first, second] := by
  have read₁ : (unitHeader .little).run (.ofBytes twoUnits.info) =
      .ok (first, secondFrom 0x12) := by
    with_unfolding_all rfl
  have read₂ : (unitHeader .little).run (secondFrom 0x12) =
      .ok (second, secondFrom 0x29) := by
    with_unfolding_all rfl
  exact .cons (by decide) read₁ (.cons (by decide) read₂ (.nil rfl))

/-- The section is decoded into two units. -/
lemma exists_decode : ∃ u₁ u₂, decode twoUnits = .ok [u₁, u₂] := by
  -- the units name neither a line table nor an address
  obtain ⟨u₁, decoded₁⟩ := holdsUnit_first.exists_unit rfl rfl (by decide)
  obtain ⟨u₂, decoded₂⟩ := holdsUnit_second.exists_unit rfl rfl (by decide)
  exact ⟨u₁, u₂, decode_eq_ok_iff.2 ⟨_, holdsHeaders, .cons decoded₁ (.cons decoded₂ .nil)⟩⟩

end twoUnits

/-- The pointer of the second unit is to itself, though by the distance that the pointer of the
first unit has, and the constant is to nothing, for the first unit is not its own. -/
theorem references_land_twoUnits :
    twoUnits.info.size ≤ UInt64.size ∧
      ∃ u₁ u₂, decode twoUnits = .ok [u₁, u₂] ∧
        (∃ e, u₂.store.get ⟨0x1e⟩ = .ok e ∧ e.attr .type = some (.ref ⟨0x1e⟩)) ∧
        u₂.store.Misses ⟨0x23⟩ .type ⟨0x0c⟩ := by
  have fits : twoUnits.info.size ≤ UInt64.size := by decide
  obtain ⟨u₁, u₂, decoded⟩ := twoUnits.exists_decode
  obtain ⟨-, -, held, headers, units, lands⟩ := references_land twoUnits fits decoded
  -- the units that are decoded are the two above
  obtain ⟨⟨header₁, root₁⟩, _, -, rest, rfl⟩ := List.forall₂_cons_right_iff.1 lands
  obtain ⟨⟨header₂, root₂⟩, _, lands₂, none, rfl⟩ := List.forall₂_cons_right_iff.1 rest
  cases List.forall₂_nil_right_iff.1 none
  cases headers.unique twoUnits.holdsHeaders
  obtain rfl := (units _ List.mem_cons_self).unique twoUnits.holdsUnit_first
  obtain rfl := (units _ (.tail _ List.mem_cons_self)).unique twoUnits.holdsUnit_second
  have pointer : twoUnits.pointer 0x1e ∈ twoUnits.secondRoot.preorder := .tail _ (.head _)
  have constant : twoUnits.constant ∈ twoUnits.secondRoot.preorder := .tail _ (.tail _ (.head _))
  have foreign : twoUnits.pointer 0x0c ∉ twoUnits.secondRoot.preorder := by
    intro mem
    have offset : 0x0c ∈ twoUnits.secondRoot.preorder.map Die.offset := List.mem_map_of_mem mem
    exact absurd offset (by decide)
  have toPointer : (twoUnits.pointer 0x1e).RefersTo 0x12 .type (0x12 + 0x0c) :=
    .withinUnit (.head _) ⟨[], [], rfl, nofun⟩
  have toForeign : twoUnits.constant.RefersTo 0x12 .type 0x0c :=
    .withinSection (.head _) ⟨[], [], rfl, nofun⟩
  obtain ⟨type, found⟩ := lands₂.own _ pointer .type _ pointer toPointer
  obtain ⟨-, misses⟩ := lands₂.other _ constant .type _ (.tail _ (.head _)) foreign toForeign
  exact ⟨fits, u₁, u₂, decoded, ⟨_, found, type⟩, misses⟩

end Dwarf

end Prototyper
