import Mathlib.Data.List.Forall2
import Prototyper.Proofs.Decoding.Progress

/-!
# How a section holds its entries

`Die` is an entry as it is encoded, before anything is read into its attributes. `Holds` says as a
grammar which tree of such entries the bytes of a unit hold, and `HoldsHeaders` which units follow
each other in a section. Bytes hold no more than one tree (`Holds.unique`), and the offsets in it grow
from parents to children and from each entry to the next one (`Holds.spans`).

The grammar reads numbers, abbreviations and forms by the readers of `Dwarf`. That these are those of
the format is the DWARF assumption (see `Dwarf.Encoding`).
-/

namespace Prototyper.Dwarf

/-- An entry as it is encoded, with the entries inside of it: its offset in the section, the code
of its tag, and its attributes in the order of its abbreviation. -/
inductive Die where
  | node (offset : Nat) (tag : UInt16) (attributes : List RawAttribute) (children : List Die)

namespace Die

def offset : Die → Nat
  | node offset _ _ _ => offset

def attributes : Die → List RawAttribute
  | node _ _ attributes _ => attributes

def children : Die → List Die
  | node _ _ _ children => children

/-- The identifier of an entry is its offset. -/
def id (d : Die) : EntryId :=
  ⟨UInt64.ofNat d.offset⟩

mutual

/-- An entry and all entries inside of it, parents first. -/
def preorder : Die → List Die
  | node offset tag attributes children =>
    node offset tag attributes children :: preorderAll children

def preorderAll : List Die → List Die
  | [] => []
  | d :: ds => d.preorder ++ preorderAll ds

end

end Die

/-! ## The grammar -/

/-- The values at the front of a window are those of an entry with these attributes. -/
inductive HoldsAttributes (enc : Encoding) :
    List AttributeSpec → Window → List RawAttribute → Window → Prop where
  | nil {w} :
    HoldsAttributes enc [] w [] w
  | cons {spec specs value raw w w₁ w₂} :
    (formValue enc spec).run w = .ok (value, w₁) →
    HoldsAttributes enc specs w₁ raw w₂ →
    HoldsAttributes enc (spec :: specs) w (⟨spec.name, value⟩ :: raw) w₂

mutual

/-- The bytes at the front of a window hold an entry with all entries inside of it. -/
inductive Holds (enc : Encoding) (table : AbbreviationTable) : Window → Die → Window → Prop where
  | leaf {w w₁ w₂ abbreviation raw} :
    (entryHead table).run w = .ok (some abbreviation, w₁) →
    HoldsAttributes enc abbreviation.specs w₁ raw w₂ →
    abbreviation.hasChildren = false →
    Holds enc table w (.node w.start abbreviation.tag raw []) w₂
  | parent {w w₁ w₂ w₃ abbreviation raw children} :
    (entryHead table).run w = .ok (some abbreviation, w₁) →
    HoldsAttributes enc abbreviation.specs w₁ raw w₂ →
    abbreviation.hasChildren = true →
    HoldsAll enc table w₂ children w₃ →
    Holds enc table w (.node w.start abbreviation.tag raw children) w₃

/-- The bytes at the front of a window hold entries one after the other, up to the empty entry or
to the end of the window. -/
inductive HoldsAll (enc : Encoding) (table : AbbreviationTable) :
    Window → List Die → Window → Prop where
  | ended {w} :
    w.size = 0 →
    HoldsAll enc table w [] w
  | closed {w w₁} :
    w.size ≠ 0 →
    (entryHead table).run w = .ok (none, w₁) →
    HoldsAll enc table w [] w₁
  | cons {w w₁ w₂ d ds} :
    w.size ≠ 0 →
    Holds enc table w d w₁ →
    HoldsAll enc table w₁ ds w₂ →
    HoldsAll enc table w (d :: ds) w₂

end

/-- A unit holds the tree of its outermost entry. -/
def HoldsUnit (sections : Sections) (header : UnitHeader) (root : Die) : Prop :=
  ∃ table rest,
    readAt sections.abbreviations header.abbreviationsOffset abbreviationTable = .ok table ∧
    Holds header.encoding table header.entries root rest

/-- A window holds the headers of units one after the other. -/
inductive HoldsHeaders (endian : Endian) : Window → List UnitHeader → Prop where
  | nil {w} :
    w.size = 0 →
    HoldsHeaders endian w []
  | cons {w w' header headers} :
    w.size ≠ 0 →
    (unitHeader endian).run w = .ok (header, w') →
    HoldsHeaders endian w' headers →
    HoldsHeaders endian w (header :: headers)

/-! ## Uniqueness -/

section

variable {enc : Encoding} {table : AbbreviationTable}

/-- Bytes hold the attributes of an entry in one way. -/
lemma HoldsAttributes.unique {specs : List AttributeSpec} {raw raw' : List RawAttribute}
    {w w₁ w₂ : Window} (h : HoldsAttributes enc specs w raw w₁)
    (h' : HoldsAttributes enc specs w raw' w₂) : raw = raw' ∧ w₁ = w₂ := by
  induction h generalizing raw' with
  | nil =>
    cases h'
    exact ⟨rfl, rfl⟩
  | cons value _ ih =>
    cases h' with
    | cons value' rest =>
      cases value.symm.trans value'
      obtain ⟨rfl, rfl⟩ := ih rest
      exact ⟨rfl, rfl⟩

/-- A tree begins with the head and the attributes of its outermost entry. -/
lemma Holds.front {w w' : Window} {d : Die} (h : Holds enc table w d w') :
    ∃ abbreviation w₁ w₂, (entryHead table).run w = .ok (some abbreviation, w₁) ∧
      HoldsAttributes enc abbreviation.specs w₁ d.attributes w₂ := by
  cases h with
  | leaf code attributes => exact ⟨_, _, _, code, attributes⟩
  | parent code attributes => exact ⟨_, _, _, code, attributes⟩

/-- Bytes that hold a tree do not begin with the end of a list of children. -/
lemma Holds.not_empty {w w' w'' : Window} {d : Die} (h : Holds enc table w d w') :
    (entryHead table).run w ≠ .ok (none, w'') := by
  intro empty
  obtain ⟨abbreviation, w₁, w₂, code, -⟩ := h.front
  cases code.symm.trans empty

mutual

/-- Bytes hold no more than one tree. -/
lemma Holds.unique {w w₁ w₂ : Window} {d d' : Die} (h : Holds enc table w d w₁)
    (h' : Holds enc table w d' w₂) : d = d' ∧ w₁ = w₂ := by
  match h, h' with
  | .leaf code attributes childless, .leaf code' attributes' childless' =>
    cases code.symm.trans code'
    obtain ⟨rfl, rfl⟩ := attributes.unique attributes'
    exact ⟨rfl, rfl⟩
  | .leaf code _ childless, .parent code' _ parent _ =>
    cases code.symm.trans code'
    cases childless.symm.trans parent
  | .parent code _ parent _, .leaf code' _ childless =>
    cases code.symm.trans code'
    cases childless.symm.trans parent
  | .parent code attributes _ children, .parent code' attributes' _ children' =>
    cases code.symm.trans code'
    obtain ⟨rfl, rfl⟩ := attributes.unique attributes'
    obtain ⟨rfl, rfl⟩ := children.unique children'
    exact ⟨rfl, rfl⟩

/-- Bytes hold a list of trees in one way. -/
lemma HoldsAll.unique {w w₁ w₂ : Window} {ds ds' : List Die} (h : HoldsAll enc table w ds w₁)
    (h' : HoldsAll enc table w ds' w₂) : ds = ds' ∧ w₁ = w₂ := by
  match h, h' with
  | .ended _, .ended _ => exact ⟨rfl, rfl⟩
  | .ended ended, .closed more _ => exact absurd ended more
  | .ended ended, .cons more _ _ => exact absurd ended more
  | .closed more _, .ended ended => exact absurd ended more
  | .closed _ empty, .closed _ empty' =>
    cases empty.symm.trans empty'
    exact ⟨rfl, rfl⟩
  | .closed _ empty, .cons _ first _ => exact absurd empty first.not_empty
  | .cons more _ _, .ended ended => exact absurd ended more
  | .cons _ first _, .closed _ empty => exact absurd empty first.not_empty
  | .cons _ first rest, .cons _ first' rest' =>
    obtain ⟨rfl, rfl⟩ := first.unique first'
    obtain ⟨rfl, rfl⟩ := rest.unique rest'
    exact ⟨rfl, rfl⟩

end

/-- A unit has one tree. -/
lemma HoldsUnit.unique {sections : Sections} {header : UnitHeader} {root root' : Die}
    (h : HoldsUnit sections header root) (h' : HoldsUnit sections header root') : root = root' := by
  obtain ⟨table, rest, read, holds⟩ := h
  obtain ⟨table', rest', read', holds'⟩ := h'
  cases read.symm.trans read'
  exact (holds.unique holds').1

/-- Bytes hold no more than one sequence of units. -/
lemma HoldsHeaders.unique {endian : Endian} {w : Window} {headers headers' : List UnitHeader}
    (h : HoldsHeaders endian w headers) (h' : HoldsHeaders endian w headers') :
    headers = headers' := by
  induction h generalizing headers' with
  | nil ended =>
    cases h' with
    | nil => rfl
    | cons more => exact absurd ended more
  | cons more read _ ih =>
    cases h' with
    | nil ended => exact absurd ended more
    | cons _ read' rest =>
      cases read.symm.trans read'
      rw [ih rest]

end

/-- What a unit adds to the forms of its entries; its outermost entry says where the table of text
offsets begins. -/
def Die.context (root : Die) (sections : Sections) (header : UnitHeader) : UnitContext where
  sections
  offset := header.offset
  encoding := header.encoding
  textOffsetsBase := (lastValue? root.attributes [0x72] FormValue.sectionOffset?).getD 0

namespace UnitContext

/-- The entry that an encoded entry of a unit stands for. -/
def entryOf (u : UnitContext) : Die → Entry
  | .node offset tag raw children =>
    ⟨⟨UInt64.ofNat offset⟩, .ofCode tag, u.attributes raw, children.map Die.id⟩

mutual

/-- The tree that an encoded entry of a unit stands for. -/
def treeOf (u : UnitContext) : Die → EntryTree
  | .node offset tag raw children =>
    .node ⟨UInt64.ofNat offset⟩ (.ofCode tag) (u.attributes raw) (u.treesOf children)

def treesOf (u : UnitContext) : List Die → List EntryTree
  | [] => []
  | d :: ds => u.treeOf d :: u.treesOf ds

end

/-- A decoded tree has the identifier of its root. -/
lemma id_treeOf (u : UnitContext) (d : Die) : (u.treeOf d).id = d.id := by
  cases d
  rfl

/-- Decoded trees have the identifiers of their roots. -/
lemma map_id_treesOf (u : UnitContext) (ds : List Die) :
    (u.treesOf ds).map EntryTree.id = ds.map Die.id := by
  induction ds with
  | nil => rfl
  | cons d ds ih => rw [treesOf, List.map_cons, List.map_cons, id_treeOf, ih]

mutual

/-- The entries of the tree of an encoded entry are those of the entries inside of it. -/
lemma entries_treeOf (u : UnitContext) (d : Die) :
    (u.treeOf d).entries = d.preorder.map u.entryOf := by
  match d with
  | .node offset tag raw children =>
    rw [treeOf, EntryTree.entries, Die.preorder, List.map_cons, map_id_treesOf, entryOf,
      forestEntries_treesOf u children]

/-- The entries of decoded trees are those of the trees, in preorder. -/
lemma forestEntries_treesOf (u : UnitContext) (ds : List Die) :
    EntryTree.forestEntries (u.treesOf ds) = (Die.preorderAll ds).map u.entryOf := by
  match ds with
  | [] => rfl
  | d :: ds =>
    rw [treesOf, EntryTree.forestEntries, Die.preorderAll, List.map_append, entries_treeOf u d,
      forestEntries_treesOf u ds]

end

end UnitContext

/-- A decoded entry has its own identifier. -/
lemma id_entryOf (u : UnitContext) (d : Die) : (u.entryOf d).id = d.id := by
  cases d
  rfl

/-- Decoded entries have their own identifiers. -/
lemma map_id_entryOf (u : UnitContext) (ds : List Die) :
    (ds.map u.entryOf).map Entry.id = ds.map Die.id := by
  rw [List.map_map]
  exact List.map_congr_left fun d _ => id_entryOf u d

/-! ## Offsets -/

/-- Offsets grow within the part of a window that has been read. -/
structure Spans (offsets : List Nat) (w w' : Window) : Prop where
  behind : w'.Behind w
  increasing : offsets.Pairwise (· < ·)
  inside : ∀ o ∈ offsets, w.start ≤ o ∧ o < w'.start ∧ o < w.stop

/-- No entries span any bytes. -/
lemma Spans.nil {w w' : Window} (behind : w'.Behind w) : Spans [] w w' :=
  ⟨behind, .nil, nofun⟩

/-- Entries that follow others in the bytes span both stretches together. -/
lemma Spans.append {os os' : List Nat} {w w' w'' : Window} (h : Spans os w w')
    (h' : Spans os' w' w'') : Spans (os ++ os') w w'' := by
  refine ⟨h'.behind.trans h.behind, ?_, ?_⟩
  · rw [List.pairwise_append]
    refine ⟨h.increasing, h'.increasing, fun o ho o' ho' => ?_⟩
    exact Nat.lt_of_lt_of_le (h.inside o ho).2.1 (h'.inside o' ho').1
  · intro o ho
    rcases List.mem_append.1 ho with ho | ho
    · obtain ⟨start, before, stop⟩ := h.inside o ho
      exact ⟨start, Nat.lt_of_lt_of_le before h'.behind.start_le, stop⟩
    · obtain ⟨start, before, stop⟩ := h'.inside o ho
      exact ⟨Nat.le_trans h.behind.start_le start, before, h.behind.stop ▸ stop⟩

/-- Where something is read, its offset is the first one. -/
lemma Spans.cons {os : List Nat} {w w' w'' : Window} (behind : w'.Behind w)
    (smaller : w'.size < w.size) (h : Spans os w' w'') : Spans (w.start :: os) w w'' := by
  have first : Spans [w.start] w w' := by
    refine ⟨behind, List.pairwise_singleton _ _, fun o ho => ?_⟩
    obtain rfl := List.mem_singleton.1 ho
    refine ⟨Nat.le_refl _, behind.start_lt smaller, ?_⟩
    simp only [Window.size] at smaller
    omega
  exact first.append h

variable {enc : Encoding} {table : AbbreviationTable}

/-- The attributes of an entry are read going forward. -/
lemma HoldsAttributes.behind {specs : List AttributeSpec} {raw : List RawAttribute} {w w' : Window}
    (h : HoldsAttributes enc specs w raw w') : w'.Behind w := by
  induction h with
  | nil => exact .refl _
  | cons value _ ih => exact ih.trans (forward_formValue enc _ value)

/-- The window behind the head and the attributes of an entry. -/
lemma head_behind {w w₁ w₂ : Window} {abbreviation : Abbreviation} {raw : List RawAttribute}
    (head : (entryHead table).run w = .ok (some abbreviation, w₁))
    (attributes : HoldsAttributes enc abbreviation.specs w₁ raw w₂) :
    w₂.Behind w ∧ w₂.size < w.size := by
  have behind := forward_entryHead table head
  have behind' := attributes.behind
  have smaller : w₁.size < w.size := consumes_entryHead table head
  refine ⟨behind'.trans behind, ?_⟩
  have start := behind'.start_le
  have stop := behind'.stop
  simp only [Window.size] at smaller ⊢
  omega

mutual

/-- The offsets of a tree grow, parents first, within the bytes that hold it. -/
lemma Holds.spans {w w' : Window} {d : Die} (h : Holds enc table w d w') :
    Spans (d.preorder.map Die.offset) w w' := by
  match h with
  | .leaf head attributes _ =>
    obtain ⟨behind, smaller⟩ := head_behind head attributes
    exact .cons behind smaller (.nil (.refl _))
  | .parent head attributes _ children =>
    obtain ⟨behind, smaller⟩ := head_behind head attributes
    exact .cons behind smaller children.spans

/-- The entries of trees begin one behind the other in the bytes that hold them. -/
lemma HoldsAll.spans {w w' : Window} {ds : List Die} (h : HoldsAll enc table w ds w') :
    Spans ((Die.preorderAll ds).map Die.offset) w w' := by
  match h with
  | .ended _ => exact .nil (.refl w)
  | .closed _ empty => exact .nil (forward_entryHead table empty)
  | .cons _ first rest =>
    rw [Die.preorderAll, List.map_append]
    exact first.spans.append rest.spans

end

end Prototyper.Dwarf
