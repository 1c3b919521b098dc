import Prototyper.Text.Numeral

/-!
# Debugging information entries

The flat view of a compilation unit on which everything else works: an entry has an identifier, a
tag, some of fourteen attributes and an ordered list of children. Entries name each other by
identifier only, so references may point forward, in circles or nowhere.
-/

namespace Prototyper

open Text (hexString)

/-- Identifier of an entry: its offset in the section of debugging information. -/
structure EntryId where
  offset : UInt64
  deriving DecidableEq, Hashable, Inhabited, Repr

/-- The spelling of an identifier in messages, as in `<0x2d>`. -/
def EntryId.text (id : EntryId) : String :=
  s!"<0x{hexString id.offset.toNat}>"

/-- What an entry describes. -/
inductive Tag where
  | compileUnit
  | subprogram
  | formalParameter
  /-- The marker that stands for the `...` of a variadic function. -/
  | unspecifiedParameters
  | pointerType
  | constType
  | volatileType
  | restrictType
  | baseType
  | structureType
  | unionType
  | enumerationType
  | arrayType
  | typedef
  | subrangeType
  | subroutineType
  | inlinedSubroutine
  | dataVariable
  | member
  | lexicalBlock
  /-- A tag without a role in prototypes, with its code. -/
  | other (code : UInt16)
  deriving DecidableEq, Inhabited, Repr

namespace Tag

/-- The tags that have a name of their own, with their codes in the debugging format. -/
def codes : List (UInt16 × Tag) :=
  [(0x11, compileUnit), (0x2e, subprogram), (0x05, formalParameter),
   (0x18, unspecifiedParameters), (0x0f, pointerType), (0x26, constType), (0x35, volatileType),
   (0x37, restrictType), (0x24, baseType), (0x13, structureType), (0x17, unionType),
   (0x04, enumerationType), (0x01, arrayType), (0x16, typedef), (0x21, subrangeType),
   (0x15, subroutineType), (0x1d, inlinedSubroutine), (0x34, dataVariable), (0x0d, member),
   (0x0b, lexicalBlock)]

/-- The tag with a given code. -/
def ofCode (code : UInt16) : Tag :=
  (codes.lookup code).getD (other code)

/-- The name that the debugging format gives to a tag; a tag without one shows its code. -/
def text : Tag → String
  | compileUnit => "DW_TAG_compile_unit"
  | subprogram => "DW_TAG_subprogram"
  | formalParameter => "DW_TAG_formal_parameter"
  | unspecifiedParameters => "DW_TAG_unspecified_parameters"
  | pointerType => "DW_TAG_pointer_type"
  | constType => "DW_TAG_const_type"
  | volatileType => "DW_TAG_volatile_type"
  | restrictType => "DW_TAG_restrict_type"
  | baseType => "DW_TAG_base_type"
  | structureType => "DW_TAG_structure_type"
  | unionType => "DW_TAG_union_type"
  | enumerationType => "DW_TAG_enumeration_type"
  | arrayType => "DW_TAG_array_type"
  | typedef => "DW_TAG_typedef"
  | subrangeType => "DW_TAG_subrange_type"
  | subroutineType => "DW_TAG_subroutine_type"
  | inlinedSubroutine => "DW_TAG_inlined_subroutine"
  | dataVariable => "DW_TAG_variable"
  | member => "DW_TAG_member"
  | lexicalBlock => "DW_TAG_lexical_block"
  | other code => s!"DW_TAG_0x{hexString code.toNat}"

/-- Whether the tag is one of the wrappers that qualify a type. -/
def isQualifier : Tag → Bool
  | constType | volatileType | restrictType => true
  | _ => false

end Tag

/-- The attributes that matter for prototypes, in the order in which an entry lists them. -/
inductive Attr where
  | name
  | type
  | inline
  | upperBound
  | count
  | declaration
  | external
  | abstractOrigin
  | specification
  | prototyped
  | declFile
  | declLine
  | byteSize
  | encoding
  deriving DecidableEq, Inhabited, Repr

namespace Attr

/-- All attributes, in order. -/
def all : List Attr :=
  [name, type, inline, upperBound, count, declaration, external, abstractOrigin, specification,
   prototyped, declFile, declLine, byteSize, encoding]

/-- Every attribute is listed. -/
theorem mem_all (a : Attr) : a ∈ all := by
  cases a <;> decide

/-- No attribute is listed twice. -/
theorem nodup_all : all.Nodup := by
  decide

/-- The name that the debugging format gives to an attribute. -/
def text : Attr → String
  | name => "DW_AT_name"
  | type => "DW_AT_type"
  | inline => "DW_AT_inline"
  | upperBound => "DW_AT_upper_bound"
  | count => "DW_AT_count"
  | declaration => "DW_AT_declaration"
  | external => "DW_AT_external"
  | abstractOrigin => "DW_AT_abstract_origin"
  | specification => "DW_AT_specification"
  | prototyped => "DW_AT_prototyped"
  | declFile => "DW_AT_decl_file"
  | declLine => "DW_AT_decl_line"
  | byteSize => "DW_AT_byte_size"
  | encoding => "DW_AT_encoding"

end Attr

/-- The value of an attribute. -/
inductive Value where
  | unsigned (n : UInt64)
  | signed (n : Int64)
  | string (s : String)
  | flag (set : Bool)
  /-- A reference to an entry by identifier. -/
  | ref (target : EntryId)
  /-- A reference in a form that names no entry; the form is kept for messages. -/
  | unresolvedRef (form : String)
  deriving DecidableEq, Inhabited, Repr

namespace Value

/-- The text of a string value. -/
def string? : Value → Option String
  | string s => some s
  | _ => none

/-- The entry that a reference names. -/
def target? : Value → Option EntryId
  | ref id => some id
  | _ => none

/-- The number of an integer value that is not negative. -/
def unsigned? : Value → Option UInt64
  | unsigned n => some n
  | signed n => if 0 ≤ n then some n.toUInt64 else none
  | _ => none

/-- The truth value of a flag; an unsigned number counts as one, zero being false. -/
def flag? : Value → Option Bool
  | flag b => some b
  | unsigned n => some (n != 0)
  | _ => none

/-- Whether the value is a reference, followable or not. -/
def isReference : Value → Bool
  | ref _ | unresolvedRef _ => true
  | _ => false

end Value

/-- The attributes of one entry. -/
abbrev Attributes : Type :=
  Attr → Option Value

/-- The attributes given by a list of pairs; the first pair for an attribute counts. -/
def Attributes.ofList (pairs : List (Attr × Value)) : Attributes :=
  fun a => pairs.lookup a

/-- One debugging information entry. -/
structure Entry where
  id : EntryId
  tag : Tag
  attr : Attributes
  children : List EntryId

instance : Inhabited Entry :=
  ⟨default, default, fun _ => none, []⟩

namespace Entry

/-- Whether the entry carries an attribute, whatever its value. -/
def hasAttr (e : Entry) (a : Attr) : Bool :=
  (e.attr a).isSome

/-- The name of the entry, when it has one that is a string. -/
def name? (e : Entry) : Option String :=
  (e.attr .name).bind Value.string?

/-- The entry that the type attribute refers to. -/
def typeTarget? (e : Entry) : Option EntryId :=
  (e.attr .type).bind Value.target?

/-- Whether a flag attribute is present and set. -/
def flag (e : Entry) (a : Attr) : Bool :=
  ((e.attr a).bind Value.flag?).getD false

/-- The references of the entry that name an entry, in attribute order. -/
def references (e : Entry) : List (Attr × EntryId) :=
  Attr.all.filterMap fun a => ((e.attr a).bind Value.target?).map (a, ·)

/-- An entry lists exactly the targets of its attributes. -/
theorem mem_references {e : Entry} {a : Attr} {t : EntryId} :
    (a, t) ∈ e.references ↔ e.attr a = some (.ref t) := by
  simp only [references, List.mem_filterMap, Option.map_eq_some_iff, Prod.mk.injEq]
  constructor
  · rintro ⟨b, -, x, hx, rfl, rfl⟩
    obtain ⟨v, hv, ht⟩ := Option.bind_eq_some_iff.1 hx
    cases v <;> simp_all [Value.target?]
  · intro h
    exact ⟨a, Attr.mem_all a, t, by simp [h, Value.target?], rfl, rfl⟩

end Entry

end Prototyper
