import Prototyper.Dwarf.Attribute
import Prototyper.Entry.Tree
import Prototyper.Fault

/-!
# Trees of entries

An entry begins with the code of its abbreviation, followed by its attributes and, when it may have
children, by these up to an empty entry or to the end of the unit. An attribute that cannot be read
is reported with the first attribute that was still to be found when it came up.

How entries are nested is part of the DWARF assumption (see `Dwarf.Encoding`).
-/

namespace Prototyper.Dwarf

/-- The abbreviation of the next entry, or none for the empty entry. -/
def entryHead (table : AbbreviationTable) : ByteReader Error (Option Abbreviation) := do
  let code ← unsignedLeb
  if code = 0 then
    return none
  match table[code]? with
  | some a => return some a
  | none => .fail .unknownAbbreviation

/-- The head of an entry takes bytes. -/
theorem consumes_entryHead (table : AbbreviationTable) : (entryHead table).Consumes :=
  Reader.Consumes.bind consumes_unsignedLeb _

/-- The first attribute that is not among those already read. -/
def firstMissing? (raw : List RawAttribute) : Option Attr :=
  Attr.all.find? fun a => (firstValue? raw a).isNone

/-- The fault of an attribute of an entry that cannot be read. -/
def attributeFault (id : EntryId) (raw : List RawAttribute) (e : Error) : Fault :=
  match firstMissing? raw with
  | some a => .inContext s!"Failed to read {a.text} of {id.text}" (.dwarf e)
  | none => .dwarf e

/-- The attributes of an entry, after those already read. -/
def attributesFrom {ε : Type} (enc : Encoding) (fault : List RawAttribute → Error → ε)
    (raw : List RawAttribute) : List AttributeSpec → ByteReader ε (List RawAttribute)
  | [] => pure raw
  | spec :: specs => do
    let value ← (formValue enc spec).mapError (fault raw)
    attributesFrom enc fault (raw ++ [⟨spec.name, value⟩]) specs

/-- An entry without its children. -/
structure Head where
  id : EntryId
  tag : Tag
  attr : Attributes
  hasChildren : Bool

/-- The tree of an entry with its children. -/
def Head.tree (h : Head) (children : List EntryTree) : EntryTree :=
  .node h.id h.tag h.attr children

/-- The next entry without its children, or none for the empty entry. -/
def head (u : UnitContext) (table : AbbreviationTable) : ByteReader Fault (Option Head) := do
  let offset ← ByteReader.position
  match ← (entryHead table).mapError .dwarf with
  | none => return none
  | some a =>
    let id : EntryId := ⟨UInt64.ofNat offset⟩
    let raw ← attributesFrom u.encoding (attributeFault id) [] a.specs
    return some ⟨id, .ofCode a.tag, u.attributes raw, a.hasChildren⟩

/-- An entry takes bytes. -/
theorem consumes_head (u : UnitContext) (table : AbbreviationTable) : (head u table).Consumes :=
  Reader.consumes_bind_of_forall fun _ =>
    Reader.Consumes.bind (Reader.Consumes.mapError (consumes_entryHead table) _) _

/-- The trees at the front of a window up to the empty entry or the end of the window, after those
already read, the last one first. The window has at most `limit` bytes. -/
def forestFrom (u : UnitContext) (table : AbbreviationTable) (limit : Nat) (trees : List EntryTree)
    (w : Window) (le : w.size ≤ limit) :
    Except Fault (List EntryTree × { w' : Window // w'.size ≤ limit }) :=
  if w.size = 0 then
    .ok (trees.reverse, ⟨w, le⟩)
  else
    match h : (head u table).run w with
    | .error e => .error e
    | .ok (none, w') =>
      .ok (trees.reverse, ⟨w', Nat.le_trans (Nat.le_of_lt (consumes_head u table h)) le⟩)
    | .ok (some entry, w') =>
      have smaller : w'.size < w.size := consumes_head u table h
      have le' : w'.size ≤ limit := Nat.le_trans (Nat.le_of_lt smaller) le
      if entry.hasChildren then
        match forestFrom u table w'.size [] w' (Nat.le_refl _) with
        | .error e => .error e
        | .ok (children, ⟨w'', inner⟩) =>
          have _ : w''.size < w.size := Nat.lt_of_le_of_lt inner smaller
          forestFrom u table limit (entry.tree children :: trees) w'' (Nat.le_trans inner le')
      else
        forestFrom u table limit (entry.tree [] :: trees) w' le'
  termination_by w.size

/-- The tree of the first entry of a unit. -/
def tree (u : UnitContext) (table : AbbreviationTable) (w : Window) : Except Fault EntryTree :=
  match (head u table).run w with
  | .error e => .error e
  | .ok (none, _) => .error (.dwarf .unexpectedNull)
  | .ok (some entry, w') =>
    if entry.hasChildren then
      (forestFrom u table w'.size [] w' (Nat.le_refl _)).map fun found => entry.tree found.1
    else
      .ok (entry.tree [])

end Prototyper.Dwarf
