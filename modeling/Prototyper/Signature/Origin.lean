import Prototyper.Defect

/-!
# Origins

An entry may leave attributes to another one: a concrete instance to its abstract origin, a
definition to the declaration that it completes. `Store.carrier` follows these links from an entry
to the nearest one that carries an attribute.
-/

namespace Prototyper

/-- The number of links that a search for an attribute follows at most. -/
def originLimit : Nat :=
  8

/-- The attribute that links an entry to its origin. -/
def Entry.originAttr (e : Entry) : Attr :=
  if e.hasAttr .abstractOrigin then .abstractOrigin else .specification

/-- The entry to which an entry leaves the attributes that it does not carry. -/
def Entry.origin (e : Entry) : Except Defect (Option EntryId) :=
  e.reference e.originAttr

namespace Store

/-- The nearest carrier of an attribute, within a number of links and given the entries already
visited. -/
def carrierFrom (s : Store) (a : Attr) :
    (links : Nat) → (visited : List EntryId) → Entry → Except Defect (Option Entry)
  | links, visited, e => do
    if e.hasAttr a then
      return some e
    match ← e.origin with
    | none => return none
    | some id =>
      if id ∈ visited then
        throw (.referenceCycle id)
      match links with
      | 0 => throw (.referenceCycle id)
      | links + 1 => s.carrierFrom a links (id :: visited) (← s.lookup id)

/-- The first entry that carries an attribute, on the way from an entry along its origins. -/
def carrier (s : Store) (a : Attr) (e : Entry) : Except Defect (Option Entry) :=
  s.carrierFrom a originLimit [e.id] e

/-- The value of an attribute, own or inherited. -/
def inherited (s : Store) (a : Attr) (e : Entry) : Except Defect (Option Value) := do
  return (← s.carrier a e).bind fun c => c.attr a

end Store

end Prototyper
