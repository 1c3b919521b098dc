import Prototyper.Entry.Tree
import Prototyper.Report.Basic
import Prototyper.Signature.Reconstruction
import Std.Data.HashSet

/-!
# Extraction

Which functions of a unit are reported, and what is reported of each. A function is reported from
the entry that defines it: a declaration that a definition completes is left to the definition, and
a concrete instance to its abstract origin. One that fails does not keep the others from being
reported.
-/

namespace Prototyper

/-- The declaration that an entry completes, unless the entry is a concrete instance. -/
def Entry.completed? (e : Entry) : Option EntryId :=
  if e.hasAttr .abstractOrigin then none
  else (e.attr .specification).bind Value.target?

/-- Whether an entry stands for a function of its own: it has a name, or completes a declaration
and is no concrete instance. -/
def Entry.defines (e : Entry) : Bool :=
  e.hasAttr .name || (e.hasAttr .specification && !e.hasAttr .abstractOrigin)

namespace Store

/-- The declarations that functions of the store complete. -/
def completed (s : Store) : Std.HashSet EntryId :=
  Std.HashSet.ofList (s.subprograms.filterMap Entry.completed?)

/-- Whether an entry is reported, given the completed declarations and whether functions that are
only declared count. -/
def isSelected (completed : Std.HashSet EntryId) (declarations : Bool) (e : Entry) : Bool :=
  e.defines && !completed.contains e.id && (declarations || !e.flag .declaration)

/-- The entries of the reported functions, in input order. -/
def selected (s : Store) (declarations : Bool) : List Entry :=
  let completed := s.completed
  s.subprograms.filter (isSelected completed declarations)

/-- The name under which a failure is filed: that of the entry, else that of the entry it
completes. -/
def failureName (s : Store) (e : Entry) : Option String :=
  match e.name? with
  | some name => some name
  | none =>
    match (e.attr .specification).bind Value.target? with
    | none => none
    | some id => (s.get? id).bind Entry.name?

/-- What comes of a reported function. -/
def outcome (s : Store) (unit : String) (e : Entry) : Except Failure Prototype :=
  match s.signature e with
  | .ok sig => .ok ⟨unit, sig.name, sig.text, sig⟩
  | .error d => .error ⟨unit, e.id, s.failureName e, d⟩

end Store

/-- The failure of an outcome, if it is one. -/
def failure? : Except Failure Prototype → Option Failure
  | .ok _ => none
  | .error f => some f

namespace Report

/-- The report of a list of outcomes. -/
def ofOutcomes (outcomes : List (Except Failure Prototype)) : Report :=
  ⟨outcomes.filterMap Except.toOption, outcomes.filterMap failure?⟩

/-- The report of a store, under the label of its unit. -/
def ofStore (unit : String) (s : Store) (declarations : Bool) : Report :=
  ofOutcomes ((s.selected declarations).map (s.outcome unit))

end Report

/-- The report of several units, one after the other. -/
def Report.ofUnits (units : List CompilationUnit) (declarations : Bool) : Report :=
  units.foldr (fun u rest => ofStore u.label u.store declarations ++ rest) {}

end Prototyper
