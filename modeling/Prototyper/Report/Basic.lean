import Prototyper.Defect
import Prototyper.Signature.Prototype

/-!
# Reports

What comes of the functions of one or more units: a prototype for each one that could be
reconstructed, and a failure for each one that could not.
-/

namespace Prototyper

/-- A reconstructed function with its declaration. -/
structure Prototype where
  /-- The label of the unit that the function comes from. -/
  unit : String
  name : String
  declaration : String
  signature : Signature
  deriving DecidableEq, Inhabited, Repr

/-- A function whose signature could not be reconstructed. -/
structure Failure where
  unit : String
  entry : EntryId
  name : Option String
  defect : Defect
  deriving DecidableEq, Inhabited, Repr

/-- The line that tells of a failure. -/
def Failure.text (f : Failure) : String :=
  let subject := match f.name with
    | some name => s!"{f.unit}: {name}: "
    | none => s!"{f.unit}: "
  s!"{subject}{f.defect.message} ({f.defect.category.text})"

/-- The functions of one or more units, in order. -/
structure Report where
  prototypes : List Prototype := []
  failures : List Failure := []
  deriving DecidableEq, Inhabited, Repr

namespace Report

/-- The number of prototypes. -/
def size (r : Report) : Nat :=
  r.prototypes.length

/-- Whether there is no prototype. -/
def isEmpty (r : Report) : Bool :=
  r.prototypes.isEmpty

/-- The first prototype of a function with this name. -/
def find? (r : Report) (name : String) : Option Prototype :=
  r.prototypes.find? fun p => p.name == name

/-- One report after another. -/
def append (r r' : Report) : Report :=
  ⟨r.prototypes ++ r'.prototypes, r.failures ++ r'.failures⟩

instance : Append Report :=
  ⟨append⟩

/-- The declarations, one on a line. -/
def text (r : Report) : String :=
  if r.isEmpty then "No prototypes"
  else "\n".intercalate (r.prototypes.map Prototype.declaration)

end Report

end Prototyper
