/-!
# Settings

What a user can choose: which functions are reported, in which format, and what is logged where.
-/

namespace Prototyper

/-- The format of a report. -/
inductive OutputFormat where
  /-- One declaration on a line. -/
  | text
  /-- The whole report as a JSON document. -/
  | json
  deriving DecidableEq, Inhabited, Repr

namespace OutputFormat

/-- The name of a format. -/
def label : OutputFormat → String
  | text => "text"
  | json => "json"

/-- The format with a name. -/
def ofLabel? (s : String) : Option OutputFormat :=
  if s = text.label then some text
  else if s = json.label then some json
  else none

/-- A format is found by its name, and by no other. -/
theorem ofLabel?_eq_some_iff {s : String} {f : OutputFormat} :
    ofLabel? s = some f ↔ s = f.label := by
  cases f <;> simp only [ofLabel?, label] <;> grind

end OutputFormat

/-- What is logged, and where to. -/
structure LogSettings where
  /-- Which events are logged. -/
  filter : Option String := none
  /-- The path of a file that keeps the log. -/
  file : Option String := none
  deriving DecidableEq, Inhabited, Repr

/-- The choices of a user. -/
structure Settings where
  /-- Whether functions that are only declared are reported. -/
  includeDeclarations : Bool := true
  output : OutputFormat := .text
  log : LogSettings := {}
  deriving DecidableEq, Inhabited, Repr

/-- The settings with a log file. -/
def LogSettings.withFile (s : LogSettings) (path : String) : LogSettings :=
  { s with file := some path }

end Prototyper
