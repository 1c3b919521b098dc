import Prototyper.Settings.Basic
import Prototyper.Toml.Document
import Prototyper.Toml.Quotation

/-!
# Settings as TOML

Settings are kept as a TOML document. What a document leaves out has its default, keys without a
meaning are passed over, and every value must have the type of its key.
-/

namespace Prototyper

/-- Why a document gives no settings. -/
inductive SettingsError where
  /-- The text is no TOML document. -/
  | document (error : Toml.Error)
  /-- The value under a key is none that the key can have. -/
  | invalidValue (key : String)
  deriving DecidableEq, Inhabited, Repr

/-- The message of an error in a text. -/
def SettingsError.message (text : List Char) : SettingsError → String
  | document error => error.message text
  | invalidValue key => s!"TOML parse error: invalid value for {key}"

/-- Whether an item is a list or a table that holds nothing. -/
def Toml.Item.isVoid : Toml.Item → Bool
  | .array [] | .inline [] | .table _ [] => true
  | _ => false

/-- The format that an item names. In place of its name, a table may stand that holds the name with
nothing under it. -/
def OutputFormat.ofItem? : Toml.Item → Option OutputFormat
  | .string s => ofLabel? s
  | .inline [(key, item)] | .table _ [(key, item)] => if item.isVoid then ofLabel? key else none
  | _ => none

/-- The text under a key, which may be missing. -/
def textAt? (entries : Toml.Entries) (key : String) : Option (Option String) :=
  match entries.lookup key with
  | none => some none
  | some (.string s) => some (some s)
  | some _ => none

namespace LogSettings

/-- The log settings of a table. -/
def ofEntries? (entries : Toml.Entries) : Option LogSettings := do
  return { filter := ← textAt? entries "filter", file := ← textAt? entries "file" }

/-- The log settings of an item: a table, or a list of their values in order. A moment counts as a
table without a key that has a meaning. -/
def ofItem? : Toml.Item → Option LogSettings
  | .table _ entries | .inline entries => ofEntries? entries
  | .moment | .array [] => some {}
  | .array [.string filter] => some { filter := some filter }
  | .array (.string filter :: .string file :: _) => some ⟨some filter, some file⟩
  | _ => none

end LogSettings

namespace Settings

/-- The value under a key, read by a function, or the default if the key is missing. -/
def valueAt {α : Type} (entries : Toml.Entries) (key : String) (read : Toml.Item → Option α)
    (default : α) : Except SettingsError α :=
  match entries.lookup key with
  | none => .ok default
  | some item =>
    match read item with
    | some value => .ok value
    | none => .error (.invalidValue key)

/-- The truth value that an item is. -/
def boolean? : Toml.Item → Option Bool
  | .boolean b => some b
  | _ => none

/-- The settings in the entries of a document. -/
def ofEntries (entries : Toml.Entries) : Except SettingsError Settings := do
  return {
    includeDeclarations := ← valueAt entries "include_declarations" boolean? true
    output := ← valueAt entries "output" OutputFormat.ofItem? .text
    log := ← valueAt entries "log" LogSettings.ofItem? {} }

/-- The settings that a text holds. -/
def ofText (text : List Char) : Except SettingsError Settings :=
  match Toml.parse text with
  | .error e => .error (.document e)
  | .ok entries => ofEntries entries

/-- The line that gives a key its value. -/
def line (key : String) (value : List Char) : List Char :=
  key.toList ++ [' ', '=', ' '] ++ value ++ ['\n']

/-- The line that gives a key a text, if there is one. -/
def textLine (key : String) : Option String → List Char
  | none => []
  | some s => line key (Toml.quote s.toList)

/-- The text that holds the settings. -/
def text (s : Settings) : List Char :=
  line "include_declarations" (if s.includeDeclarations then "true" else "false").toList ++
    line "output" (Toml.quote s.output.label.toList) ++
    "\n[log]\n".toList ++
    textLine "filter" s.log.filter ++
    textLine "file" s.log.file

end Settings

end Prototyper
