import Prototyper.Command.Arguments
import Prototyper.Decoding
import Prototyper.Log.File
import Prototyper.Report.Json
import Prototyper.Settings.Storage

/-!
# Runs

What a command line does: read the settings, let the arguments override them, prepare the log, read
the object file, and print the report. The first fault ends the run.
-/

namespace Prototyper.Command

/-- What a run leaves behind, besides files. -/
structure Outcome where
  /-- The exit status. -/
  status : UInt8 := 0
  /-- The text on the standard output. -/
  output : String := ""
  /-- The text on the standard error output. -/
  errors : String := ""
  deriving DecidableEq, Inhabited, Repr

/-- Why a run fails. -/
inductive RunFault where
  /-- The settings cannot be had. -/
  | settings (fault : Fault)
  | log (fault : Log.FileFault)
  | object (fault : Fault)
  deriving DecidableEq, Inhabited, Repr

/-- A text whose lines after the first one are indented. -/
def hang (indent : Nat) (text : String) : String :=
  String.ofList (text.toList.flatMap fun c =>
    if c = '\n' then '\n' :: List.replicate indent ' ' else [c])

/-- The cause with a number. -/
def numbered (cause : String) (number : Nat) : String :=
  let label := String.ofList ((Text.decimal number).leftpad 5 ' ')
  s!"{label}: {hang 7 cause}\n"

/-- The causes of a failure. Several causes are numbered. -/
def causesText : List String → String
  | [] => ""
  | [cause] => s!"\nCaused by:\n    {hang 4 cause}\n"
  | causes => "\nCaused by:\n" ++ String.join (causes.mapIdx fun i cause => numbered cause i)

/-- The text that tells of a failure and of its causes. -/
def errorText (message : String) (causes : List String) : String :=
  s!"Error: {message}\n{causesText causes}"

/-- The outcome of a run that fails. -/
def RunFault.outcome : RunFault → Outcome
  | settings fault =>
    ⟨1, "", errorText "Failed to load configuration" (fault.message :: fault.causes)⟩
  | log (.noName path) =>
    let fault : Fault := .settings (Log.FileFault.noName path).message
    ⟨1, "", errorText fault.message fault.causes⟩
  | log fault => ⟨101, "", fault.message ++ "\n"⟩
  | object fault => ⟨1, "", errorText fault.message fault.causes⟩

/-- The settings with what the arguments override. -/
def Arguments.override (a : Arguments) (s : Settings) : Settings where
  includeDeclarations := s.includeDeclarations && !a.noDeclarations
  output := if a.json then .json else s.output
  log :=
    match a.logFile with
    | some path => s.log.withFile path
    | none => s.log

/-- The outcome of a run that succeeds. -/
def reportOutcome (format : OutputFormat) (r : Report) : Outcome where
  output :=
    match format with
    | .json => r.jsonText ++ "\n"
    | .text => if r.isEmpty then r.text ++ "\n" else s!"Found prototypes:\n{r.text}\n"
  errors := String.join (r.failures.map fun f => f.text ++ "\n")

/-- The lines that explain the arguments. -/
def usageLines : List String := [
  "Extract C function prototypes from DWARF debug info",
  "",
  "Usage: dwarf-prototypes [OPTIONS] --elf <ELF>",
  "",
  "Options:",
  "  -e, --elf <ELF>            Select elf file",
  "      --config <CONFIG>      Config file (defaults to the platform config directory)",
  "      --json                 Print the report as JSON",
  "      --no-declarations      Skip subprograms that are only declared",
  "      --log-file <LOG_FILE>  Also write logs to this file",
  "  -h, --help                 Print help",
  "  -V, --version              Print version"]

/-- The text that explains the arguments. -/
def usage : String :=
  String.join (usageLines.map fun line => line ++ "\n")

/-- The text that tells the version. -/
def versionText : String :=
  "dwarf-prototypes 0.1.0\n"

variable {m : Type → Type} [Monad m] [Files m]

/-- Extracts the report of an object file as the arguments and the settings ask for it. -/
def report (settingsDirectory : Option String) (a : Arguments) : ExceptT RunFault m Outcome := do
  let found ← ExceptT.adapt .settings
    (Settings.resolve settingsDirectory a.settings : ExceptT Fault m Settings)
  let settings := a.override found
  ExceptT.adapt .log (Log.prepareFile settings.log : ExceptT Log.FileFault m Unit)
  let r ← ExceptT.adapt .object
    (Report.ofFile a.object settings.includeDeclarations : ExceptT Fault m Report)
  return reportOutcome settings.output r

/-- Does what a command line asks for. -/
def run (settingsDirectory : Option String) (arguments : List String) : m Outcome := do
  match Request.ofArguments arguments with
  | .error e => return ⟨2, "", s!"error: {e.message}\n\n{usage}"⟩
  | .ok .help => return { output := usage }
  | .ok .version => return { output := versionText }
  | .ok (.run a) =>
    match ← (report settingsDirectory a : ExceptT RunFault m Outcome).run with
    | .ok outcome => return outcome
    | .error fault => return fault.outcome

end Prototyper.Command
