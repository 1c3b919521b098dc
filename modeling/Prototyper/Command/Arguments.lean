/-!
# Command line arguments

What a command line asks for. Options have long names, and some a letter; an option with a value
takes it from the rest of its own argument or from the next one. Arguments are read from the left,
and the first mistake ends the reading.
-/

namespace Prototyper.Command

/-- An option of the command line. -/
inductive Flag where
  | object
  | settings
  | json
  | noDeclarations
  | logFile
  | help
  | version
  deriving DecidableEq, Inhabited, Repr

namespace Flag

/-- All options. -/
def all : List Flag :=
  [object, settings, json, noDeclarations, logFile, help, version]

/-- The long name of an option. -/
def name : Flag → String
  | object => "elf"
  | settings => "config"
  | json => "json"
  | noDeclarations => "no-declarations"
  | logFile => "log-file"
  | help => "help"
  | version => "version"

/-- The letter of an option. -/
def letter? : Flag → Option Char
  | object => some 'e'
  | help => some 'h'
  | version => some 'V'
  | settings | json | noDeclarations | logFile => none

/-- Whether an option has a value. -/
def takesValue : Flag → Bool
  | object | settings | logFile => true
  | json | noDeclarations | help | version => false

/-- The option with a long name. -/
def ofName? (name : List Char) : Option Flag :=
  all.find? fun f => f.name.toList == name

/-- The option with a letter. -/
def ofLetter? (letter : Char) : Option Flag :=
  all.find? fun f => f.letter? == some letter

end Flag

/-- Why a command line asks for nothing. -/
inductive UsageError where
  | unexpected (argument : String)
  | repeated (flag : Flag)
  | missingValue (flag : Flag)
  | unwantedValue (flag : Flag)
  | missingObject
  deriving DecidableEq, Inhabited, Repr

/-- The message of a mistake in a command line. -/
def UsageError.message : UsageError → String
  | unexpected argument => s!"unexpected argument '{argument}' found"
  | repeated flag => s!"the argument '--{flag.name}' cannot be used multiple times"
  | missingValue flag => s!"a value is required for '--{flag.name}' but none was supplied"
  | unwantedValue flag => s!"unexpected value for '--{flag.name}' found; no more were expected"
  | missingObject => "the following required arguments were not provided: --elf"

/-- A run as a command line asks for it. -/
structure Arguments where
  /-- The path of the object file. -/
  object : String
  /-- The path of the settings. -/
  settings : Option String := none
  /-- Whether the report is a JSON document, whatever the settings say. -/
  json : Bool := false
  /-- Whether functions that are only declared are left out, whatever the settings say. -/
  noDeclarations : Bool := false
  /-- The path of the log file, whatever the settings say. -/
  logFile : Option String := none
  deriving DecidableEq, Inhabited, Repr

/-- What a command line asks for. -/
inductive Request where
  | run (arguments : Arguments)
  | help
  | version
  deriving DecidableEq, Inhabited, Repr

/-- The options that have been read, the last one first, with their values. -/
abbrev Given : Type :=
  List (Flag × String)

/-- The options that have been read after one more. An option may be given once, and its value may
not be empty. -/
def Given.add (given : Given) (flag : Flag) (value : String) : Except UsageError Given :=
  if (given.lookup flag).isSome then .error (.repeated flag)
  else if flag.takesValue && value.isEmpty then .error (.missingValue flag)
  else .ok ((flag, value) :: given)

/-- What the options that have been read ask for. -/
def Given.request (given : Given) : Except UsageError Request :=
  match given.lookup .object with
  | none => .error .missingObject
  | some object => .ok (.run {
      object
      settings := given.lookup .settings
      json := (given.lookup .json).isSome
      noDeclarations := (given.lookup .noDeclarations).isSome
      logFile := given.lookup .logFile })

/-- An argument as it is spelled. -/
inductive Word where
  /-- A long name, with the value after an equals sign if there is one. -/
  | long (name : List Char) (value : Option String)
  /-- Letters, the last of which may be followed by a value. -/
  | letters (letters : List Char)
  /-- Two dashes, after which no options come. -/
  | dashes
  /-- Anything else; also a single dash. -/
  | value (text : String)

/-- The spelling of an argument. -/
def Word.ofArgument (argument : String) : Word :=
  match argument.toList with
  | ['-', '-'] => .dashes
  | '-' :: '-' :: rest =>
    let name := rest.takeWhile (· != '=')
    match rest.drop name.length with
    | _ :: text => .long name (some (String.ofList text))
    | [] => .long name none
  | '-' :: c :: rest => .letters (c :: rest)
  | _ => .value argument

/-- The value at the end of letters, which an equals sign may set off. -/
def attachedValue? : List Char → Option String
  | [] => none
  | '=' :: value => some (String.ofList value)
  | value => some (String.ofList value)

/-- What comes of letters: options that have been read, an option whose value is in the next
argument, or a request that is met at once. -/
inductive Letters where
  | given (given : Given)
  | pending (given : Given) (flag : Flag)
  | request (request : Request)

/-- Reads letters. -/
def readLetters (argument : String) (given : Given) : List Char → Except UsageError Letters
  | [] => .ok (.given given)
  | c :: rest =>
    match Flag.ofLetter? c with
    | none => .error (.unexpected argument)
    | some .help => .ok (.request .help)
    | some .version => .ok (.request .version)
    | some flag =>
      if flag.takesValue then
        match attachedValue? rest with
        | some value => (given.add flag value).map .given
        | none => .ok (.pending given flag)
      else do readLetters argument (← given.add flag "") rest

/-- Reads the arguments that follow. An option that waits for its value gets the next argument,
unless that looks like an option itself. -/
def read (given : Given) (pending : Option Flag) : List String → Except UsageError Request
  | [] =>
    match pending with
    | some flag => .error (.missingValue flag)
    | none => given.request
  | argument :: rest =>
    match pending, Word.ofArgument argument with
    | some flag, .value text => do read (← given.add flag text) none rest
    | some flag, _ => .error (.missingValue flag)
    | none, .value _ => .error (.unexpected argument)
    | none, .dashes =>
      match rest with
      | [] => given.request
      | next :: _ => .error (.unexpected next)
    | none, .letters letters => do
      match ← readLetters argument given letters with
      | .given given => read given none rest
      | .pending given flag => read given (some flag) rest
      | .request request => return request
    | none, .long name value =>
      match Flag.ofName? name with
      | none => .error (.unexpected argument)
      | some flag =>
        if flag.takesValue then
          match value with
          | some value => do read (← given.add flag value) none rest
          | none => read given (some flag) rest
        else if value.isSome then .error (.unwantedValue flag)
        else if flag = .help then .ok .help
        else if flag = .version then .ok .version
        else do read (← given.add flag "") none rest

/-- What a command line asks for. -/
def Request.ofArguments (arguments : List String) : Except UsageError Request :=
  read [] none arguments

end Prototyper.Command
