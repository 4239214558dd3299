import ScopeLint.Settings
import ScopeLint.Text.Split

/-!
# Command-line arguments

Options may stand anywhere among the files, in long form or as clusters of single letters, until
`--` ends them.  A value follows its option, or is attached to it.  No option but `--disable` may
be given twice.
-/

namespace ScopeLint

/-- The options without a value. -/
inductive Switch where
  | verbose
  | noColor
  | listRules
  | noSuggestions
  | noStats
  | timing
  | help
  | version
  deriving Repr, DecidableEq

/-- The options with a value. -/
inductive Parameter where
  | config
  | format
  | jobs
  | disable
  | maxLines
  deriving Repr, DecidableEq

inductive Flag where
  | switch (s : Switch)
  | parameter (p : Parameter)
  deriving Repr, DecidableEq

namespace Flag

/-- All options, in the order of the help text. -/
def all : List Flag :=
  [.parameter .config, .parameter .format, .switch .verbose, .switch .noColor, .parameter .jobs,
    .parameter .disable, .parameter .maxLines, .switch .listRules, .switch .noSuggestions,
    .switch .noStats, .switch .timing, .switch .help, .switch .version]

/-- The name after two dashes. -/
def long : Flag → String
  | .parameter .config => "config"
  | .parameter .format => "format"
  | .parameter .jobs => "jobs"
  | .parameter .disable => "disable"
  | .parameter .maxLines => "max-lines"
  | .switch .verbose => "verbose"
  | .switch .noColor => "no-color"
  | .switch .listRules => "list-rules"
  | .switch .noSuggestions => "no-suggestions"
  | .switch .noStats => "no-stats"
  | .switch .timing => "timing"
  | .switch .help => "help"
  | .switch .version => "version"

/-- The letter after one dash. -/
def short? : Flag → Option Char
  | .parameter .config => some 'c'
  | .parameter .format => some 'f'
  | .parameter .jobs => some 'j'
  | .switch .verbose => some 'v'
  | .switch .help => some 'h'
  | .switch .version => some 'V'
  | _ => none

def placeholder : Flag → String
  | .parameter .config => " <CONFIG>"
  | .parameter .format => " <FORMAT>"
  | .parameter .jobs => " <JOBS>"
  | .parameter .disable => " <DISABLE>"
  | .parameter .maxLines => " <MAX_LINES>"
  | .switch _ => ""

/-- The option as it is named in messages. -/
def text (f : Flag) : String := "--" ++ f.long ++ f.placeholder

def ofLong? (name : String) : Option Flag := all.find? (fun f => f.long == name)

def ofShort? (letter : Char) : Option Flag := all.find? (fun f => f.short? == some letter)

end Flag

/-- Why arguments are refused. -/
inductive UsageError where
  | unknown (argument : String)
  | missingValue (s : Parameter)
  | unexpectedValue (s : Switch) (value : String)
  | repeated (f : Flag)
  | emptyValue (s : Parameter)
  | unknownFormat (value : String)
  | notANumber (s : Parameter) (value : String)
  deriving Repr, DecidableEq

/-- What the arguments ask for. -/
structure Arguments where
  files : List String := []
  config : Option String := none
  format : Option OutputFormat := none
  jobs : Option Nat := none
  disable : Option (List String) := none
  maxLines : Option Nat := none
  switches : List Switch := []
  deriving Repr, DecidableEq

inductive Request where
  | run (a : Arguments)
  | help (long : Bool)
  | version
  deriving Repr, DecidableEq

namespace Arguments

def has (a : Arguments) (s : Switch) : Bool := a.switches.contains s

/-- The number of a run of digits after an optional plus sign, below 2^64. -/
def number? (value : String) : Option Nat :=
  let digits := match value.toList with
    | '+' :: rest => rest
    | cs => cs
  if digits.isEmpty || !digits.all Char.isDigit then none
  else
    let n := digits.foldl (fun acc c => acc * 10 + (c.toNat - 48)) 0
    if n < 18446744073709551616 then some n else none

def numberFor (s : Parameter) (value : String) : Except UsageError Nat :=
  match number? value with
  | some n => .ok n
  | none => .error (.notANumber s value)

def withValue (a : Arguments) (s : Parameter) (value : String) : Except UsageError Arguments := do
  let once {α : Type} (field : Option α) : Except UsageError Unit :=
    if field.isSome then .error (.repeated (.parameter s)) else .ok ()
  match s with
  | .config =>
    once a.config
    if value = "" then throw (.emptyValue s)
    return { a with config := some value }
  | .format =>
    once a.format
    match OutputFormat.named? value with
    | some format => return { a with format := some format }
    | none => throw (.unknownFormat value)
  | .jobs =>
    once a.jobs
    return { a with jobs := some (← numberFor s value) }
  | .maxLines =>
    once a.maxLines
    return { a with maxLines := some (← numberFor s value) }
  | .disable =>
    let ids := (Text.splitAt ',' value.toList).map String.ofList
    return { a with disable := some (a.disable.getD [] ++ ids) }

/-- What became of one argument. -/
inductive Step where
  /-- Go on with the next one. -/
  | next (a : Arguments)
  /-- The next argument is the value of an option. -/
  | await (a : Arguments) (s : Parameter)
  /-- Nothing after this one counts. -/
  | stop (r : Request)

def withSwitch (a : Arguments) (s : Switch) (long : Bool) : Except UsageError Step :=
  match s with
  | .help => .ok (.stop (.help long))
  | .version => .ok (.stop .version)
  | s =>
    if a.has s then .error (.repeated (.switch s))
    else .ok (.next { a with switches := a.switches ++ [s] })

/-- Take a cluster of letters after one dash. -/
def cluster (argument : String) (a : Arguments) : List Char → Except UsageError Step
  | [] => .ok (.next a)
  | letter :: rest =>
    match Flag.ofShort? letter with
    | none => .error (.unknown argument)
    | some (.switch s) => do
      match ← a.withSwitch s false with
      | .next b => cluster argument b rest
      | other => return other
    | some (.parameter s) =>
      match rest with
      | [] => .ok (.await a s)
      | '=' :: value => do return .next (← a.withValue s (String.ofList value))
      | value => do return .next (← a.withValue s (String.ofList value))

def longOption (argument : String) (a : Arguments) (body : List Char) :
    Except UsageError Step :=
  let name := String.ofList (body.takeWhile (· != '='))
  let value? := (body.dropWhile (· != '=')).tail?.map String.ofList
  match Flag.ofLong? name, value? with
  | none, _ => .error (.unknown argument)
  | some (.switch s), some value => .error (.unexpectedValue s value)
  | some (.switch s), none => a.withSwitch s true
  | some (.parameter s), some value => do return .next (← a.withValue s value)
  | some (.parameter s), none => .ok (.await a s)

def step (a : Arguments) (argument : String) : Except UsageError Step :=
  match argument.toList with
  | '-' :: '-' :: body => longOption argument a body
  | '-' :: letter :: rest => cluster argument a (letter :: rest)
  | _ => .ok (.next { a with files := a.files ++ [argument] })

/-- Does the argument look like an option?  A single dash does not. -/
def isOption (argument : String) : Bool :=
  match argument.toList with
  | '-' :: _ :: _ => true
  | _ => false

/-- Take arguments in order; `pending` is the option that waits for its value. -/
def parseFrom (a : Arguments) : (pending : Option Parameter) → List String →
    Except UsageError Request
  | none, [] => .ok (.run a)
  | some s, [] => .error (.missingValue s)
  | some s, argument :: rest =>
    if isOption argument then .error (.missingValue s)
    else do parseFrom (← a.withValue s argument) none rest
  | none, argument :: rest =>
    if argument = "--" then .ok (.run { a with files := a.files ++ rest })
    else do
      match ← a.step argument with
      | .next b => parseFrom b none rest
      | .await b s => parseFrom b (some s) rest
      | .stop request => return request

def parse (arguments : List String) : Except UsageError Request := parseFrom {} none arguments

/-- What the arguments say in place of the settings. -/
def overrides (a : Arguments) : Overrides where
  format := a.format
  verbose := if a.has .verbose then some true else none
  jobs := a.jobs
  disabled := a.disable
  maxLines := a.maxLines

end Arguments

end ScopeLint
