import ScopeLint.CommandLine.Arguments

/-!
# Help texts and refusals of arguments
-/

namespace ScopeLint.Help

def version : String := "ase-lint 0.1.0"

def usage : String := "Usage: ase-lint [OPTIONS] [FILES]..."

def about : String := "ASE Script Linter"

def longAbout : String :=
  "A scope-aware style linter for ASE scripts: keyword casing, operator spacing, " ++
    "bracket matching and Hungarian notation."

def describe (long : Bool) : Flag → String
  | .parameter .config => "Configuration file path"
  | .parameter .format => "Output format"
  | .parameter .jobs => "Number of parallel jobs (0 = auto)"
  | .parameter .disable => "Disable specific rules (comma-separated)"
  | .parameter .maxLines => "Skip spacing checks on documents longer than this many lines"
  | .switch .verbose => "Enable verbose output"
  | .switch .noColor => "Disable colored output"
  | .switch .listRules => "List available rules and exit"
  | .switch .noSuggestions => "Hide suggested replacements"
  | .switch .noStats => "Hide the summary line"
  | .switch .timing => "Show per-rule timing statistics"
  | .switch .help =>
    if long then "Print help (see a summary with '-h')" else "Print help (see more with '--help')"
  | .switch .version => "Print version"

/-- The values that an option takes. -/
def possible : Flag → Option String
  | .parameter .format =>
    some ("[possible values: " ++ ", ".intercalate (OutputFormat.all.map (·.name)) ++ "]")
  | _ => none

def names (f : Flag) : String :=
  (match f.short? with
    | some letter => "  -" ++ String.ofList [letter] ++ ", "
    | none => "      ") ++ f.text

def blanks (n : Nat) : String := String.ofList (List.replicate n ' ')

/-- The options, one to a line. -/
def shortOptions : List String :=
  let width := (Flag.all.map (fun f => (names f).length)).foldl max 0
  Flag.all.map (fun f =>
    names f ++ blanks (width + 2 - (names f).length) ++ describe false f ++
      (match possible f with
        | some values => " " ++ values
        | none => ""))

/-- The options, each with its description below it. -/
def longOptions : List String :=
  Flag.all.map (fun f =>
    names f ++ "\n" ++ blanks 10 ++ describe true f ++
      (match possible f with
        | some values => "\n" ++ blanks 10 ++ "\n" ++ blanks 10 ++ values
        | none => ""))

def text (long : Bool) : String :=
  if long then
    longAbout ++ "\n\n" ++ usage ++ "\n\nArguments:\n  [FILES]...\n" ++ blanks 10 ++
      "Files or glob patterns to lint\n\nOptions:\n" ++ "\n\n".intercalate longOptions ++ "\n"
  else
    about ++ "\n\n" ++ usage ++ "\n\nArguments:\n  [FILES]...  Files or glob patterns to lint" ++
      "\n\nOptions:\n" ++ "\n".intercalate shortOptions ++ "\n"

def reason : UsageError → String
  | .unknown argument => s!"unexpected argument '{argument}' found"
  | .missingValue s =>
    "a value is required for '" ++ (Flag.parameter s).text ++ "' but none was supplied"
  | .unexpectedValue s value =>
    s!"unexpected value '{value}' for '" ++ (Flag.switch s).text ++
      "' found; no more were expected"
  | .repeated f => "the argument '" ++ f.text ++ "' cannot be used multiple times"
  | .emptyValue s =>
    "a value is required for '" ++ (Flag.parameter s).text ++ "' but none was supplied"
  | .unknownFormat value =>
    s!"invalid value '{value}' for '" ++ (Flag.parameter .format).text ++ "'\n  " ++
      (possible (.parameter .format)).getD ""
  | .notANumber s value =>
    s!"invalid value '{value}' for '" ++ (Flag.parameter s).text ++
      "': invalid digit found in string"

def refusal (e : UsageError) : String :=
  "error: " ++ reason e ++ "\n\n" ++ usage ++ "\n\nFor more information, try '--help'.\n"

end ScopeLint.Help
