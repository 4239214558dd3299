import ScopeLint.CommandLine.Help
import ScopeLint.Files.Expansion
import ScopeLint.Output.Formatter
import ScopeLint.Output.Timings
import ScopeLint.Settings.Load

/-!
# A run of the program

What the program does with its arguments, on any host: it loads settings, expands the file
patterns, lints the files and prints the result.  A run that cannot start says why and ends with
1, and with 2 where the arguments themselves are at fault.
-/

namespace ScopeLint

structure Host (m : Type → Type) extends FileSystem m where
  /-- Does the output show colours unless told otherwise? -/
  colored : Bool
  /-- The time in nanoseconds. -/
  now : m Nat
  /-- Compute a value here and now. -/
  compute : {α : Type} → (Unit → α) → m α

/-- What a run puts out. -/
inductive Emission where
  | out (text : String)
  | err (text : String)
  /-- A line of the log. -/
  | warning (text : String)
  /-- The table of timings. -/
  | timings (s : Summary)
  deriving Repr, DecidableEq

structure Result where
  exitCode : Nat
  emitted : List Emission
  deriving Repr, DecidableEq

/-- Why a run cannot start. -/
inductive StartError where
  /-- The settings, from the given file or those that were found. -/
  | settings (path : Option String) (e : SettingsError)
  | unknownRule (id : String)
  | table (e : LintError)
  | malformedPattern
  | nothingToLint
  deriving Repr, DecidableEq

/-- The wording of a start error.  The message of the file system is told twice, as the error
and as its cause. -/
def StartError.message : StartError → String
  | .settings path e =>
    "Failed to load config" ++
      (match path with
        | some path => " " ++ path
        | none => "") ++
      ": " ++ e.message ++
      (match e with
        | .unreadable cause => ": " ++ cause.message
        | _ => "")
  | .unknownRule id => Family.unknown id
  | .table e => "Invalid rule table: " ++ e.message
  | .malformedPattern => "Invalid file pattern: Pattern syntax error"
  | .nothingToLint => "No files found to lint"

namespace Result

def errorWord (colored : Bool) : String := Look.boldRed.paintIf colored "error"

/-- The result of a run that cannot start. -/
def failed (colored : Bool) (e : StartError) (warnings : List String) : Result where
  exitCode := 1
  emitted := warnings.map .warning ++ [.err (errorWord colored ++ ": " ++ e.message ++ "\n")]

def ruleList (colored : Bool) : Result where
  exitCode := 0
  emitted := [.out (Look.bold.paintIf colored "Available rules:" ++ "\n\n" ++
    String.join (Family.all.map (fun f =>
      "  " ++ Look.cyan.paintIf colored f.id ++ " [" ++ f.defaultSeverity.text ++ "]: " ++
        f.description ++ "\n")))]

def noFiles (colored : Bool) : Result where
  exitCode := 2
  emitted := [.err (errorWord colored ++ ": No files specified\n\n" ++
    "Usage: ase-lint [OPTIONS] <FILES>...\n\nFor more information, try '--help'\n")]

end Result

namespace Host

variable {m : Type → Type} [Monad m] (h : Host m)

/-- Run a family and take its time. -/
def timedOutcome (l : Linter) (d : Document) (classifier : Classifier) (f : Family) :
    ExceptT LintError m ((Family × Outcome) × Nat) := do
  let start ← h.now
  let outcome ← ExceptT.mk (h.compute (fun _ => l.outcome d classifier f))
  let stop ← h.now
  return ((f, outcome), stop - start)

/-- Lint a text as `Linter.lintText` does, with the times that the families take. -/
def lintText (l : Linter) (text : String) : ExceptT LintError m Report := do
  let d := Document.ofString text
  let classifier ← (h.compute (fun _ => l.lexical d) : m Classifier)
  let timed ← l.families.mapM (h.timedOutcome l d classifier)
  let report := Linter.reportOf (timed.map Prod.fst)
  let timeOf (t : Timing) : Nat :=
    ((timed.find? (fun entry => entry.1.1.id == t.rule)).map Prod.snd).getD 0
  return { report with timings := report.timings.map (fun t => { t with total := timeOf t }) }

/-- Lint a file, with a warning where it cannot be read. -/
def lintFile (l : Linter) (path : String) : m (Summary × List String) := do
  match ← h.read path with
  | .ok text => return (Linter.settle path (← (h.lintText l text).run), [])
  | .error e => return (Linter.unreadable path e, [unreadableWarning path e])

def lintFiles (l : Linter) (paths : List String) : m (Summary × List String) := do
  let start ← h.now
  let (summary, warnings) ← paths.foldlM (fun (acc, warnings) path => do
    let (next, more) ← h.lintFile l path
    return (acc.merge next, warnings ++ more)) (({}, []) : Summary × List String)
  let stop ← h.now
  return ({ summary with duration := stop - start }, warnings)

/-- The settings for a run, from the given file or those that are found. -/
def settingsFor (a : Arguments) : m (Except StartError Settings) := do
  let loaded ← match a.config with
    | some path => Settings.load h.toFileSystem path
    | none => Settings.loadDefault h.toFileSystem
  match loaded with
  | .error e => return .error (.settings a.config e)
  | .ok s =>
    let s := s.merge a.overrides
    return .ok { s with output := { s.output with
      suggestions := s.output.suggestions && !a.has .noSuggestions
      statistics := s.output.statistics && !a.has .noStats } }

def coloredFor (a : Arguments) (mode : ColorMode) : Bool :=
  !a.has .noColor &&
    (match mode with
      | .never => false
      | .always => true
      | .auto => h.colored)

/-- Lint what the arguments name. -/
def lintArguments (a : Arguments) : m Result := do
  match ← h.settingsFor a with
  | .error e => return .failed h.colored e []
  | .ok settings =>
    match (a.disable.getD []).find? (fun id => (Family.parse? id).isNone) with
    | some id => return .failed h.colored (.unknownRule id) []
    | none =>
      let colored := h.coloredFor a settings.output.color
      match settings.linter with
      | .error e => return .failed colored (.table e) []
      | .ok linter =>
        let found ← Expansion.ofPatterns h.toFileSystem a.files
        if found.malformed.isSome then
          return .failed colored .malformedPattern found.warnings
        if found.files.isEmpty then return .failed colored .nothingToLint found.warnings
        let (summary, warnings) ← h.lintFiles linter found.files
        let greeting := if settings.output.verbose then
            [Emission.err (s!"Linting {found.files.length} files with rules: " ++
              ", ".intercalate (linter.families.map (·.id)) ++ "\n")]
          else []
        return {
          exitCode := summary.exitCode
          emitted := found.warnings.map .warning ++ greeting ++ warnings.map .warning ++
            [.out ((Formatter.ofSettings settings.output colored).format summary)] ++
            (if a.has .timing then [.err "\n", .timings summary] else []) }

def run (arguments : List String) : m Result := do
  match Arguments.parse arguments with
  | .error e => return { exitCode := 2, emitted := [.err (Help.refusal e)] }
  | .ok (.help long) => return { exitCode := 0, emitted := [.out (Help.text long)] }
  | .ok .version => return { exitCode := 0, emitted := [.out (Help.version ++ "\n")] }
  | .ok (.run a) =>
    if a.has .listRules then return .ruleList h.colored
    else if a.files.isEmpty then return .noFiles h.colored
    else h.lintArguments a

end Host

end ScopeLint
