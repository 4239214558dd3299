import ScopeLint.Duration
import ScopeLint.Output.Color
import ScopeLint.Summary

/-!
# Output for readers

One line for each diagnostic, below the name of its file, and a summary at the end.
-/

namespace ScopeLint

structure TextStyle where
  colored : Bool
  /-- Whether colour codes are let through. -/
  escapes : Bool := true
  showFixes : Bool := true
  showStats : Bool := true
  deriving Repr, DecidableEq

namespace TextStyle

def paints (style : TextStyle) : Bool := style.colored && style.escapes

def severityLook : Severity → Look
  | .error => .boldRed
  | .warning => .boldYellow
  | .info => .blue

/-- The file with row and column, counted from one. -/
def location (path : String) (d : Diagnostic) : String :=
  s!"{path}:{d.span.start.row + 1}:{d.span.start.column + 1}"

/-- One diagnostic, with its suggestion on a second line. -/
def diagnostic (style : TextStyle) (path : String) (d : Diagnostic) : String :=
  let on := style.paints
  let line := location path d ++ ": " ++ (severityLook d.severity).paintIf on d.severity.text ++
    "[" ++ Look.cyan.paintIf on d.rule ++ "]: " ++ d.message ++ "\n"
  match style.showFixes, d.suggestion with
  | true, some suggestion =>
    line ++ "   = " ++ Look.boldGreen.paintIf on "help" ++ ": replace with `" ++ suggestion ++ "`\n"
  | _, _ => line

/-- The diagnostics of one file, below its name; nothing without diagnostics. -/
def file (style : TextStyle) (f : FileReport) : String :=
  if f.diagnostics.isEmpty then ""
  else Look.underline.paintIf style.paints f.path ++ "\n" ++
    String.join (f.diagnostics.map (style.diagnostic f.path)) ++ "\n"

/-- A number with its noun. -/
def counted (n : Nat) (singular plural : String) : String :=
  s!"{n} " ++ (if n = 1 then singular else plural)

/-- The counts by severity that are not zero. -/
def counts (style : TextStyle) (s : Summary) : List String :=
  let on := style.paints
  (if 0 < s.errorCount then
    [Look.red.paintIf on (counted s.errorCount "error" "errors")] else []) ++
  (if 0 < s.warningCount then
    [Look.yellow.paintIf on (counted s.warningCount "warning" "warnings")] else []) ++
  (if 0 < s.infoCount then
    [Look.blue.paintIf on (counted s.infoCount "info" "infos")] else [])

/-- The closing lines. -/
def statistics (style : TextStyle) (s : Summary) : String :=
  let counts := style.counts s
  counted s.filesProcessed "file" "files" ++ " processed" ++
    (if counts.isEmpty then "" else ": " ++ ", ".intercalate counts) ++ "\n" ++
    "Finished in " ++ (Duration.seconds s.duration).twoPlaces ++ "s\n"

def format (style : TextStyle) (s : Summary) : String :=
  String.join (s.files.map style.file) ++ (if style.showStats then style.statistics s else "")

end TextStyle

end ScopeLint
