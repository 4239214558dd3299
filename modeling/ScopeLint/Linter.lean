import ScopeLint.Classifier.Lexical
import ScopeLint.Report
import ScopeLint.Rule.Brackets
import ScopeLint.Rule.Casing
import ScopeLint.Rule.Naming
import ScopeLint.Rule.Spacing

/-!
# The linter

A linter is a compiled table with a choice of families and their severities.  A pass runs the
families in order, each on its own; families whose limit the document exceeds are skipped and
named in a notice in front of the diagnostics.
-/

namespace ScopeLint

def Family.findings (f : Family) (ctx : Context) (severity : Severity) :
    Except LintError Findings :=
  match f with
  | .casing => Casing.findings ctx severity
  | .spacing => Spacing.findings ctx severity
  | .brackets => Brackets.findings ctx severity
  | .naming => Naming.findings ctx severity

/-- A rule table with a choice of families. -/
structure Linter where
  table : RuleTable
  /-- The families that run, in the order of `Family.all`. -/
  families : List Family := Family.all
  /-- Severities other than the default; of two for one family the first counts. -/
  severities : List (Family × Severity) := []
  deriving Repr, DecidableEq

/-- What became of one family in a pass. -/
inductive Outcome where
  /-- The document is longer than the limit. -/
  | skipped (limit : Nat)
  | ran (findings : Findings)
  deriving Repr, DecidableEq

namespace Linter

/-- The id of the notice of skipped families. -/
def skippedRule : String := "disabled-rules"

def unreadableRule : String := "file-read-error"

def failedRule : String := "lint-error"

def withFamilies (l : Linter) (families : List Family) : Linter :=
  { l with families := Family.all.filter families.contains }

def withSeverity (l : Linter) (f : Family) (s : Severity) : Linter :=
  { l with severities := (f, s) :: l.severities }

def severityOf (l : Linter) (f : Family) : Severity :=
  match l.severities.find? (fun entry => entry.1 == f) with
  | some entry => entry.2
  | none => f.defaultSeverity

/-- The limit of a family, if the document exceeds it. -/
def exceeded? (l : Linter) (d : Document) (f : Family) : Option Nat :=
  match l.table.limits.maxLines f with
  | some limit => if limit < d.lineCount then some limit else none
  | none => none

def outcome (l : Linter) (d : Document) (classifier : Classifier) (f : Family) :
    Except LintError Outcome :=
  match l.exceeded? d f with
  | some limit => .ok (.skipped limit)
  | none => do return .ran (← f.findings ⟨d, classifier, l.table⟩ (l.severityOf f))

/-- The notice that names the skipped families. -/
def notice (disabled : List Family) : Diagnostic :=
  Diagnostic.ofMessage skippedRule .info
    ("Disabled for large documents: " ++ ", ".intercalate (disabled.map (·.id)))
    (Span.emptyAt Position.origin)

def skippedIn (outcomes : List (Family × Outcome)) : List Family :=
  outcomes.filterMap fun
    | (f, .skipped _) => some f
    | (_, .ran _) => none

/-- The families that ran, with their findings. -/
def ranIn (outcomes : List (Family × Outcome)) : List (Family × Findings) :=
  outcomes.filterMap fun
    | (_, .skipped _) => none
    | (f, .ran findings) => some (f, findings)

/-- The entry of a family that ran. -/
def timing (entry : Family × Findings) : Timing :=
  { rule := entry.1.id, runs := 1, examined := entry.2.examined,
    diagnostics := entry.2.diagnostics.length }

def reportOf (outcomes : List (Family × Outcome)) : Report :=
  let disabled := skippedIn outcomes
  let ran := ranIn outcomes
  { diagnostics := (if disabled.isEmpty then [] else [notice disabled]) ++
      ran.flatMap (fun entry => entry.2.diagnostics)
    disabled
    timings := ran.map timing }

def lint (l : Linter) (d : Document) (classifier : Classifier) : Except LintError Report := do
  return reportOf (← l.families.mapM (fun f => do return (f, ← l.outcome d classifier f)))

/-- The lexical classifier of a document with the table's keywords. -/
def lexical (l : Linter) (d : Document) : Classifier := Lexical.classifier l.table.keywordTexts d

def lintText (l : Linter) (text : String) : Except LintError Report :=
  let d := Document.ofString text
  l.lint d (l.lexical d)

/-- Lint several documents, each with its own classifier. -/
def lintBatch (l : Linter) (documents : List (Document × Classifier)) :
    List (Except LintError Report) :=
  documents.map (fun (d, classifier) => l.lint d classifier)

/-- A line of the log. -/
inductive LogLine where
  | skipped (f : Family) (lines limit : Nat)
  | ran (f : Family) (examined diagnostics : Nat)
  deriving Repr, DecidableEq

def LogLine.text : LogLine → String
  | .skipped f lines limit => s!"Skipping {f.id} rule: {lines} lines exceeds limit of {limit}"
  | .ran f examined diagnostics =>
    s!"{f.id} rule: {examined} matches, {diagnostics} diagnostics"

/-- The log of a pass, up to the family that fails. -/
def log (l : Linter) (d : Document) (classifier : Classifier) : List Family → List LogLine
  | [] => []
  | f :: rest =>
    match l.outcome d classifier f with
    | .ok (.skipped limit) => .skipped f d.lineCount limit :: log l d classifier rest
    | .ok (.ran findings) =>
      .ran f findings.examined findings.diagnostics.length :: log l d classifier rest
    | .error _ => []

end Linter

end ScopeLint
