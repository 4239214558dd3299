import Mathlib.Data.List.Basic
import ScopeLint.Linter

/-!
# What the classifier is asked

A family asks for the scopes at the start of a match and at the neighbours of an operator.  Any of
these places may be none of the document: a match can end behind the carriage return of a line end.
The document is asked first, and a place that it does not know is refused or counts as a blank.  So
what a classifier says of such places never shows, neither in a report nor in a refusal.
-/

namespace ScopeLint

/-- Two passes over one document with one table, in which every question has the same answer. -/
structure Context.Agrees (a b : Context) : Prop where
  document_eq : a.document = b.document
  table_eq : a.table = b.table
  pathAt_eq : ∀ p, a.pathAt p = b.pathAt p

/-- Classifiers that say the same of all places of the document give the same answers. -/
theorem Context.agrees_of_inside {d : Document} {a b : Classifier}
    (h : ∀ p, d.contains p = true → a.pathAt p = b.pathAt p) (t : RuleTable) :
    Context.Agrees ⟨d, a, t⟩ ⟨d, b, t⟩ where
  document_eq := rfl
  table_eq := rfl
  pathAt_eq p := by
    simp only [pathAt, Document.check]
    split
    case isTrue hp => rw [h p hp]
    case isFalse => rfl

/-! ## The families -/

namespace Context.Agrees

variable {a b : Context}

theorem isTypicalAt_eq (h : a.Agrees b) (p : Position) : a.isTypicalAt p = b.isTypicalAt p := by
  rw [isTypicalAt, isTypicalAt, h.pathAt_eq]

theorem report_eq (h : a.Agrees b) (f : Family) (severity : Severity) (message : String)
    (span : Span) : a.report f severity message span = b.report f severity message span := by
  rw [report, report, h.document_eq]

/-- A neighbour is looked up in the document before its scope is asked for. -/
theorem isSpaced_eq (h : a.Agrees b) (breakScope : String) (p : Position) :
    Spacing.isSpaced a breakScope p = Spacing.isSpaced b breakScope p := by
  rw [Spacing.isSpaced, Spacing.isSpaced, h.document_eq, h.pathAt_eq]

theorem isSpacedBefore_eq (h : a.Agrees b) (breakScope : String) (p : Position) :
    Spacing.isSpacedBefore a breakScope p = Spacing.isSpacedBefore b breakScope p := by
  rw [Spacing.isSpacedBefore, Spacing.isSpacedBefore]
  split
  · rfl
  · exact h.isSpaced_eq breakScope _

theorem casing_eq (h : a.Agrees b) (severity : Severity) :
    Casing.findings a severity = Casing.findings b severity := by
  have hjudge : ∀ keyword, Casing.judge a severity keyword = Casing.judge b severity keyword := by
    intro keyword
    funext m
    rw [Casing.judge, Casing.judge, h.isTypicalAt_eq, h.report_eq]
  have hkeyword : Casing.keywordFindings a severity = Casing.keywordFindings b severity := by
    funext keyword
    rw [Casing.keywordFindings, Casing.keywordFindings, hjudge, h.document_eq]
  rw [Casing.findings, Casing.findings, hkeyword, h.table_eq]

/-- An operator is judged by its own scope and by its neighbours in the document. -/
theorem spacing_eq (h : a.Agrees b) (severity : Severity) :
    Spacing.findings a severity = Spacing.findings b severity := by
  have hjudge : ∀ spacer, Spacing.judge a severity spacer = Spacing.judge b severity spacer := by
    intro spacer
    funext m
    rw [Spacing.judge, Spacing.judge, h.pathAt_eq, h.isSpacedBefore_eq, h.isSpaced_eq, h.report_eq]
  have hspacer : Spacing.spacerFindings a severity = Spacing.spacerFindings b severity := by
    funext spacer
    rw [Spacing.spacerFindings, Spacing.spacerFindings, hjudge, h.document_eq]
  rw [Spacing.findings, Spacing.findings, hspacer, h.table_eq]

theorem brackets_eq (h : a.Agrees b) (severity : Severity) :
    Brackets.findings a severity = Brackets.findings b severity := by
  have hbracket : Brackets.bracket? a = Brackets.bracket? b := by
    funext m
    rw [Brackets.bracket?, Brackets.bracket?, h.isTypicalAt_eq]
  have hreport : a.report = b.report := by
    funext f severity message span
    exact h.report_eq f severity message span
  have hpair : Brackets.pairFindings a severity = Brackets.pairFindings b severity := by
    funext pair
    rw [Brackets.pairFindings, Brackets.pairFindings, hbracket, hreport, h.document_eq, h.table_eq]
  rw [Brackets.findings, Brackets.findings, hpair, h.table_eq]

theorem naming_eq (h : a.Agrees b) (severity : Severity) :
    Naming.findings a severity = Naming.findings b severity := by
  have hjudge : Naming.judge a severity = Naming.judge b severity := by
    funext m
    rw [Naming.judge, Naming.judge, h.pathAt_eq, h.report_eq]
  rw [Naming.findings, Naming.findings, hjudge, h.document_eq, h.table_eq]

theorem findings_eq (h : a.Agrees b) (f : Family) (severity : Severity) :
    f.findings a severity = f.findings b severity := by
  cases f with
  | casing => exact h.casing_eq severity
  | spacing => exact h.spacing_eq severity
  | brackets => exact h.brackets_eq severity
  | naming => exact h.naming_eq severity

end Context.Agrees

/-! ## The pass -/

namespace Linter

variable {l : Linter} {d : Document} {a b : Classifier}

/-- Where the answers in the document are the same, each family comes to the same. -/
theorem outcome_congr (h : ∀ p, d.contains p = true → a.pathAt p = b.pathAt p) :
    l.outcome d a = l.outcome d b := by
  funext f
  rw [outcome, outcome, (Context.agrees_of_inside h l.table).findings_eq]

theorem log_congr (h : l.outcome d a = l.outcome d b) (families : List Family) :
    l.log d a families = l.log d b families := by
  induction families with
  | nil => rfl
  | cons f families ih => rw [log, log, h, ih]

end Linter

/-- A pass asks its classifier about places of the document only: where two classifiers say the
same of these, the passes end with the same report or the same refusal, and log the same lines. -/
theorem lint_asks_inside (l : Linter) (d : Document) (a b : Classifier)
    (h : ∀ p, d.contains p = true → a.pathAt p = b.pathAt p) :
    l.lint d a = l.lint d b ∧ l.log d a l.families = l.log d b l.families := by
  have houtcome := Linter.outcome_congr h (l := l)
  refine ⟨?_, Linter.log_congr houtcome _⟩
  rw [Linter.lint, Linter.lint, houtcome]

/-- The classifier that is right within the document and knows nothing outside of it. -/
def Classifier.within (c : Classifier) (d : Document) : Classifier where
  pathAt p := if d.contains p then c.pathAt p else []

def Classifier.code : Classifier := .ofRegions [Scope.root] []

/-- A table whose only operator takes in the carriage return of a line end. -/
def RuleTable.returning : RuleTable where
  keywords := []
  spacers := [⟨⟨"=\\r", .seq (.char (.single '=')) (.char (.single '\r'))⟩, "", "aseOperator"⟩]
  brackets := []
  strategy := .strict
  variablePattern := ⟨"\\$", .char (.single '$')⟩
  limits := {}

/-- The operator ends at a place that is none of the document, of which the two classifiers say
different things.  Both passes are refused for the end of the span, and neither of them for what
its classifier says there. -/
theorem lint_asks_inside_returning :
    let d := Document.ofString "a=\r\n(b"
    let l : Linter := { table := .returning }
    d.contains ⟨0, 3⟩ = false ∧
      Classifier.code.pathAt ⟨0, 3⟩ ≠ (Classifier.code.within d).pathAt ⟨0, 3⟩ ∧
      (∀ p, d.contains p = true → Classifier.code.pathAt p = (Classifier.code.within d).pathAt p) ∧
      l.lint d .code = .error (.positionOutOfRange ⟨0, 3⟩ 2) ∧
      l.lint d (Classifier.code.within d) = .error (.positionOutOfRange ⟨0, 3⟩ 2) := by
  intro d l
  have hinside : ∀ p, d.contains p = true →
      Classifier.code.pathAt p = (Classifier.code.within d).pathAt p :=
    fun p hp => (if_pos hp).symm
  have hlint : l.lint d .code = .error (.positionOutOfRange ⟨0, 3⟩ 2) := by decide +kernel
  refine ⟨by decide, by decide, hinside, hlint, ?_⟩
  rw [← (lint_asks_inside l d .code (Classifier.code.within d) hinside).1]
  exact hlint

end ScopeLint
