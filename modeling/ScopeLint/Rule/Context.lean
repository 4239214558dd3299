import ScopeLint.Classifier
import ScopeLint.Diagnostic
import ScopeLint.Table

/-!
# What a rule sees

The inputs of one lint pass, and what one family makes of them.  The classifier is asked about
places of the document only: others are refused first.
-/

namespace ScopeLint

/-- The inputs of one lint pass. -/
structure Context where
  document : Document
  classifier : Classifier
  table : RuleTable

namespace Context

def pathAt (ctx : Context) (p : Position) : Except LintError ScopePath := do
  ctx.document.check p
  return ctx.classifier.pathAt p

def isTypicalAt (ctx : Context) (p : Position) : Except LintError Bool := do
  return Scope.isTypical (← ctx.pathAt p)

def report (ctx : Context) (f : Family) (severity : Severity) (message : String) (span : Span) :
    Except LintError Diagnostic :=
  Diagnostic.report ctx.document f.id severity message (.span span)

end Context

/-- The number of matches looked at, and the diagnostics in order. -/
structure Findings where
  examined : Nat
  diagnostics : List Diagnostic
  deriving Repr, DecidableEq

namespace Findings

/-- The findings of several entries of a table, one after the other. -/
def concat (parts : List Findings) : Findings :=
  ⟨parts.foldr (fun part total => part.examined + total) 0, parts.flatMap (·.diagnostics)⟩

/-- Judge the matches of one pattern, each by itself. -/
def ofMatches (judge : Match → Except LintError (Option Diagnostic)) (found : List Match) :
    Except LintError Findings := do
  return ⟨found.length, (← found.mapM judge).filterMap (fun d => d)⟩

end Findings

end ScopeLint
