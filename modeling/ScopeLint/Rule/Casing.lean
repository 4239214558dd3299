import ScopeLint.Rule.Context

/-!
# Casing

Keywords are written in their canonical capitalization: `eoi`, and neither `EOI` nor `eOi`.
-/

namespace ScopeLint.Casing

/-- The message for a keyword, which ends with the suggestion. -/
def message (keyword : String) : String :=
  "Incorrect capitalization for keyword. " ++ suggestionMarker ++ keyword

/-- Flag a spelling of the keyword in code that differs from it. -/
def judge (ctx : Context) (severity : Severity) (keyword : Keyword) (m : Match) :
    Except LintError (Option Diagnostic) := do
  if m.text = keyword.text then return none
  if !(← ctx.isTypicalAt m.span.start) then return none
  return some (← ctx.report .casing severity (message keyword.text) m.span)

def keywordFindings (ctx : Context) (severity : Severity) (keyword : Keyword) :
    Except LintError Findings :=
  Findings.ofMatches (judge ctx severity keyword) (keyword.pattern.scan ctx.document)

def findings (ctx : Context) (severity : Severity) : Except LintError Findings := do
  return .concat (← ctx.table.keywords.mapM (keywordFindings ctx severity))

end ScopeLint.Casing
