import ScopeLint.Rule.Context

/-!
# Spacing

Operators have a blank on both sides: `$sName = "x"`, and not `$sName="x"`.  The line's ends
count as blanks, and so do neighbours with the spacer's break scope, so that the two halves of
`==` do not flag each other.
-/

namespace ScopeLint.Spacing

def message : String := "Does not meet spacing standards"

/-- Is the neighbour at a place as good as a blank? -/
def isSpaced (ctx : Context) (breakScope : String) (p : Position) : Except LintError Bool :=
  match ctx.document.charAt? p with
  | none => .ok true
  | some c =>
    if c = ' ' ∨ c = '\t' then .ok true
    else if breakScope = "" then .ok false
    else do return Scope.carries (← ctx.pathAt p) breakScope

def isSpacedBefore (ctx : Context) (breakScope : String) (p : Position) : Except LintError Bool :=
  match p.column with
  | 0 => .ok true
  | column + 1 => isSpaced ctx breakScope ⟨p.row, column⟩

/-- Flag an operator in code that lacks a blank. -/
def judge (ctx : Context) (severity : Severity) (spacer : Spacer) (m : Match) :
    Except LintError (Option Diagnostic) := do
  let path ← ctx.pathAt m.span.start
  if !Scope.isTypical path then return none
  if spacer.requiredScope ≠ "" ∧ !Scope.carries path spacer.requiredScope then return none
  if ← isSpacedBefore ctx spacer.breakScope m.span.start then
    if ← isSpaced ctx spacer.breakScope m.span.stop then return none
  return some (← ctx.report .spacing severity message m.span)

def spacerFindings (ctx : Context) (severity : Severity) (spacer : Spacer) :
    Except LintError Findings :=
  Findings.ofMatches (judge ctx severity spacer) (spacer.pattern.scan ctx.document)

def findings (ctx : Context) (severity : Severity) : Except LintError Findings := do
  return .concat (← ctx.table.spacers.mapM (spacerFindings ctx severity))

end ScopeLint.Spacing
