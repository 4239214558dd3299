import ScopeLint.Rule.Context

/-!
# Brackets

Every opening bracket has a closing one.  Each pair of the table is looked at by itself: a
closing bracket takes the most recent opening bracket that the strategy lets it take.  With the
heuristic strategy that is one on its row or in its column.
-/

namespace ScopeLint.Brackets

def message : String := "Missing a matching character"

/-- A bracket of a pair in code. -/
structure Bracket where
  isOpening : Bool
  position : Position
  deriving Repr, DecidableEq

def mayPair : BracketStrategy → Position → Position → Bool
  | .heuristic, opening, closing => opening.column == closing.column || opening.row == closing.row
  | .strict, _, _ => true

/-- The brackets without a partner so far, the last ones first. -/
structure Unpaired where
  openings : List Position
  closings : List Position
  deriving Repr, DecidableEq

/-- Take one more bracket into account. -/
def Unpaired.step (strategy : BracketStrategy) (u : Unpaired) (b : Bracket) : Unpaired :=
  if b.isOpening then { u with openings := b.position :: u.openings }
  else if u.openings.any (mayPair strategy · b.position) then
    { u with openings := u.openings.eraseP (mayPair strategy · b.position) }
  else { u with closings := b.position :: u.closings }

/-- The brackets of a sequence that find no partner. -/
def unpaired (strategy : BracketStrategy) (brackets : List Bracket) : Unpaired :=
  brackets.foldl (Unpaired.step strategy) ⟨[], []⟩

/-- The positions to report: opening brackets, then closing ones, each in document order. -/
def Unpaired.positions (u : Unpaired) : List Position := u.openings.reverse ++ u.closings.reverse

/-- The bracket of a match, if it stands in code. -/
def bracket? (ctx : Context) (m : Match) : Except LintError (Option Bracket) := do
  if ← ctx.isTypicalAt m.span.start then
    return some ⟨m.hasGroup openingGroup, m.span.start⟩
  else return none

def pairFindings (ctx : Context) (severity : Severity) (pair : Pattern) :
    Except LintError Findings := do
  let found := pair.scan ctx.document
  let brackets := (← found.mapM (bracket? ctx)).filterMap (fun b => b)
  let positions := (unpaired ctx.table.strategy brackets).positions
  let diagnostics ← positions.mapM
    (fun p => ctx.report .brackets severity message (Span.charAt p))
  return ⟨found.length, diagnostics⟩

def findings (ctx : Context) (severity : Severity) : Except LintError Findings := do
  return .concat (← ctx.table.brackets.mapM (pairFindings ctx severity))

end ScopeLint.Brackets
