import ScopeLint.Rule.Context

/-!
# Names of variables

Variables follow Hungarian notation: a lower-case tag, then a capitalized word, as in `$joNode`.
-/

namespace ScopeLint.Naming

def message : String := "Does not follow Hungarian Notation"

/-- Does a name, without its sigil, begin in lower case and hold a capital later?  A capital is
a character that differs from the one at its place in the lower-case form. -/
def isHungarian (name : List Char) : Bool :=
  match (name.zip (Text.lowerChars name)).findIdx? (fun (c, lowered) => c != lowered) with
  | some index => decide (0 < index)
  | none => false

/-- Flag a variable in code whose name is not Hungarian. -/
def judge (ctx : Context) (severity : Severity) (m : Match) :
    Except LintError (Option Diagnostic) := do
  let path ← ctx.pathAt m.span.start
  if !Scope.isTypical path || Scope.carries path Scope.constant then return none
  if isHungarian (m.text.toList.drop 1) then return none
  return some (← ctx.report .naming severity message m.span)

def findings (ctx : Context) (severity : Severity) : Except LintError Findings :=
  Findings.ofMatches (judge ctx severity) (ctx.table.variablePattern.scan ctx.document)

end ScopeLint.Naming
