import ScopeLint.Position

/-!
# What can go wrong

The causes for which a table is refused or a lint pass is given up, and the one function that
words them.
-/

namespace ScopeLint

/-- The entry of a table that a pattern belongs to. -/
inductive Origin where
  | keyword (index : Nat)
  | spacer (index : Nat)
  | bracketPair (index : Nat)
  | variableNames
  | label (name : String)
  deriving Repr, DecidableEq

/-- The entry's name in messages. -/
def Origin.text : Origin → String
  | .keyword index => s!"keyword #{index}"
  | .spacer index => s!"spacer #{index}"
  | .bracketPair index => s!"bracket pair #{index}"
  | .variableNames => "notation pattern"
  | .label name => name

/-- Why a table or a lint pass fails. -/
inductive LintError where
  /-- The pattern is not one of the pattern language. -/
  | invalidPattern (origin : Origin) (pattern : String)
  /-- The position is not in the document, which has that many lines. -/
  | positionOutOfRange (position : Position) (lineCount : Nat)
  /-- The span's end comes before its start. -/
  | reversedSpan (span : Span)
  /-- A keyword has no visible character. -/
  | emptyKeyword (index : Nat)
  /-- A pattern of the table is the empty text. -/
  | emptyPattern (origin : Origin)
  deriving Repr, DecidableEq

def LintError.message : LintError → String
  | .invalidPattern origin pattern =>
    s!"Invalid pattern '{pattern}' in {origin.text}: regex parse error"
  | .positionOutOfRange position lineCount =>
    s!"Position {position.text} is outside the document ({lineCount} lines)"
  | .reversedSpan span => s!"Range {span.text} ends before it starts"
  | .emptyKeyword index => s!"Invalid rule table: {(Origin.keyword index).text} is empty"
  | .emptyPattern origin => s!"Invalid rule table: {origin.text} has an empty pattern"

end ScopeLint
