import ScopeLint.Family
import ScopeLint.Pattern

/-!
# Rule tables

The data that the families run on.  A `TableSpec` is what settings give; a `RuleTable` is its
compiled form.  Compiling goes through the entries in order and stops at the first faulty one,
so a table that is refused is never used.
-/

namespace ScopeLint

/-- A pattern that has to be surrounded by blanks. -/
structure SpacerSpec where
  pattern : String
  /-- The category that a match has to carry; empty for any code. -/
  requiredScope : String := ""
  /-- The category that may stand next to a match in place of a blank; empty for none. -/
  breakScope : String := ""
  deriving Repr, DecidableEq

/-- The patterns of opening and closing brackets. -/
structure BracketSpec where
  opening : String
  closing : String
  deriving Repr, DecidableEq

/-- How a closing bracket finds its opening bracket. -/
inductive BracketStrategy where
  /-- The nearest one on the same row or in the same column. -/
  | heuristic
  /-- The nearest one. -/
  | strict
  deriving Repr, DecidableEq, Inhabited

namespace BracketStrategy

def all : List BracketStrategy := [.heuristic, .strict]

def text : BracketStrategy → String
  | .heuristic => "heuristic"
  | .strict => "strict"

def named? (name : String) : Option BracketStrategy := all.find? (fun s => s.text == name)

theorem named?_text (s : BracketStrategy) : named? s.text = some s := by
  cases s <;> decide

/-- The strategy of a name or its synonym, in any capitalization. -/
def parse? (name : String) : Option BracketStrategy :=
  match Text.lower name with
  | "heuristic" => some .heuristic
  | "strict" | "lifo" => some .strict
  | _ => none

def unknown (name : String) : String := s!"Unknown bracket strategy: {name}"

end BracketStrategy

/-- The numbers of lines above which a family is skipped. -/
structure Limits where
  casing : Option Nat := none
  spacing : Option Nat := some 2500
  brackets : Option Nat := none
  naming : Option Nat := none
  deriving Repr, DecidableEq

namespace Limits

def maxLines (l : Limits) : Family → Option Nat
  | .casing => l.casing
  | .spacing => l.spacing
  | .brackets => l.brackets
  | .naming => l.naming

def setMaxLines (l : Limits) (f : Family) (limit : Option Nat) : Limits :=
  match f with
  | .casing => { l with casing := limit }
  | .spacing => { l with spacing := limit }
  | .brackets => { l with brackets := limit }
  | .naming => { l with naming := limit }

end Limits

/-- A rule table as given by settings.  The defaults are the built-in table. -/
structure TableSpec where
  /-- Keywords and constants in their canonical capitalization. -/
  keywords : List String := ["eoi", "NullObject", "JSONObject"]
  spacers : List SpacerSpec :=
    [⟨"[\\+=]", "", "aseOperator"⟩, ⟨"&&|\\|\\|", "", "aseOperator"⟩]
  brackets : List BracketSpec :=
    [⟨"\\(", "\\)"⟩, ⟨"\\[", "\\]"⟩, ⟨"\\\x7b", "\\\x7d"⟩]
  strategy : BracketStrategy := .heuristic
  /-- The pattern of variables with their sigil. -/
  variablePattern : String := "\\$[A-Za-z0-9]+"
  limits : Limits := {}
  deriving Repr, DecidableEq

/-- A keyword with the pattern of its spellings. -/
structure Keyword where
  text : String
  pattern : Pattern
  deriving Repr, DecidableEq

structure Spacer where
  pattern : Pattern
  requiredScope : String
  breakScope : String
  deriving Repr, DecidableEq

def openingGroup : String := "open"

/-- A compiled rule table.  The pattern of a bracket pair matches either side, and the group
`openingGroup` tells them apart. -/
structure RuleTable where
  keywords : List Keyword
  spacers : List Spacer
  brackets : List Pattern
  strategy : BracketStrategy
  variablePattern : Pattern
  limits : Limits
  deriving Repr, DecidableEq

namespace RuleTable

/-- The pattern of a keyword: the whole word, whatever its letters mean in patterns. -/
def keywordSource (keyword : String) : String :=
  "\\b(" ++ Pattern.escape keyword ++ ")\\b"

def pairSource (spec : BracketSpec) : String :=
  "(?P<open>" ++ spec.opening ++ ")|(?P<close>" ++ spec.closing ++ ")"

def checkNonEmpty (origin : Origin) (pattern : String) : Except LintError Unit :=
  if pattern = "" then .error (.emptyPattern origin) else .ok ()

def compileKeyword (index : Nat) (keyword : String) : Except LintError Keyword := do
  if Text.trimChars keyword.toList = [] then throw (.emptyKeyword index)
  return ⟨keyword, ← Pattern.compile (.keyword index) true (keywordSource keyword)⟩

def compileSpacer (index : Nat) (spec : SpacerSpec) : Except LintError Spacer := do
  checkNonEmpty (.spacer index) spec.pattern
  return ⟨← Pattern.compile (.spacer index) false spec.pattern, spec.requiredScope,
    spec.breakScope⟩

/-- Compile the bracket pair in place `index`: each side by itself first, so that a refusal
names the faulty one. -/
def compilePair (index : Nat) (spec : BracketSpec) : Except LintError Pattern := do
  let origin := Origin.bracketPair index
  checkNonEmpty origin spec.opening
  checkNonEmpty origin spec.closing
  discard <| Pattern.compile origin false spec.opening
  discard <| Pattern.compile origin false spec.closing
  Pattern.compile origin false (pairSource spec)

/-- Compile entries in order, counting from `index`. -/
def compileAll {α β : Type} (compile : Nat → α → Except LintError β) :
    Nat → List α → Except LintError (List β)
  | _, [] => .ok []
  | index, entry :: rest => do
    let first ← compile index entry
    let others ← compileAll compile (index + 1) rest
    return first :: others

/-- Compile a table: keywords, spacers, brackets, and the pattern of variables. -/
def compile (spec : TableSpec) : Except LintError RuleTable := do
  let keywords ← compileAll compileKeyword 0 spec.keywords
  let spacers ← compileAll compileSpacer 0 spec.spacers
  let brackets ← compileAll compilePair 0 spec.brackets
  checkNonEmpty .variableNames spec.variablePattern
  let variablePattern ← Pattern.compile .variableNames false spec.variablePattern
  return { keywords, spacers, brackets, strategy := spec.strategy, variablePattern,
           limits := spec.limits }

def keywordTexts (t : RuleTable) : List String := t.keywords.map (·.text)

end RuleTable

end ScopeLint
