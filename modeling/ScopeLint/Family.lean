import ScopeLint.Severity

/-!
# Families of rules

The four families of checks, in the order in which they run.
-/

namespace ScopeLint

/-- A family of checks. -/
inductive Family where
  | casing
  | spacing
  | brackets
  | naming
  deriving Repr, DecidableEq

namespace Family

/-- All families, in the order in which they run. -/
def all : List Family := [.casing, .spacing, .brackets, .naming]

/-- The family's id in diagnostics and settings. -/
def id : Family → String
  | .casing => "casing"
  | .spacing => "spacing"
  | .brackets => "bracket-match"
  | .naming => "notation"

/-- What the family demands. -/
def description : Family → String
  | .casing => "Keywords and constants must use their canonical capitalization"
  | .spacing => "Operators must be surrounded by whitespace"
  | .brackets => "Every opening bracket needs a closing bracket"
  | .naming => "Variables use Hungarian notation: a lowercase tag followed by a capitalized word"

/-- The severity of the family's findings unless the settings say otherwise. -/
def defaultSeverity : Family → Severity
  | .brackets => .error
  | _ => .warning

/-- The family of exactly that id. -/
def named? (name : String) : Option Family := all.find? (fun f => f.id == name)

/-- The family of an id or one of its other names, in any capitalization. -/
def parse? (name : String) : Option Family :=
  match Text.lower name with
  | "casing" | "case" => some .casing
  | "spacing" => some .spacing
  | "bracket-match" | "brackets" => some .brackets
  | "notation" => some .naming
  | _ => none

def unknown (name : String) : String := s!"Unknown rule: {name}"

end Family

end ScopeLint
