import ScopeLint.Text.Lower

/-!
# Severities

How serious a finding is: information, warning or error, in this order.
-/

namespace ScopeLint

/-- How serious a finding is. -/
inductive Severity where
  | info
  | warning
  | error
  deriving Repr, DecidableEq, Inhabited

namespace Severity

/-- All severities, the mildest first. -/
def all : List Severity := [.info, .warning, .error]

def text : Severity → String
  | .info => "info"
  | .warning => "warning"
  | .error => "error"

def named? (name : String) : Option Severity := all.find? (fun s => s.text == name)

theorem named?_text (s : Severity) : named? s.text = some s := by
  cases s <;> decide

/-- The severity of a name or one of its synonyms, in any capitalization. -/
def parse? (name : String) : Option Severity :=
  match Text.lower name with
  | "info" | "hint" | "note" => some .info
  | "warning" | "warn" => some .warning
  | "error" | "err" => some .error
  | _ => none

end Severity

end ScopeLint
