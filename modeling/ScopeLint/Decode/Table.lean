import ScopeLint.Decode.Reader
import ScopeLint.Table

/-!
# Reading rule tables

A field that is missing from a table takes the value of the built-in table.  A limit that is
given as nothing is no limit.
-/

namespace ScopeLint.Decode

variable {ν : Type} (r : Reader ν)

def severity (v : ν) : Option Severity := r.choice Severity.named? v

def family (v : ν) : Option Family := r.choice Family.named? v

def strategy (v : ν) : Option BracketStrategy := r.choice BracketStrategy.named? v

def limits (v : ν) : Option Limits := do
  let field ← r.record? ["casing", "spacing", "bracket_match", "notation"] v
  let default : Limits := {}
  let limit (name : String) (fallback : Option Nat) :=
    Reader.orElse fallback (r.optional r.number?) (field name)
  return { casing := ← limit "casing" default.casing
           spacing := ← limit "spacing" default.spacing
           brackets := ← limit "bracket_match" default.brackets
           naming := ← limit "notation" default.naming }

/-- A spacer; its scopes may be left out. -/
def spacer (v : ν) : Option SpacerSpec := do
  let field ← r.record? ["pattern", "required_scope", "good_break_scope"] v
  return { pattern := ← Reader.needed r.text? (field "pattern")
           requiredScope := ← Reader.orElse "" r.text? (field "required_scope")
           breakScope := ← Reader.orElse "" r.text? (field "good_break_scope") }

def bracketPair (v : ν) : Option BracketSpec := do
  let field ← r.record? ["open", "close"] v
  return { opening := ← Reader.needed r.text? (field "open")
           closing := ← Reader.needed r.text? (field "close") }

def table (v : ν) : Option TableSpec := do
  let field ← r.record?
    ["keywords", "spacers", "brackets", "bracket_strategy", "notation_pattern", "thresholds"] v
  let default : TableSpec := {}
  return { keywords := ← Reader.orElse default.keywords (r.listOf r.text?) (field "keywords")
           spacers := ← Reader.orElse default.spacers (r.listOf (spacer r)) (field "spacers")
           brackets := ← Reader.orElse default.brackets (r.listOf (bracketPair r))
             (field "brackets")
           strategy := ← Reader.orElse default.strategy (strategy r) (field "bracket_strategy")
           variablePattern := ← Reader.orElse default.variablePattern r.text?
             (field "notation_pattern")
           limits := ← Reader.orElse default.limits (limits r) (field "thresholds") }

end ScopeLint.Decode
