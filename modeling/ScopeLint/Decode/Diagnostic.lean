import ScopeLint.Decode.Table
import ScopeLint.Diagnostic

/-!
# Reading diagnostics

Only the suggestion may be left out.
-/

namespace ScopeLint.Decode

variable {ν : Type} (r : Reader ν)

def position (v : ν) : Option Position := do
  let field ← r.record? ["row", "column"] v
  return { row := ← Reader.needed r.number? (field "row")
           column := ← Reader.needed r.number? (field "column") }

def span (v : ν) : Option Span := do
  let field ← r.record? ["start", "end"] v
  return { start := ← Reader.needed (position r) (field "start")
           stop := ← Reader.needed (position r) (field "end") }

def diagnostic (v : ν) : Option Diagnostic := do
  let field ← r.record? ["rule_id", "severity", "message", "range", "suggestion"] v
  return { rule := ← Reader.needed r.text? (field "rule_id")
           severity := ← Reader.needed (severity r) (field "severity")
           message := ← Reader.needed r.text? (field "message")
           span := ← Reader.needed (span r) (field "range")
           suggestion := ← Reader.orElse none (r.optional r.text?) (field "suggestion") }

end ScopeLint.Decode
