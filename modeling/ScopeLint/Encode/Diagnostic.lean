import ScopeLint.Diagnostic
import ScopeLint.Json

/-!
# Diagnostics as JSON values

The forms that `ScopeLint.Decode` reads.  A missing suggestion is left out.
-/

namespace ScopeLint.Encode

def position (p : Position) : Json := .object [("row", .nat p.row), ("column", .nat p.column)]

def span (s : Span) : Json := .object [("start", position s.start), ("end", position s.stop)]

def diagnostic (d : Diagnostic) : Json :=
  .object (
    [("rule_id", .string d.rule),
      ("severity", .string d.severity.text),
      ("message", .string d.message),
      ("range", span d.span)] ++
    (match d.suggestion with
      | some suggestion => [("suggestion", .string suggestion)]
      | none => []))

end ScopeLint.Encode
