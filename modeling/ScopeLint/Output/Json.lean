import ScopeLint.Duration
import ScopeLint.Json.Write
import ScopeLint.Summary

/-!
# Output for programs

The diagnostics and the counts as one JSON value.  Rows and columns are counted from one.
-/

namespace ScopeLint.JsonOutput

/-- One diagnostic; a missing suggestion is left out. -/
def diagnostic (path : String) (d : Diagnostic) : Json :=
  .object (
    [("rule_id", .string d.rule),
      ("severity", .string d.severity.text),
      ("message", .string d.message),
      ("file", .string path),
      ("line", .nat (d.span.start.row + 1)),
      ("column", .nat (d.span.start.column + 1)),
      ("end_line", .nat (d.span.stop.row + 1)),
      ("end_column", .nat (d.span.stop.column + 1))] ++
    (match d.suggestion with
      | some suggestion => [("suggestion", .string suggestion)]
      | none => []))

def counts (s : Summary) : Json :=
  .object [("files_processed", .nat s.filesProcessed),
    ("files_with_errors", .nat s.filesWithErrors),
    ("files_with_warnings", .nat s.filesWithWarnings),
    ("error_count", .nat s.errorCount),
    ("warning_count", .nat s.warningCount),
    ("info_count", .nat s.infoCount),
    ("duration_ms", .nat (Duration.millis s.duration))]

def summary (s : Summary) : Json :=
  .object [("diagnostics", .array (s.diagnostics.map (fun (path, d) => diagnostic path d))),
    ("summary", counts s)]

/-- The text of a value in one of the two layouts. -/
def render (pretty : Bool) (j : Json) : String := if pretty then j.pretty else j.compact

end ScopeLint.JsonOutput
