import ScopeLint.Json
import ScopeLint.Settings

/-!
# Settings as JSON values

The forms that `ScopeLint.Decode` reads, with every field written out.
-/

namespace ScopeLint.Encode

/-- Line limits; no limit is null. -/
def limits (l : Limits) : Json :=
  .object [("casing", .ofOption (l.casing.map .nat)),
    ("spacing", .ofOption (l.spacing.map .nat)),
    ("bracket_match", .ofOption (l.brackets.map .nat)),
    ("notation", .ofOption (l.naming.map .nat))]

def spacer (s : SpacerSpec) : Json :=
  .object [("pattern", .string s.pattern), ("required_scope", .string s.requiredScope),
    ("good_break_scope", .string s.breakScope)]

def bracketPair (b : BracketSpec) : Json :=
  .object [("open", .string b.opening), ("close", .string b.closing)]

def table (t : TableSpec) : Json :=
  .object [("keywords", .strings t.keywords),
    ("spacers", .array (t.spacers.map spacer)),
    ("brackets", .array (t.brackets.map bracketPair)),
    ("bracket_strategy", .string t.strategy.text),
    ("notation_pattern", .string t.variablePattern),
    ("thresholds", limits t.limits)]

def engine (e : EngineSettings) : Json :=
  .object [("parallel", .bool e.parallel), ("jobs", .nat e.jobs)]

def output (o : OutputSettings) : Json :=
  .object [("format", .string o.format.name), ("color", .string o.color.name),
    ("verbose", .bool o.verbose), ("statistics", .bool o.statistics),
    ("suggestions", .bool o.suggestions)]

def severityMap (m : SeverityMap) : Json :=
  .object (m.entries.map (fun (id, severity) => (id, .string severity.text)))

def rules (r : RuleSettings) : Json :=
  .object [("disabled", .strings r.disabled), ("severity", severityMap r.severity)]

def settings (s : Settings) : Json :=
  .object [("engine", engine s.engine), ("output", output s.output), ("rules", rules s.rules),
    ("table", table s.table)]

end ScopeLint.Encode
