import ScopeLint.Output.Json
import ScopeLint.Output.Text
import ScopeLint.Settings

/-!
# Formatters

A way to print summaries and single diagnostics: as text in some style, or as JSON in one of the
two layouts.
-/

namespace ScopeLint

inductive Formatter where
  | text (style : TextStyle)
  | json (pretty : Bool)
  deriving Repr, DecidableEq

namespace Formatter

/-- The formatter of the settings; JSON for readers is laid out over lines. -/
def ofSettings (o : OutputSettings) (colored : Bool) : Formatter :=
  match o.format with
  | .text => .text { colored, showFixes := o.suggestions, showStats := o.statistics }
  | .json => .json true

/-- Let colour codes through, or not. -/
def withEscapes (f : Formatter) (escapes : Bool) : Formatter :=
  match f with
  | .text style => .text { style with escapes }
  | .json pretty => .json pretty

def format (f : Formatter) (s : Summary) : String :=
  match f with
  | .text style => style.format s
  | .json pretty => JsonOutput.render pretty (JsonOutput.summary s)

def diagnostic (f : Formatter) (path : String) (d : Diagnostic) : String :=
  match f with
  | .text style => style.diagnostic path d
  | .json pretty => JsonOutput.render pretty (JsonOutput.diagnostic path d)

end Formatter

end ScopeLint
