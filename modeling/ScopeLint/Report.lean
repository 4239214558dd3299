import ScopeLint.Diagnostic
import ScopeLint.Family

/-!
# Reports

What a lint pass over one document yields.
-/

namespace ScopeLint

/-- What a family did, and how long it took, in nanoseconds. -/
structure Timing where
  rule : String
  total : Nat := 0
  runs : Nat := 0
  examined : Nat := 0
  diagnostics : Nat := 0
  deriving Repr, DecidableEq

namespace Timing

/-- The sum of two entries of one rule. -/
def absorb (t other : Timing) : Timing :=
  { t with
    total := t.total + other.total
    runs := t.runs + other.runs
    examined := t.examined + other.examined
    diagnostics := t.diagnostics + other.diagnostics }

/-- The mean time of a run in whole nanoseconds, 0 without runs.  Runs are counted modulo 2^32
here, and where nothing is left of a positive count there is no mean. -/
def average? (t : Timing) : Option Nat :=
  if t.runs = 0 then some 0
  else
    match t.runs % 4294967296 with
    | 0 => none
    | runs + 1 => some (t.total / (runs + 1))

end Timing

structure Report where
  /-- In the order in which they were found, after the notice of skipped families. -/
  diagnostics : List Diagnostic
  /-- The families skipped because the document is too long. -/
  disabled : List Family := []
  /-- One entry for each family that ran. -/
  timings : List Timing := []
  deriving Repr, DecidableEq

def Report.count (r : Report) (s : Severity) : Nat :=
  r.diagnostics.countP (fun d => d.severity == s)

end ScopeLint
