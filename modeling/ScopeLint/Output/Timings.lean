import ScopeLint.Duration
import ScopeLint.Summary

/-!
# The table of timings

One row for each rule, the longest total first, in columns of fixed width.
-/

namespace ScopeLint.TimingTable

def padRight (width : Nat) (s : String) : String :=
  s ++ String.ofList (List.replicate (width - s.length) ' ')

def padLeft (width : Nat) (s : String) : String :=
  String.ofList (List.replicate (width - s.length) ' ') ++ s

def header : String :=
  padRight 20 "Rule ID" ++ " " ++ padLeft 12 "Total" ++ " " ++ padLeft 12 "Avg" ++ " " ++
    padLeft 8 "Runs" ++ " " ++ padLeft 10 "Matches" ++ " " ++ padLeft 12 "Diagnostics" ++ "\n"

/-- One row; there is none where the mean is undefined. -/
def row (t : Timing) : Option String := do
  let mean ← t.average?
  return padRight 20 t.rule ++ " " ++
    padLeft 10 ((Duration.seconds t.total).times 1000).twoPlaces ++ "ms " ++
    padLeft 10 ((Duration.seconds mean).times 1000000).twoPlaces ++ "µs " ++
    padLeft 8 (toString t.runs) ++ " " ++ padLeft 10 (toString t.examined) ++ " " ++
    padLeft 12 (toString t.diagnostics) ++ "\n"

/-- The whole table; there is none where a mean is undefined. -/
def format (s : Summary) : Option String :=
  match s.sortedTimings with
  | [] => some "No timing data available"
  | timings => do
    let rows ← timings.mapM row
    return "Rule Timing Statistics:\n" ++ header ++ String.ofList (List.replicate 80 '-') ++
      "\n" ++ String.join rows

end ScopeLint.TimingTable
