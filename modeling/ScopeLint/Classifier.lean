import ScopeLint.Position
import ScopeLint.Scope

/-!
# Classifiers

The linter does not read scripts itself: it asks a classifier for the scope path of each place
that it cares about.  Any function will do; `ofRegions` is one given by a list of stretches.
-/

namespace ScopeLint

/-- The scope path of each place. -/
structure Classifier where
  pathAt : Position → ScopePath

/-- A stretch of one row with its scope path. -/
structure Region where
  row : Nat
  first : Nat
  last : Nat
  path : ScopePath
  deriving Repr, DecidableEq

def Region.contains (r : Region) (p : Position) : Bool :=
  p.row == r.row && decide (r.first ≤ p.column) && decide (p.column < r.last)

/-- The path of the first stretch that holds the place, else the default. -/
def Classifier.ofRegions (default : ScopePath) (regions : List Region) : Classifier where
  pathAt p :=
    match regions.find? (·.contains p) with
    | some r => r.path
    | none => default

end ScopeLint
