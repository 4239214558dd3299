/-!
# Regular runs of case pairs

Case tables are regular: over long runs each character, or every second one, maps to the
character a fixed distance away.  A run stores one such stretch.
-/

namespace ScopeLint.Text

/-- The code points `first`, `first + step`, up to `last`, each mapped `shift` further on. -/
structure CaseRun where
  first : Nat
  last : Nat
  step : Nat
  shift : Int
  deriving Repr, DecidableEq

namespace CaseRun

def covers (r : CaseRun) (n : Nat) : Bool :=
  decide (r.first ≤ n) && decide (n ≤ r.last) && (n - r.first) % r.step == 0

def target (r : CaseRun) (n : Nat) : Nat := ((n : Int) + r.shift).toNat

/-- The only code point that the run can map to `n`. -/
def source (r : CaseRun) (n : Nat) : Nat := ((n : Int) - r.shift).toNat

end CaseRun

/-- The run that maps the code point `n`.  Runs are in increasing order, so the search stops at
the first one that begins beyond `n`. -/
def runOf? : List CaseRun → Nat → Option CaseRun
  | [], _ => none
  | r :: rest, n => if n < r.first then none else if r.covers n then some r else runOf? rest n

/-- The image of `c` under the run that covers it, and `c` itself where none does. -/
def mapCase (runs : List CaseRun) (c : Char) : Char :=
  match runOf? runs c.toNat with
  | some r => Char.ofNat (r.target c.toNat)
  | none => c

end ScopeLint.Text
