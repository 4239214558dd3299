/-!
# Sets of characters as sorted code ranges

A property of characters is kept as the closed ranges of code points that have it, in increasing
order.  The tables of this folder are such lists, one for each property.  Sets are joined and
complemented range by range.
-/

namespace ScopeLint.Text

/-- Closed ranges of code points, in increasing order. -/
abbrev Ranges := List (Nat × Nat)

/-- Does a range hold the code point `n`?  The search stops at the first range that begins
beyond `n`. -/
def Ranges.has : Ranges → Nat → Bool
  | [], _ => false
  | (lo, hi) :: rest, n => if n < lo then false else if n ≤ hi then true else Ranges.has rest n

namespace Ranges

/-- Join ranges that overlap or touch, going on from the range of `lo` and `hi`. -/
def joinFrom (lo hi : Nat) : Ranges → Ranges
  | [] => [(lo, hi)]
  | (first, last) :: rest =>
    if first ≤ hi + 1 then joinFrom lo (Nat.max hi last) rest
    else (lo, hi) :: joinFrom first last rest

/-- Join ranges that overlap or touch; they come in increasing order of their first codes. -/
def join : Ranges → Ranges
  | [] => []
  | (lo, hi) :: rest => joinFrom lo hi rest

/-- The codes of either set. -/
def union (a b : Ranges) : Ranges := join (List.merge a b (fun x y => x.1 ≤ y.1))

def ofCodes (codes : List Nat) : Ranges :=
  join ((codes.mergeSort (· ≤ ·)).map (fun n => (n, n)))

def lastCode : Nat := 0x10FFFF

/-- The codes from `next` on that the set leaves out. -/
def complFrom (next : Nat) : Ranges → Ranges
  | [] => if next ≤ lastCode then [(next, lastCode)] else []
  | (lo, hi) :: rest =>
    if next < lo then (next, lo - 1) :: complFrom (hi + 1) rest else complFrom (hi + 1) rest

def compl (a : Ranges) : Ranges := complFrom 0 a

def inter (a b : Ranges) : Ranges := compl (union (compl a) (compl b))

/-- The codes of the first set that the second leaves out. -/
def diff (a b : Ranges) : Ranges := inter a (compl b)

def moved (a : Ranges) (shift : Nat) : Ranges := a.map (fun (lo, hi) => (lo + shift, hi + shift))

def movedBack (a : Ranges) (shift : Nat) : Ranges :=
  a.map (fun (lo, hi) => (lo - shift, hi - shift))

end Ranges

end ScopeLint.Text
