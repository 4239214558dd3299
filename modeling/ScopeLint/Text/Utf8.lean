import ScopeLint.Text.Ranges

/-!
# Code ranges as byte sequences

In UTF-8 a range of code points falls into runs of byte sequences: in a run all sequences have the
same length, and each place takes all values of a range of bytes.
-/

namespace ScopeLint.Text

/-- Ranges of bytes, one for each place of a sequence. -/
abbrev ByteRun := List (Nat × Nat)

def utf8Bytes (n : Nat) : List Nat :=
  if n < 0x80 then [n]
  else if n < 0x800 then [0xC0 + n / 0x40, 0x80 + n % 0x40]
  else if n < 0x10000 then [0xE0 + n / 0x1000, 0x80 + n / 0x40 % 0x40, 0x80 + n % 0x40]
  else [0xF0 + n / 0x40000, 0x80 + n / 0x1000 % 0x40, 0x80 + n / 0x40 % 0x40, 0x80 + n % 0x40]

/-- The code ranges whose members have byte sequences of one length.  Surrogates have none. -/
def utf8Blocks : Ranges :=
  [(0, 0x7F), (0x80, 0x7FF), (0x800, 0xD7FF), (0xE000, 0xFFFF), (0x10000, 0x10FFFF)]

/-- The part of a range that lies within another. -/
def clip (lo hi : Nat) (block : Nat × Nat) : Option (Nat × Nat) :=
  let first := Nat.max lo block.1
  let last := Nat.min hi block.2
  if first ≤ last then some (first, last) else none

/-- Split a range at multiples of the sizes, the smallest first, until at each size it either lies
within one block or consists of whole blocks.  Every split settles one end for one size, so `fuel`
above twice their number is never used up. -/
def cutRange : Nat → (sizes : List Nat) → (lo hi : Nat) → List (Nat × Nat)
  | 0, _, lo, hi => [(lo, hi)]
  | _ + 1, [], lo, hi => [(lo, hi)]
  | fuel + 1, size :: sizes, lo, hi =>
    if lo / size = hi / size then cutRange fuel sizes lo hi
    else if lo % size ≠ 0 then
      let cut := (lo / size + 1) * size
      (lo, cut - 1) :: cutRange fuel (size :: sizes) cut hi
    else if hi % size ≠ size - 1 then
      let cut := hi / size * size
      cutRange fuel (size :: sizes) lo (cut - 1) ++ [(cut, hi)]
    else cutRange fuel sizes lo hi

/-- The runs of byte sequences of a code range. -/
def runsOfRange (range : Nat × Nat) : List ByteRun :=
  (utf8Blocks.filterMap (clip range.1 range.2)).flatMap (fun (lo, hi) =>
    (if hi < 0x80 then [(lo, hi)] else cutRange 12 [0x40, 0x1000, 0x40000] lo hi).map
      (fun (lo, hi) => List.zip (utf8Bytes lo) (utf8Bytes hi)))

def utf8Runs (a : Ranges) : List ByteRun := a.flatMap runsOfRange

end ScopeLint.Text
