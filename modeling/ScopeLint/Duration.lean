/-!
# Durations as text

Durations are whole numbers of nanoseconds.  To be printed they become binary fractions of 53
bits: first the seconds and the part below a second, then their sum, then a multiple of it, each
rounded to nearest.  The text has two decimal places; a half goes to the even neighbour
throughout.
-/

namespace ScopeLint

/-- The quotient rounded to nearest, a half to the even neighbour. -/
def roundDiv (num den : Nat) : Nat :=
  let quotient := num / den
  let double := 2 * (num % den)
  if double < den then quotient
  else if den < double then quotient + 1
  else if quotient % 2 = 0 then quotient else quotient + 1

def twoTo (n : Nat) : Nat := Nat.pow 2 n

/-- The number `num / 2 ^ shift`. -/
structure BinaryFraction where
  num : Nat
  shift : Nat
  deriving Repr, DecidableEq

namespace BinaryFraction

/-- The number of bits before the point, or minus the number of zero bits after it, such that
the quotient has a digit there: `2 ^ e ≤ num / den < 2 ^ (e + 1)`. -/
def magnitude (num den : Nat) : Int :=
  let guess := (num.log2 : Int) - (den.log2 : Int)
  let fits : Bool :=
    if 0 ≤ guess then decide (den * twoTo guess.toNat ≤ num)
    else decide (den ≤ num * twoTo (-guess).toNat)
  if fits then guess else guess - 1

/-- The nearest fraction of 53 bits. -/
def nearest (num den : Nat) : BinaryFraction :=
  if num = 0 then ⟨0, 0⟩
  else
    let exponent := magnitude num den - 52
    if 0 ≤ exponent then ⟨roundDiv num (den * twoTo exponent.toNat) * twoTo exponent.toNat, 0⟩
    else ⟨roundDiv (num * twoTo (-exponent).toNat) den, (-exponent).toNat⟩

/-- The nearest fraction to the sum. -/
def add (a b : BinaryFraction) : BinaryFraction :=
  nearest (a.num * twoTo b.shift + b.num * twoTo a.shift) (twoTo (a.shift + b.shift))

def times (a : BinaryFraction) (n : Nat) : BinaryFraction := nearest (a.num * n) (twoTo a.shift)

def twoPlaces (a : BinaryFraction) : String :=
  let hundredths := roundDiv (a.num * 100) (twoTo a.shift)
  let cents := hundredths % 100
  s!"{hundredths / 100}." ++ (if cents < 10 then "0" else "") ++ s!"{cents}"

end BinaryFraction

namespace Duration

/-- The seconds of a duration in nanoseconds. -/
def seconds (ns : Nat) : BinaryFraction :=
  (BinaryFraction.nearest (ns / 1000000000) 1).add
    (BinaryFraction.nearest (ns % 1000000000) 1000000000)

def millis (ns : Nat) : Nat := ns / 1000000

end Duration

end ScopeLint
