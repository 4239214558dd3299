import ScopeLint.Pattern.Node

/-!
# Looking ahead

Whether a match can start or go on at an index depends only on what follows there.  So the text is
read once from right to left, and for each index it is noted which single characters of the
pattern can be matched there with a match of all that comes after them.  A match is then found
from left to right without ever turning back: at each choice the first way is taken that leads on
to a match.

The notes are marks on the pattern.  Two kinds are used in turn: `steps` marks the characters of
the pattern that can be matched at an index, `after` those that may have been matched just before
it.
-/

namespace ScopeLint.Pattern

/-- Marks on the single characters of a pattern.  Their tree follows the pattern; a part without
any mark is `none`. -/
inductive Marks where
  | none
  | here
  | pair (first second : Marks)
  | copies (each : Array Marks)

namespace Marks

def isNone : Marks → Bool
  | .none => true
  | _ => false

def isHere : Marks → Bool
  | .here => true
  | _ => false

def hereIf (on : Bool) : Marks := if on then .here else .none

def first : Marks → Marks
  | .pair a _ => a
  | _ => .none

def second : Marks → Marks
  | .pair _ b => b
  | _ => .none

/-- The marks of one of several copies. -/
def copy (m : Marks) (k : Nat) : Marks :=
  match m with
  | .copies each => each.getD k .none
  | _ => .none

def both (a b : Marks) : Marks := if a.isNone && b.isNone then .none else .pair a b

def many (each : Array Marks) : Marks := if each.all isNone then .none else .copies each

end Marks

abbrev Conditions := Assertion → Bool

namespace Node

/-- Can a match go through the pattern from here?  `steps` marks the characters that lead on to a
match, and `rest` tells whether what follows the pattern can be matched from here.

A loop needs no second round here: rounds without a character lead nowhere new, and the characters
of further rounds are marked already.  Copies without marks can only be passed without a character,
and then one is as good as many. -/
def can (holds : Conditions) : Node → (steps : Marks) → (rest : Bool) → Bool
  | .empty, _, rest => rest
  | .char _, m, _ => m.isHere
  | .assertion a, _, rest => rest && holds a
  | .seq a b, m, rest => a.can holds m.first (b.can holds m.second rest)
  | .alt a b, m, rest => a.can holds m.first rest || b.can holds m.second rest
  | .group _ a, m, rest => a.can holds m rest
  | .star _ a, m, rest => rest || a.can holds m false
  | .plus _ a, m, rest => a.can holds m rest
  | .exactly count a, m, rest =>
    match m with
    | .copies each => each.foldr (fun m more => a.can holds m more) rest
    | _ => if count = 0 then rest else a.can holds .none rest
  | .upTo _ _ a, m, rest =>
    match m with
    | .copies each => each.foldr (fun m more => rest || a.can holds m more) rest
    | _ => rest

/-- Go through copies from the last one to the first; `done` holds the marks of those behind. -/
def sweepCopies (sweep : Marks → Bool → Bool × Marks) (join : Bool → Bool) (m : Marks) :
    Nat → Bool → List Marks → Bool × Marks
  | 0, rest, done => (rest, .many done.toArray)
  | k + 1, rest, done =>
    let (more, after) := sweep (m.copy k) rest
    sweepCopies sweep join m k (join more) (after :: done)

/-- Whether a match can go through the pattern from here, as `can` tells, and the marks of the
characters that may have been matched just before: those behind which a match can go on. -/
def sweep (holds : Conditions) : Node → (steps : Marks) → (rest : Bool) → Bool × Marks
  | .empty, _, rest => (rest, .none)
  | .char _, m, rest => (m.isHere, .hereIf rest)
  | .assertion a, _, rest => (rest && holds a, .none)
  | .seq a b, m, rest =>
    let (more, second) := b.sweep holds m.second rest
    let (here, first) := a.sweep holds m.first more
    (here, .both first second)
  | .alt a b, m, rest =>
    let (one, first) := a.sweep holds m.first rest
    let (other, second) := b.sweep holds m.second rest
    (one || other, .both first second)
  | .group _ a, m, rest => a.sweep holds m rest
  | .star _ a, m, rest =>
    let more := rest || a.can holds m false
    (more, (a.sweep holds m more).2)
  | .plus _ a, m, rest => a.sweep holds m (rest || a.can holds m false)
  | .exactly count a, m, rest => sweepCopies (a.sweep holds) id m count rest []
  | .upTo _ count a, m, rest => sweepCopies (a.sweep holds) (rest || ·) m count rest []

/-- Of the characters that may stand just before an index, those that match `c`. -/
def take (c : Char) : Node → (after : Marks) → Marks
  | _, .none => .none
  | .char set, m => if set.has c then m else .none
  | .seq a b, m => .both (a.take c m.first) (b.take c m.second)
  | .alt a b, m => .both (a.take c m.first) (b.take c m.second)
  | .group _ a, m => a.take c m
  | .star _ a, m => a.take c m
  | .plus _ a, m => a.take c m
  | .exactly _ a, .copies each => .many (each.map (a.take c))
  | .upTo _ _ a, .copies each => .many (each.map (a.take c))
  | _, _ => .none

end Node

/-- What is known of an index: whether a match can start there, and which characters of the
pattern can be matched there. -/
structure Outlook where
  opens : Bool
  steps : Marks

/-- The outlooks at the indices below the given one, put before `done`; `after` belongs to the
index itself. -/
def outlooksBelow (node : Node) (text : Array Char) :
    Nat → (after : Marks) → (done : List Outlook) → List Outlook
  | 0, _, done => done
  | i + 1, after, done =>
    let steps := match text[i]? with
      | some c => node.take c after
      | none => .none
    let (opens, after) := node.sweep (Assertion.holds text i) steps true
    outlooksBelow node text i after (⟨opens, steps⟩ :: done)

/-- The outlooks at all indices of a text, its end included. -/
def outlooks (node : Node) (text : Array Char) : Array Outlook :=
  (outlooksBelow node text (text.size + 1) .none []).toArray

end ScopeLint.Pattern
