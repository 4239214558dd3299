import ScopeLint.Pattern.Outlook

/-!
# Walks through a pattern

A walk finds the preferred way through a pattern from an index where one is known to lead on to a
match.  The outlooks tell at each choice which ways lead on, so the first of them is right.

One case needs more care.  A loop whose rounds may be empty could come back to a choice that it has
already stood before at the same index.  Such a way leads nowhere new, so a choice is made once at
each index, and whoever comes to it again turns back.  `Node.seek` walks through such a loop, with
its choices numbered; all other patterns are left to `Node.walk`.
-/

namespace ScopeLint.Pattern

/-- The end of a way: the index after the match and the groups that took part. -/
structure Arrival where
  stop : Nat
  groups : List String
  deriving Repr, DecidableEq

namespace Arrival

def join (a : Arrival) (name : String) : Arrival :=
  if a.groups.contains name then a else { a with groups := name :: a.groups }

/-- The way ends with a group that took part. -/
def closed (a : Arrival) (name : Option String) : Arrival :=
  match name with
  | some name => a.join name
  | none => a

/-- First `here`, then `next`. -/
def followed (here next : Arrival) : Arrival :=
  next.groups.foldl Arrival.join ⟨next.stop, here.groups⟩

end Arrival

def Node.choices : Node → Nat
  | .empty => 0
  | .char _ => 0
  | .assertion _ => 0
  | .seq a b => a.choices + b.choices
  | .alt a b => a.choices + b.choices + 1
  | .group _ a => a.choices
  | .star _ a => a.choices + 2
  | .plus _ a => a.choices + 1
  | .exactly count a => count * a.choices
  | .upTo _ count a => count * (a.choices + 1)

/-- A set of numbers, kept as the bits of a number. -/
structure IndexSet where
  bits : Nat
  deriving Repr, DecidableEq

namespace IndexSet

def empty : IndexSet := ⟨0⟩

def has (s : IndexSet) (i : Nat) : Bool := s.bits.testBit i

def insert (s : IndexSet) (i : Nat) : IndexSet := ⟨s.bits ||| 1 <<< i⟩

end IndexSet

/-- What has come of trying a way: it ends nowhere, with these choices made at its index, or it has
arrived. -/
inductive Attempt where
  | stuck (made : IndexSet)
  | arrived (a : Arrival)

/-- A way to go on from an arrival, given the choices made at its index. -/
abbrev Way := Arrival → IndexSet → Attempt

namespace Way

def dead : Way := fun _ made => .stuck made

/-- Try one way, and the other if it ends nowhere. -/
def orElse (one other : Way) : Way := fun here made =>
  match one here made with
  | .stuck made => other here made
  | .arrived a => .arrived a

/-- Try both ways, in the order of `greedy`. -/
def either (greedy : Bool) (more less : Way) : Way :=
  if greedy then more.orElse less else less.orElse more

/-- Make the choice `id` once at each index. -/
def once (id : Nat) (w : Way) : Way := fun here made =>
  if made.has id then .stuck made else w here (made.insert id)

/-- After a round of a loop: one more round, or on.  Rounds start at different indices, so `fuel`
above their number is never used up. -/
def again (id : Nat) (greedy : Bool) (round : Way → Way) (next : Way) : Nat → Way
  | 0 => .dead
  | fuel + 1 => once id (either greedy (round (again id greedy round next fuel)) next)

/-- The copies of a counted repetition from the copy `k` on, whose numbers are `width` apart. -/
def copies (round : Nat → Nat → Way → Way) (width : Nat) (next : Way) : Nat → Nat → Nat → Way
  | _, _, 0 => next
  | k, id, left + 1 => round k id (copies round width next (k + 1) (id + width) left)

/-- Optional copies from the copy `k` on, each of which may be the last. -/
def optionals (greedy : Bool) (round : Nat → Nat → Way → Way) (width : Nat) (next : Way) :
    Nat → Nat → Nat → Way
  | _, _, 0 => next
  | k, id, left + 1 =>
    once id (either greedy
      (round k (id + 1) (optionals greedy round width next (k + 1) (id + width) left)) next)

end Way

/-- The way through a pattern and on to `next`.  Its choices are numbered from `id` on, and `view`
gives the marks of its characters at each index.  The rounds of a loop whose body may be empty are
told apart from its entry: going on without a round comes last there. -/
def Node.seek (text : Array Char) : Node → (view : Nat → Marks) → (id : Nat) → (next : Way) → Way
  | .empty, _, _, next => next
  | .char _, view, _, next => fun here made =>
    if (view here.stop).isHere then next ⟨here.stop + 1, here.groups⟩ .empty else .stuck made
  | .assertion a, _, _, next => fun here made =>
    if a.holds text here.stop then next here made else .stuck made
  | .seq a b, view, id, next =>
    a.seek text (fun i => (view i).first) id
      (b.seek text (fun i => (view i).second) (id + a.choices) next)
  | .alt a b, view, id, next =>
    .once id (.either true (a.seek text (fun i => (view i).first) (id + 1) next)
      (b.seek text (fun i => (view i).second) (id + 1 + a.choices) next))
  | .group name a, view, id, next =>
    a.seek text view id (fun here made => next (here.closed name) made)
  | .plus greedy a, view, id, next =>
    let round := a.seek text view (id + 1)
    round (.again id greedy round next (text.size + 2))
  | .star greedy a, view, id, next =>
    let round := a.seek text view (id + 2)
    if a.isNullable then
      .once id (.either greedy (round (.again (id + 1) greedy round next (text.size + 2))) next)
    else .again id greedy round next (text.size + 2)
  | .exactly count a, view, id, next =>
    .copies (fun k => a.seek text (fun i => (view i).copy k)) a.choices next 0 id count
  | .upTo greedy count a, view, id, next =>
    .optionals greedy (fun k => a.seek text (fun i => (view i).copy k)) (a.choices + 1) next 0 id
      count

/-- Seek the way through a pattern from index `i` to a place where `rest` holds. -/
def Node.arrive (text : Array Char) (node : Node) (view : Nat → Marks) (rest : Nat → Bool)
    (i : Nat) : Arrival :=
  let goal : Way := fun here made => if rest here.stop then .arrived here else .stuck made
  match node.seek text view 0 goal ⟨i, []⟩ .empty with
  | .arrived a => a
  | .stuck _ => ⟨i, []⟩

/-- Rounds of a loop as long as `more` asks for one.  Every round moves on, so `fuel` above the
number of characters left is never used up. -/
def roundsWhile (more : Nat → Bool) (round : Nat → Arrival) : Nat → Arrival → Arrival
  | 0, here => here
  | fuel + 1, here =>
    if more here.stop then roundsWhile more round fuel (here.followed (round here.stop)) else here

/-- Copies from the copy `k` on, as long as `more` asks for one. -/
def copiesWhile (more : Nat → Nat → Bool) (copy : Nat → Nat → Arrival) :
    Nat → Nat → Arrival → Arrival
  | _, 0, here => here
  | k, left + 1, here =>
    if more k here.stop then
      copiesWhile more copy (k + 1) left (here.followed (copy k here.stop))
    else here

/-- Can a match go through the copies from the copy `k` on? -/
def canCopies (can : Marks → Bool → Bool) (count : Nat) (m : Marks) (k : Nat) (rest : Bool) :
    Bool :=
  match m with
  | .copies each => each.foldr can rest each.size k
  | _ => if count ≤ k then rest else can .none rest

/-- The preferred way through a pattern from index `i`.  `view` gives the marks of its characters
at each index, and `rest` tells where a match of what follows can start.  A character without its
mark is not passed, so no way leaves the text. -/
def Node.walk (text : Array Char) : Node → (view : Nat → Marks) → (rest : Nat → Bool) →
    (i : Nat) → Arrival
  | .empty, _, _, i => ⟨i, []⟩
  | .char _, view, _, i => if (view i).isHere then ⟨i + 1, []⟩ else ⟨i, []⟩
  | .assertion _, _, _, i => ⟨i, []⟩
  | .seq a b, view, rest, i =>
    let first := a.walk text (fun j => (view j).first)
      (fun j => b.can (Assertion.holds text j) (view j).second (rest j)) i
    first.followed (b.walk text (fun j => (view j).second) rest first.stop)
  | .alt a b, view, rest, i =>
    if a.can (Assertion.holds text i) (view i).first (rest i) then
      a.walk text (fun j => (view j).first) rest i
    else b.walk text (fun j => (view j).second) rest i
  | .group name a, view, rest, i => (a.walk text view rest i).closed name
  | .star greedy a, view, rest, i =>
    if a.isNullable then (Node.star greedy a).arrive text view rest i
    else
      let leads (j : Nat) : Bool := a.can (Assertion.holds text j) (view j) false
      roundsWhile (fun j => if greedy then leads j else !rest j)
        (a.walk text view (fun j => rest j || leads j)) (text.size + 1) ⟨i, []⟩
  | .plus greedy a, view, rest, i =>
    if a.isNullable then (Node.plus greedy a).arrive text view rest i
    else
      let leads (j : Nat) : Bool := a.can (Assertion.holds text j) (view j) false
      let round := a.walk text view (fun j => rest j || leads j)
      roundsWhile (fun j => if greedy then leads j else !rest j) round (text.size + 1) (round i)
  | .exactly count a, view, rest, i =>
    copiesWhile (fun _ _ => true)
      (fun k => a.walk text (fun j => (view j).copy k)
        (fun j => canCopies (a.can (Assertion.holds text j)) count (view j) (k + 1) (rest j)))
      0 count ⟨i, []⟩
  | .upTo greedy count a, view, rest, i =>
    let beyond (k j : Nat) : Bool :=
      canCopies (fun m more => rest j || a.can (Assertion.holds text j) m more) count (view j) k
        (rest j)
    copiesWhile
      (fun k j =>
        if greedy then a.can (Assertion.holds text j) ((view j).copy k) (beyond (k + 1) j)
        else !rest j)
      (fun k => a.walk text (fun j => (view j).copy k) (beyond (k + 1))) 0 count ⟨i, []⟩

end ScopeLint.Pattern
