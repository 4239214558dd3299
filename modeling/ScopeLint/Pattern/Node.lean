import ScopeLint.Pattern.CharSet

/-!
# Patterns as terms

The pattern language after reading: of groups that capture, the names are kept if they have one,
and repetitions with counts are built from four kinds of loop.
-/

namespace ScopeLint.Pattern

/-- Where a place stands with respect to words. -/
inductive WordEdge where
  | boundary
  | noBoundary
  | start
  | stop
  | noWordBefore
  | noWordAfter
  deriving Repr, DecidableEq

/-- Does the edge stand between two neighbours, of which it is known whether they are word
characters? -/
def WordEdge.between (before after : Bool) : WordEdge → Bool
  | .boundary => before != after
  | .noBoundary => before == after
  | .start => !before && after
  | .stop => before && !after
  | .noWordBefore => !before
  | .noWordAfter => !after

/-- Conditions on the place between two characters. -/
inductive Assertion where
  | textStart
  | textEnd
  | lineStart
  | lineEnd
  /-- The start of a line, where a carriage return ends lines too. -/
  | returnStart
  /-- The end of a line, where a carriage return ends lines too. -/
  | returnEnd
  /-- An edge with respect to words of all scripts, or to those of ASCII. -/
  | word (edge : WordEdge) (ascii : Bool)
  deriving Repr, DecidableEq

namespace Assertion

def before? (text : Array Char) : Nat → Option Char
  | 0 => none
  | i + 1 => text[i]?

/-- Is the neighbour a word character?  Beyond the ends of the text there is none. -/
def isWord (ascii : Bool) (neighbour : Option Char) : Bool :=
  neighbour.any (if ascii then CharKind.asciiWord.has else Text.isWordChar)

/-- Does the condition hold before the character at index `i`?  A line that ends in a carriage
return and a line feed has no end between the two. -/
def holds (text : Array Char) (i : Nat) : Assertion → Bool
  | .textStart => i == 0
  | .textEnd => i == text.size
  | .lineStart => i == 0 || before? text i == some '\n'
  | .lineEnd => i == text.size || text[i]? == some '\n'
  | .returnStart =>
    i == 0 || before? text i == some '\n' ||
      (before? text i == some '\r' && text[i]? != some '\n')
  | .returnEnd =>
    i == text.size || text[i]? == some '\r' ||
      (text[i]? == some '\n' && before? text i != some '\r')
  | .word edge ascii => edge.between (isWord ascii (before? text i)) (isWord ascii text[i]?)

end Assertion

inductive Node where
  | empty
  | char (set : CharSet)
  | assertion (a : Assertion)
  | seq (a b : Node)
  /-- `a` is preferred to `b`. -/
  | alt (a b : Node)
  | group (name : Option String) (a : Node)
  /-- Any number of rounds, as many as possible if `greedy`. -/
  | star (greedy : Bool) (a : Node)
  /-- At least one round. -/
  | plus (greedy : Bool) (a : Node)
  | exactly (count : Nat) (a : Node)
  /-- At most `count` rounds. -/
  | upTo (greedy : Bool) (count : Nat) (a : Node)
  deriving Repr, DecidableEq

namespace Node

def sequence : List Node → Node
  | [] => .empty
  | [a] => a
  | a :: b :: rest => .seq a (sequence (b :: rest))

/-- One of several patterns, the first preferred. -/
def choice : List Node → Node
  | [] => .empty
  | [a] => a
  | a :: b :: rest => .alt a (choice (b :: rest))

/-- Can the pattern match without consuming a character, for all that its form tells? -/
def isNullable : Node → Bool
  | .empty => true
  | .char _ => false
  | .assertion _ => true
  | .seq a b => a.isNullable && b.isNullable
  | .alt a b => a.isNullable || b.isNullable
  | .group _ a => a.isNullable
  | .star _ _ => true
  | .plus _ a => a.isNullable
  | .exactly count a => count == 0 || a.isNullable
  | .upTo _ _ _ => true

/-- Can the pattern match nothing but the empty text? -/
def isEmptyOnly : Node → Bool
  | .empty => true
  | .char _ => false
  | .assertion _ => true
  | .seq a b => a.isEmptyOnly && b.isEmptyOnly
  | .alt a b => a.isEmptyOnly && b.isEmptyOnly
  | .group _ a => a.isEmptyOnly
  | .star _ a => a.isEmptyOnly
  | .plus _ a => a.isEmptyOnly
  | .exactly count a => count == 0 || a.isEmptyOnly
  | .upTo _ count a => count == 0 || a.isEmptyOnly

/-- At least `min` and at most `max` rounds, of which there are more than one. -/
def rounds (greedy : Bool) (min : Nat) (max : Option Nat) (a : Node) : Node :=
  match min, max with
  | 0, none => .star greedy a
  | 1, none => .plus greedy a
  | n + 1, none => .seq (.exactly n a) (.plus greedy a)
  | 0, some max => .upTo greedy max a
  | n + 1, some max =>
    if max ≤ n + 1 then .exactly (n + 1) a
    else .seq (.exactly (n + 1) a) (.upTo greedy (max - (n + 1)) a)

/-- At least `min` and at most `max` rounds.  Of a pattern that matches nothing but the empty text,
one round is as good as many. -/
def repeated (greedy : Bool) (min : Nat) (max : Option Nat) (a : Node) : Node :=
  let (min, max) :=
    if a.isEmptyOnly then (Nat.min min 1, some (Nat.min (max.getD 1) 1)) else (min, max)
  if max = some 0 then .empty
  else if min = 1 ∧ max = some 1 then a
  else .rounds greedy min max a

end Node

end ScopeLint.Pattern
