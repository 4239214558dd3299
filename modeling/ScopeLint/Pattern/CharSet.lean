import ScopeLint.Text.Blank
import ScopeLint.Text.Fold
import ScopeLint.Text.Word

/-!
# Sets of characters in patterns

A set is a term: ranges and the three named kinds, joined by the set operations.  Membership is
read off the term, so no set is ever listed out.
-/

namespace ScopeLint.Pattern

/-- The named kinds of characters, in all scripts and within ASCII. -/
inductive CharKind where
  | digit
  | space
  | word
  | asciiDigit
  | asciiSpace
  | asciiWord
  deriving Repr, DecidableEq

def CharKind.has : CharKind → Char → Bool
  | .digit, c => Text.isDigitChar c
  | .space, c => Text.isBlank c
  | .word, c => Text.isWordChar c
  | .asciiDigit, c => decide ('0' ≤ c) && decide (c ≤ '9')
  | .asciiSpace, c => c == ' ' || (decide ('\t' ≤ c) && decide (c ≤ '\r'))
  | .asciiWord, c => c.isAlphanum || c == '_'

/-- How far letters match in either case. -/
inductive CaseRule where
  | asWritten
  /-- The letters of ASCII match in either case. -/
  | ascii
  /-- The letters of all scripts match in either case. -/
  | full
  deriving Repr, DecidableEq

/-- The letter of ASCII in the other case; other characters as they are. -/
def otherCase (c : Char) : Char := if c.isUpper then c.toLower else c.toUpper

inductive CharSet where
  | empty
  | range (first last : Char)
  /-- The characters that equal `c` up to case. -/
  | alike (c : Char)
  | kind (k : CharKind)
  /-- The characters with the given codes. -/
  | listed (codes : Text.Ranges)
  | union (a b : CharSet)
  | inter (a b : CharSet)
  | diff (a b : CharSet)
  | symmDiff (a b : CharSet)
  | compl (a : CharSet)
  /-- All characters that equal a member up to the case of ASCII letters. -/
  | caseless (a : CharSet)
  /-- All characters that equal a member up to case. -/
  | folded (a : CharSet)
  deriving Repr, DecidableEq

namespace CharSet

def has : CharSet → Char → Bool
  | .empty, _ => false
  | .range first last, c => decide (first ≤ c) && decide (c ≤ last)
  | .alike d, c => Text.foldsAlike d c
  | .kind k, c => k.has c
  | .listed codes, c => codes.has c.toNat
  | .union a b, c => a.has c || b.has c
  | .inter a b, c => a.has c && b.has c
  | .diff a b, c => a.has c && !b.has c
  | .symmDiff a b, c => a.has c != b.has c
  | .compl a, c => !a.has c
  | .caseless a, c => a.has c || a.has (otherCase c)
  | .folded a, c => (Text.foldClass c).any a.has

def single (c : Char) : CharSet := .range c c

/-- The set of one character, and of those that equal it under the rule. -/
def letter (rule : CaseRule) (c : Char) : CharSet :=
  match rule with
  | .asWritten => .single c
  | .ascii => if c.isAlpha then .caseless (.single c) else .single c
  | .full => .alike c

def ofRanges : List (Char × Char) → CharSet
  | [] => .empty
  | (first, last) :: rest => .union (.range first last) (ofRanges rest)

/-- The set with all characters that equal a member under the rule. -/
def foldBy (rule : CaseRule) (a : CharSet) : CharSet :=
  match rule with
  | .asWritten => a
  | .ascii => .caseless a
  | .full => .folded a

def complIf (negated : Bool) (a : CharSet) : CharSet := if negated then .compl a else a

end CharSet

end ScopeLint.Pattern
