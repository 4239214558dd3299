import ScopeLint.Pattern.CharSet

/-!
# Flags

Flags change the meaning of what follows in a pattern, up to the end of the group they stand in.
With one of them, blanks and comments between the parts of a pattern have no meaning.
-/

namespace ScopeLint.Pattern

/-- The flags that change the meaning of what follows. -/
structure Flags where
  /-- Letters match in either case. -/
  ignoreCase : Bool := false
  /-- Line starts and ends count as text start and end. -/
  multiLine : Bool := false
  /-- The dot matches line ends too. -/
  dotAll : Bool := false
  /-- Plain repetitions take as little as possible, and marked ones as much as possible. -/
  swapGreed : Bool := false
  /-- Kinds of characters, words and cases are those of all scripts, not of ASCII alone. -/
  allScripts : Bool := true
  /-- Carriage returns end lines too. -/
  returns : Bool := false
  /-- Blanks and comments are passed over. -/
  spaced : Bool := false
  deriving Repr, DecidableEq

namespace Flags

/-- Switch the flag of a letter on or off; there is no answer for an unknown letter. -/
def set? (f : Flags) (letter : Char) (value : Bool) : Option Flags :=
  match letter with
  | 'i' => some { f with ignoreCase := value }
  | 'm' => some { f with multiLine := value }
  | 's' => some { f with dotAll := value }
  | 'U' => some { f with swapGreed := value }
  | 'u' => some { f with allScripts := value }
  | 'R' => some { f with returns := value }
  | 'x' => some { f with spaced := value }
  | _ => none

def caseRule (f : Flags) : CaseRule :=
  if !f.ignoreCase then .asWritten else if f.allScripts then .full else .ascii

end Flags

/-- Pass over blanks, and over comments, which run from a hash to the end of the line. -/
def skipIgnored : (comment : Bool) → List Char → List Char
  | _, [] => []
  | true, c :: rest => skipIgnored (c != '\n') rest
  | false, c :: rest =>
    if Text.isBlank c then skipIgnored false rest
    else if c = '#' then skipIgnored true rest
    else c :: rest

def Flags.skip (f : Flags) (cs : List Char) : List Char :=
  if f.spaced then skipIgnored false cs else cs

/-- Read the characters that `isPart` admits, and pass over what has no meaning between and after
them; `part` holds those read so far, the last first. -/
def Flags.readPart (f : Flags) (isPart : Char → Bool) (part : List Char) :
    (comment : Bool) → List Char → List Char × List Char
  | _, [] => (part.reverse, [])
  | comment, c :: rest =>
    if comment then f.readPart isPart part (c != '\n') rest
    else if isPart c then f.readPart isPart (c :: part) false rest
    else if f.spaced && Text.isBlank c then f.readPart isPart part false rest
    else if f.spaced && c == '#' then f.readPart isPart part true rest
    else (part.reverse, c :: rest)

end ScopeLint.Pattern
