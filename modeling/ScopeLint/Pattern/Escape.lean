import ScopeLint.Pattern.Flags
import ScopeLint.Pattern.Node
import ScopeLint.Pattern.Property
import ScopeLint.Text.Hexadecimal

/-!
# Escapes

What may follow a backslash: an escaped sign, a control character, a kind or a property of
characters, a condition on a place, or a character given by its code.  In the other direction,
`escape` writes any text as a pattern that stands for just that text.
-/

namespace ScopeLint.Pattern

/-- A sign with a meaning of its own somewhere in patterns. -/
def isMeta (c : Char) : Bool :=
  ['\\', '.', '+', '*', '?', '(', ')', '|', '[', ']', '\x7b', '\x7d', '^', '$', '#', '&', '-',
    '~'].contains c

/-- The pattern of a literal text. -/
def escapeChars : List Char → List Char
  | [] => []
  | c :: rest => if isMeta c then '\\' :: c :: escapeChars rest else c :: escapeChars rest

def escape (s : String) : String := String.ofList (escapeChars s.toList)

/-- What an escape stands for. -/
inductive Primitive where
  | literal (c : Char)
  | set (s : CharSet)
  | assertion (a : Assertion)
  deriving Repr, DecidableEq

/-- May `c` be escaped to stand for itself?  All of ASCII may, but for letters, digits and the
angle brackets. -/
def isEscapable (c : Char) : Bool :=
  decide (c.toNat < 128) && !c.isAlphanum && c != '<' && c != '>'

def hexNumber? (digits : List Char) : Option Nat :=
  digits.foldlM (fun n c => (Text.hexValue? c).map (n * 16 + ·)) 0

def charOfCode? (n : Nat) : Option Char := if n.isValidChar then some (Char.ofNat n) else none

def isHexDigit (c : Char) : Bool := (Text.hexValue? c).isSome

/-- Read a fixed number of hexadecimal digits; `digits` holds those read so far, the last first. -/
def readFixedCode (f : Flags) (digits : List Char) : Nat → List Char → Option (Char × List Char)
  | 0, cs => ((hexNumber? digits.reverse).bind charOfCode?).map (fun c => (c, cs))
  | _ + 1, [] => none
  | left + 1, c :: rest =>
    if isHexDigit c then readFixedCode f (c :: digits) left (f.skip rest) else none

/-- Read a character code: `width` digits, or any number of digits in braces.  With it comes
whether braces were used. -/
def readCode (f : Flags) (width : Nat) (cs : List Char) : Option (Char × Bool × List Char) :=
  match f.skip cs with
  | '\x7b' :: rest =>
    match f.readPart isHexDigit [] false rest with
    | (digits, '\x7d' :: after) =>
      if digits.isEmpty then none
      else ((hexNumber? digits).bind charOfCode?).map (fun c => (c, true, f.skip after))
    | _ => none
  | cs => (readFixedCode f [] width cs).map (fun (c, rest) => (c, false, rest))

/-- The edges written in braces after a word-boundary escape. -/
def edgeNamed? (name : List Char) : Option WordEdge :=
  if name = "start".toList then some .start
  else if name = "end".toList then some .stop
  else if name = "start-half".toList then some .noWordBefore
  else if name = "end-half".toList then some .noWordAfter
  else none

def Flags.edge (f : Flags) (edge : WordEdge) : Primitive := .assertion (.word edge !f.allScripts)

/-- A word boundary, with an optional name in braces.  Braces that do not hold a name are left
for a repetition. -/
def readBoundary (f : Flags) (cs : List Char) : Option (Primitive × List Char) :=
  match cs with
  | '\x7b' :: rest =>
    match f.readPart (fun c => c.isAlpha || c == '-') [] false rest with
    | ([], []) => none
    | ([], _ :: _) => some (f.edge .boundary, cs)
    | (name, '\x7d' :: after) => (edgeNamed? name).map (fun e => (f.edge e, after))
    | _ => none
  | _ => some (f.edge .boundary, cs)

/-- One of the named kinds of characters.  Within ASCII there are no complements, since they would
hold parts of characters. -/
def Flags.kind (f : Flags) (all ascii : CharKind) (negated : Bool) (rest : List Char) :
    Option (Primitive × List Char) :=
  if f.allScripts then some (.set (CharSet.complIf negated (.kind all)), rest)
  else if negated then none
  else some (.set (.kind ascii), rest)

/-- A property of characters, which is folded before its complement is taken.  Within ASCII there
are no properties. -/
def Flags.property (f : Flags) (negated : Bool) (described : Option (CharSet × Bool))
    (rest : List Char) : Option (Primitive × List Char) :=
  if f.allScripts then
    described.map (fun (set, inverted) =>
      (.set ((set.foldBy f.caseRule).complIf (negated != inverted)), rest))
  else none

/-- Read a property: a name of one letter, or a description in braces. -/
def readProperty (f : Flags) (negated : Bool) (cs : List Char) : Option (Primitive × List Char) :=
  match f.skip cs with
  | [] => none
  | '\x7b' :: rest =>
    let isPart (c : Char) := c != '\x7d' && !(f.spaced && (Text.isBlank c || c == '#'))
    match f.readPart isPart [] false rest with
    | (text, '\x7d' :: after) => f.property negated (Property.described? text) after
    | _ => none
  | c :: rest => f.property negated ((Property.named? [c]).map (·, false)) rest

/-- A character given by a code.  Within ASCII, two digits stand for a byte, and only one below
128 is a character. -/
def readCoded (f : Flags) (width : Nat) (cs : List Char) : Option (Primitive × List Char) :=
  match readCode f width cs with
  | some (c, braced, rest) =>
    if !f.allScripts && width == 2 && !braced && 128 ≤ c.toNat then none
    else some (.literal c, rest)
  | none => none

def readEscape (f : Flags) : List Char → Option (Primitive × List Char)
  | [] => none
  | c :: rest =>
    if isMeta c || isEscapable c then some (.literal c, rest)
    else
      match c with
      | 'd' => f.kind .digit .asciiDigit false rest
      | 'D' => f.kind .digit .asciiDigit true rest
      | 's' => f.kind .space .asciiSpace false rest
      | 'S' => f.kind .space .asciiSpace true rest
      | 'w' => f.kind .word .asciiWord false rest
      | 'W' => f.kind .word .asciiWord true rest
      | 'p' => readProperty f false rest
      | 'P' => readProperty f true rest
      | 'a' => some (.literal '\x07', rest)
      | 'f' => some (.literal '\x0c', rest)
      | 't' => some (.literal '\t', rest)
      | 'n' => some (.literal '\n', rest)
      | 'r' => some (.literal '\r', rest)
      | 'v' => some (.literal '\x0b', rest)
      | 'A' => some (.assertion .textStart, rest)
      | 'z' => some (.assertion .textEnd, rest)
      | 'b' => readBoundary f rest
      | 'B' => some (f.edge .noBoundary, rest)
      | '<' => some (f.edge .start, rest)
      | '>' => some (f.edge .stop, rest)
      | 'x' => readCoded f 2 rest
      | 'u' => readCoded f 4 rest
      | 'U' => readCoded f 8 rest
      | _ => none

end ScopeLint.Pattern
