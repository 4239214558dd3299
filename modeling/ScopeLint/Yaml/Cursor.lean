/-!
# Reading positions in YAML

A cursor is the rest of the text with the place it starts at.  Columns decide where a block ends,
and a key has to end on its line within a number of bytes, so places are kept everywhere.
-/

namespace ScopeLint.Yaml

/-- The characters that end a line, once line ends are unified. -/
def isBreak (c : Char) : Bool := c == '\n' || c.toNat == 0x2028 || c.toNat == 0x2029

/-- Unify line ends: a carriage return, alone or before a line feed, and a next-line sign become
line feeds.  Line and paragraph separators stay, since they are never folded. -/
def unifyBreaksOnto : List Char → List Char → List Char
  | done, [] => done.reverse
  | done, '\r' :: '\n' :: rest => unifyBreaksOnto ('\n' :: done) rest
  | done, c :: rest =>
    unifyBreaksOnto ((if c = '\r' ∨ c.toNat = 0x85 then '\n' else c) :: done) rest

def unifyBreaks (text : List Char) : List Char := unifyBreaksOnto [] text

def isBlank (c : Char) : Bool := c == ' ' || c == '\t'

/-- Does the text end here, or a blank or a line end follow? -/
def endsToken : List Char → Bool
  | [] => true
  | c :: _ => isBlank c || isBreak c

/-- The characters that may stand in a text at all. -/
def isAllowed (c : Char) : Bool :=
  let n := c.toNat
  n == 0x09 || n == 0x0A || n == 0x0D || (0x20 ≤ n && n ≤ 0x7E) || n == 0x85 ||
    (0xA0 ≤ n && n ≤ 0xD7FF) || (0xE000 ≤ n && n ≤ 0xFFFD) || 0x10000 ≤ n

/-- A place in a text: the bytes before it, its line and its column. -/
structure Place where
  offset : Nat := 0
  line : Nat := 0
  column : Nat := 0
  deriving Repr, DecidableEq

def Place.after (p : Place) (c : Char) : Place :=
  if isBreak c then ⟨p.offset + c.utf8Size, p.line + 1, 0⟩
  else ⟨p.offset + c.utf8Size, p.line, p.column + 1⟩

/-- The rest of a text and where it starts. -/
structure Cursor where
  place : Place := {}
  rest : List Char

/-- Pass over the characters at the front that `p` holds for. -/
def passWhile (p : Char → Bool) : Place → List Char → Cursor
  | place, [] => ⟨place, []⟩
  | place, c :: rest => if p c then passWhile p (place.after c) rest else ⟨place, c :: rest⟩

/-- Go on to the next token, past blanks, line ends and comments.  In block context a tab is no
blank where a key may start, and a key may start on every new line; the flag that is given and
returned tells whether one may. -/
def passToToken (flow : Bool) : (mayStartKey inComment : Bool) → Place → List Char → Bool × Cursor
  | mayStartKey, _, place, [] => (mayStartKey, ⟨place, []⟩)
  | mayStartKey, inComment, place, c :: rest =>
    if isBreak c then passToToken flow (mayStartKey || !flow) false (place.after c) rest
    else if inComment ∨ c = '#' then passToToken flow mayStartKey true (place.after c) rest
    else if c = ' ' ∨ (c = '\t' ∧ (flow ∨ !mayStartKey)) then
      passToToken flow mayStartKey false (place.after c) rest
    else (mayStartKey, ⟨place, c :: rest⟩)

namespace Cursor

/-- The start of a text; a byte order mark is passed over. -/
def start (text : List Char) : Cursor :=
  match text with
  | '\ufeff' :: rest => ⟨Place.after {} '\ufeff', rest⟩
  | _ => ⟨{}, text⟩

def next (c : Cursor) : Cursor :=
  match c.rest with
  | [] => c
  | ch :: rest => ⟨c.place.after ch, rest⟩

/-- Pass over all characters at the front that `p` holds for. -/
def skip (p : Char → Bool) (c : Cursor) : Cursor := passWhile p c.place c.rest

/-- Pass over the rest of a line that may hold blanks and a comment only, and over its end. -/
def skipLine? (c : Cursor) : Option Cursor :=
  let here := c.skip isBlank
  let here := if here.rest.head? = some '#' then here.skip (fun ch => !isBreak ch) else here
  match here.rest with
  | [] => some here
  | ch :: _ => if isBreak ch then some here.next else none

/-- Does a document marker of this sign stand here? -/
def atMarkerOf (sign : Char) (c : Cursor) : Bool :=
  c.place.column == 0 && c.rest.take 3 == [sign, sign, sign] && endsToken (c.rest.drop 3)

def atMarker (c : Cursor) : Bool := c.atMarkerOf '-' || c.atMarkerOf '.'

end Cursor

end ScopeLint.Yaml
