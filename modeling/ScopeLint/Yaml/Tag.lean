import ScopeLint.Yaml
import ScopeLint.Yaml.Scalar

/-!
# Anchors, tags and handles

The names of anchors, and tags: a handle and a suffix, a suffix alone, or a whole tag between
angle brackets.  Escapes in a tag write the bytes of a character one by one.
-/

namespace ScopeLint.Yaml

def isNameChar (c : Char) : Bool := c.isAlphanum || c == '_' || c == '-'

/-- The name at a cursor, perhaps empty, and what follows it. -/
def readName (c : Cursor) : List Char × Cursor := (c.rest.takeWhile isNameChar, c.skip isNameChar)

/-- The signs that may stand right after the name of an anchor. -/
def nameEnds : List Char := ['?', ':', ',', ']', '\x7d', '%', '@', '\x60']

/-- Read the name of an anchor, after its sign. -/
def readAnchor? (c : Cursor) : Option (List Char × Cursor) :=
  let (name, after) := readName c
  if !name.isEmpty ∧ (endsToken after.rest ∨ after.rest.head?.any nameEnds.contains) then
    some (name, after)
  else none

/-- The characters of tags.  A `wide` tag is delimited, so that flow signs may stand in it. -/
def isTagChar (wide : Bool) (c : Char) : Bool :=
  isNameChar c || ";/?:@&=+$.%!~*\x27()".toList.contains c || (wide && [',', '[', ']'].contains c)

/-- An escaped character of which more bytes have to come. -/
structure Octets where
  left : Nat
  width : Nat
  value : Nat

namespace Octets

def first? (byte : Nat) : Option Octets :=
  if byte < 0x80 then some ⟨0, 1, byte⟩
  else if byte < 0xC0 then none
  else if byte < 0xE0 then some ⟨1, 2, byte - 0xC0⟩
  else if byte < 0xF0 then some ⟨2, 3, byte - 0xE0⟩
  else if byte < 0xF8 then some ⟨3, 4, byte - 0xF0⟩
  else none

def next? (o : Octets) (byte : Nat) : Option Octets :=
  if 0x80 ≤ byte ∧ byte < 0xC0 then some ⟨o.left - 1, o.width, o.value * 64 + (byte - 0x80)⟩
  else none

/-- The least character that needs so many bytes. -/
def least (width : Nat) : Nat :=
  match width with
  | 2 => 0x80
  | 3 => 0x800
  | 4 => 0x10000
  | _ => 0

/-- The character, if these bytes make one. -/
def char? (o : Octets) : Option Char :=
  if least o.width ≤ o.value ∧ o.value.isValidChar then some (Char.ofNat o.value) else none

end Octets

/-- Read the characters of a tag, the last first in `done`, while an escaped character may wait
for more bytes. -/
def readTagChars? (wide : Bool) (done : Tag) (octets : Option Octets) :
    Place → List Char → Option (Tag × Cursor)
  | place, [] => if octets.isSome then none else some (done.reverse, ⟨place, []⟩)
  | place, '%' :: a :: b :: rest => do
    let byte := (← Text.hexValue? a) * 16 + (← Text.hexValue? b)
    let octets ← match octets with
      | some o => o.next? byte
      | none => Octets.first? byte
    let place := ((place.after '%').after a).after b
    if octets.left = 0 then readTagChars? wide (octets.char? :: done) none place rest
    else readTagChars? wide done (some octets) place rest
  | place, c :: rest =>
    if octets.isSome ∨ c = '%' then none
    else if isTagChar wide c then readTagChars? wide (some c :: done) none (place.after c) rest
    else some (done.reverse, ⟨place, c :: rest⟩)

/-- Read the characters of a tag.  A zero character ends the tag, though more may be read. -/
def readTagText? (wide : Bool) (c : Cursor) : Option (Tag × Cursor) :=
  (readTagChars? wide [] none c.place c.rest).map
    (fun (tag, after) => (tag.takeWhile (· != some '\x00'), after))

/-- Read the characters of a tag, of which there has to be one. -/
def readSomeTagText? (wide : Bool) (c : Cursor) : Option (Tag × Cursor) :=
  if c.rest.head?.any (isTagChar wide) then readTagText? wide c else none

/-- Read a handle: an exclamation mark, and a name with another one, if there are such. -/
def readHandle (c : Cursor) : List Char × Cursor :=
  let (name, after) := readName c.next
  if after.rest.head? = some '!' then ('!' :: name ++ ['!'], after.next) else ('!' :: name, after)

/-- Is it a handle with a name, or a double one? -/
def isFullHandle (handle : List Char) : Bool := 1 < handle.length && handle.getLast? == some '!'

/-- Read a tag as its handle and its suffix.  A whole tag has no handle, and an exclamation mark
alone is a whole tag. -/
def readTagParts? (c : Cursor) : Option (List Char × Tag × Cursor) := do
  if c.next.rest.head? = some '<' then
    let (tag, after) ← readSomeTagText? true c.next.next
    if after.rest.head? = some '>' then return ([], tag, after.next) else none
  else
    let (handle, after) := readHandle c
    if isFullHandle handle then
      let (suffix, after) ← readSomeTagText? false after
      return (handle, suffix, after)
    else
      let (suffix, after) ← readTagText? false after
      match handle.tail.map some ++ suffix with
      | [] => return ([], [some '!'], after)
      | suffix => return (['!'], suffix, after)

/-- Read a tag, after which a blank has to come, or in flow context a comma. -/
def readTag? (flow : Bool) (c : Cursor) : Option (List Char × Tag × Cursor) := do
  let (handle, suffix, after) ← readTagParts? c
  if endsToken after.rest ∨ (flow ∧ after.rest.head? = some ',') then
    return (handle, suffix, after)
  else none

end ScopeLint.Yaml
