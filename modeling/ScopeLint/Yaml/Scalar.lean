import ScopeLint.Text.Hexadecimal
import ScopeLint.Yaml.Cursor

/-!
# Scalars within lines

Plain scalars, and scalars in single and double quotes.  All of them may run over several lines:
a single line end becomes a blank, and of several line ends all but the first are kept.  A first
line end that is a line or paragraph separator is kept too.
-/

namespace ScopeLint.Yaml

/-- The text read so far, the last character first, and the gap after it. -/
structure Folding where
  out : List Char := []
  /-- The blanks of the gap, as long as it is on one line. -/
  blanks : List Char := []
  /-- Does the gap reach a new line? -/
  newLine : Bool := false
  /-- The line end that led to the new line, unless it was escaped. -/
  firstBreak : Option Char := none
  /-- The line ends after it, the last first. -/
  laterBreaks : List Char := []

namespace Folding

def close (f : Folding) : Folding :=
  if f.newLine then
    match f.firstBreak, f.laterBreaks with
    | some '\n', [] => { out := ' ' :: f.out }
    | some '\n', later => { out := later ++ f.out }
    | some c, later => { out := later ++ c :: f.out }
    | none, later => { out := later ++ f.out }
  else { out := f.blanks ++ f.out }

/-- Add a character after the gap. -/
def push (f : Folding) (c : Char) : Folding := { out := c :: f.close.out }

/-- Widen the gap by a blank; blanks at the start of a line do not count. -/
def blank (f : Folding) (c : Char) : Folding :=
  if f.newLine then f else { f with blanks := c :: f.blanks }

def newline (f : Folding) (c : Char) : Folding :=
  if f.newLine then { f with laterBreaks := c :: f.laterBreaks }
  else { f with blanks := [], newLine := true, firstBreak := some c }

/-- Widen the gap by an escaped line end, which leaves nothing behind. -/
def join (f : Folding) : Folding := { out := f.close.out, newLine := true }

def inGap (f : Folding) : Bool := f.newLine || !f.blanks.isEmpty

def text (f : Folding) : String := String.ofList f.out.reverse

end Folding

/-- The signs of flow collections. -/
def flowSigns : List Char := [',', '[', ']', '\x7b', '\x7d']

structure PlainScalar where
  text : String
  /-- Was the end found on a later line? -/
  onNewLine : Bool
  after : Cursor

/-- Read a plain scalar.  It ends at a comment, at a document marker, at a colon before a blank, in
flow context at a flow sign, and in block context on a line that is not indented to `least`. -/
def readPlain? (flow : Bool) (least : Nat) (f : Folding) : Place → List Char → Option PlainScalar
  | place, [] => some ⟨f.text, f.newLine, ⟨place, []⟩⟩
  | place, c :: rest =>
    if isBreak c then readPlain? flow least (f.newline c) (place.after c) rest
    else if isBlank c then
      if c = '\t' ∧ f.newLine ∧ place.column < least then none
      else readPlain? flow least (f.blank c) (place.after c) rest
    else
      let here : Cursor := ⟨place, c :: rest⟩
      let ended : PlainScalar := ⟨f.text, f.newLine, here⟩
      if f.inGap ∧ ((!flow ∧ place.column < least) ∨ here.atMarker ∨ c = '#') then some ended
      else if flow ∧ c = ':' ∧ rest.head?.any ('?' :: flowSigns).contains then none
      else if (c = ':' ∧ endsToken rest) ∨ (flow ∧ flowSigns.contains c) then some ended
      else readPlain? flow least (f.push c) (place.after c) rest

/-- Read a scalar in single quotes, after the first one. -/
def readSingle? (f : Folding) : Place → List Char → Option (String × Cursor)
  | _, [] => none
  | place, '\x27' :: '\x27' :: rest =>
    readSingle? (f.push '\x27') ((place.after '\x27').after '\x27') rest
  | place, '\x27' :: rest => some (f.close.text, ⟨place.after '\x27', rest⟩)
  | place, c :: rest =>
    if isBreak c then readSingle? (f.newline c) (place.after c) rest
    else if isBlank c then readSingle? (f.blank c) (place.after c) rest
    else if Cursor.atMarker ⟨place, c :: rest⟩ then none
    else readSingle? (f.push c) (place.after c) rest

/-- The characters of one-letter escapes. -/
def escaped? (c : Char) : Option Char :=
  match c with
  | '0' => some '\x00'
  | 'a' => some '\x07'
  | 'b' => some '\x08'
  | 't' => some '\t'
  | '\t' => some '\t'
  | 'n' => some '\n'
  | 'v' => some '\x0b'
  | 'f' => some '\x0c'
  | 'r' => some '\r'
  | 'e' => some '\x1b'
  | ' ' => some ' '
  | '\x22' => some '\x22'
  | '/' => some '/'
  | '\\' => some '\\'
  | 'N' => some (Char.ofNat 0x85)
  | '_' => some (Char.ofNat 0xA0)
  | 'L' => some (Char.ofNat 0x2028)
  | 'P' => some (Char.ofNat 0x2029)
  | _ => none

/-- The number of digits of a code escape. -/
def codeWidth? (c : Char) : Option Nat :=
  match c with
  | 'x' => some 2
  | 'u' => some 4
  | 'U' => some 8
  | _ => none

/-- A pending escape: none, a backslash, or a code with digits to come. -/
inductive Escape where
  | none
  | backslash
  | code (digits value : Nat)

/-- Read a scalar in double quotes, after the first one. -/
def readDouble? (f : Folding) (escape : Escape) : Place → List Char → Option (String × Cursor)
  | _, [] => Option.none
  | place, c :: rest =>
    match escape with
    | .code digits value =>
      match Text.hexValue? c with
      | Option.none => Option.none
      | some digit =>
        let value := value * 16 + digit
        match digits with
        | left + 2 => readDouble? f (.code (left + 1) value) (place.after c) rest
        | _ =>
          if value.isValidChar then
            readDouble? (f.push (Char.ofNat value)) .none (place.after c) rest
          else Option.none
    | .backslash =>
      if isBreak c then readDouble? f.join .none (place.after c) rest
      else
        match codeWidth? c with
        | some width => readDouble? f (.code width 0) (place.after c) rest
        | Option.none =>
          match escaped? c with
          | some e => readDouble? (f.push e) .none (place.after c) rest
          | Option.none => Option.none
    | .none =>
      if c = '\x22' then some (f.close.text, ⟨place.after c, rest⟩)
      else if isBreak c then readDouble? (f.newline c) .none (place.after c) rest
      else if isBlank c then readDouble? (f.blank c) .none (place.after c) rest
      else if Cursor.atMarker ⟨place, c :: rest⟩ then Option.none
      else if c = '\\' then readDouble? f .backslash (place.after c) rest
      else readDouble? (f.push c) .none (place.after c) rest

/-- The signs that no plain scalar starts with. -/
def signs : List Char :=
  flowSigns ++ ['#', '&', '*', '!', '|', '>', '\x27', '\x22', '%', '@', '\x60']

/-- May a plain scalar start here? -/
def startsPlain (flow : Bool) : List Char → Bool
  | [] => false
  | c :: rest =>
    if c = '-' then !endsToken rest
    else if c = '?' ∨ c = ':' then !flow && !endsToken rest
    else !isBlank c && !isBreak c && !signs.contains c

end ScopeLint.Yaml
