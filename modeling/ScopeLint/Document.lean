import ScopeLint.Error
import ScopeLint.Text.Blank
import ScopeLint.Text.Split

/-!
# Documents

A document is a text that can be addressed by row and column.  Rows end at a line feed; one
carriage return before it, or at the end of the text, belongs to the line end and is no
character of the line.  A position is in the document when its row exists and its column is at
most the length of that line, so every line end is a place too.  Byte offsets count the UTF-8
form of the text.
-/

namespace ScopeLint

/-- Drop one carriage return at the end. -/
def dropReturn (line : List Char) : List Char :=
  if line.getLast? = some '\r' then line.dropLast else line

/-- The lines of a text, without their line ends. -/
def linesOf (chars : Array Char) : Array (Array Char) :=
  ((Text.splitAt '\n' chars.toList).map (fun line => (dropReturn line).toArray)).toArray

/-- A text together with its lines. -/
structure Document where
  chars : Array Char
  lines : Array (Array Char) := linesOf chars
  lines_eq : lines = linesOf chars := by rfl

namespace Document

def ofString (text : String) : Document := { chars := text.toList.toArray }

def text (d : Document) : String := String.ofList d.chars.toList

/-- The number of lines; the empty text has one. -/
def lineCount (d : Document) : Nat := d.lines.size

/-- The characters of a line without its line end. -/
def line? (d : Document) (row : Nat) : Option (Array Char) := d.lines[row]?

def lineLength? (d : Document) (row : Nat) : Option Nat := (d.line? row).map (·.size)

/-- Is the position a character of the document or the end of one of its lines? -/
def contains (d : Document) (p : Position) : Bool :=
  match d.lineLength? p.row with
  | some length => decide (p.column ≤ length)
  | none => false

def outside (d : Document) (p : Position) : LintError := .positionOutOfRange p d.lineCount

/-- Refuse a position outside the document. -/
def check (d : Document) (p : Position) : Except LintError Unit :=
  if d.contains p then .ok () else .error (d.outside p)

/-- Refuse a span with an end outside the document, the start first, or with its ends in the
wrong order. -/
def checkSpan (d : Document) (s : Span) : Except LintError Span := do
  d.check s.start
  d.check s.stop
  if s.stop < s.start then .error (.reversedSpan s) else .ok s

/-- Walk `bytes` bytes on from `p`.  There is no answer inside a character; beyond the text the
walk stays at its end. -/
def walk (p : Position) : Nat → List Char → Option Position
  | 0, _ => some p
  | _ + 1, [] => some p
  | bytes + 1, c :: rest =>
    if c.utf8Size ≤ bytes + 1 then walk (p.step c) (bytes + 1 - c.utf8Size) rest else none

/-- The position of a byte offset; none when the offset lies inside a character. -/
def positionAt? (d : Document) (offset : Nat) : Option Position :=
  walk Position.origin offset d.chars.toList

/-- The number of bytes walked from `here` until `target` is reached. -/
def bytesUntil (target : Position) (here : Position) (offset : Nat) : List Char → Nat
  | [] => offset
  | c :: rest =>
    if here = target then offset else bytesUntil target (here.step c) (offset + c.utf8Size) rest

def offsetOf (d : Document) (p : Position) : Except LintError Nat :=
  if d.contains p then .ok (bytesUntil p Position.origin 0 d.chars.toList)
  else .error (d.outside p)

/-- Leave out the characters of the first `bytes` bytes. -/
def dropBytes : Nat → List Char → List Char
  | 0, cs => cs
  | _ + 1, [] => []
  | bytes + 1, c :: rest => dropBytes (bytes + 1 - c.utf8Size) rest

/-- The characters of the first `bytes` bytes. -/
def takeBytes : Nat → List Char → List Char
  | 0, _ => []
  | _ + 1, [] => []
  | bytes + 1, c :: rest => c :: takeBytes (bytes + 1 - c.utf8Size) rest

/-- The text between two byte offsets. -/
def slice (d : Document) (first last : Nat) : String :=
  String.ofList (takeBytes (last - first) (dropBytes first d.chars.toList))

/-- The text of a span.  Both ends have to be in the document; where they are in the wrong
order there is no text. -/
def textIn (d : Document) (s : Span) : Except LintError (Option String) := do
  let first ← d.offsetOf s.start
  let last ← d.offsetOf s.stop
  if last < first then .ok none else .ok (some (d.slice first last))

/-- The character at a position, unless it is a line end. -/
def charAt? (d : Document) (p : Position) : Option Char :=
  match d.line? p.row with
  | some chars => chars[p.column]?
  | none => none

/-- The extent of a highlight that starts at a bare row and column: the run of visible
characters there, or else the rest of the line, which in column 0 starts at the first visible
character. -/
def inferSpan (d : Document) (row column : Nat) : Except LintError Span :=
  match d.line? row with
  | none => .error (d.outside ⟨row, column⟩)
  | some line =>
    if line.size < column then .error (d.outside ⟨row, column⟩)
    else
      let visible := ((line.toList.drop column).takeWhile (fun c => !Text.isBlank c)).length
      if 0 < visible then .ok (Span.onRow row column (column + visible))
      else
        let first := if column = 0 then (line.toList.takeWhile Text.isBlank).length else column
        .ok (Span.onRow row first line.size)

end Document

end ScopeLint
