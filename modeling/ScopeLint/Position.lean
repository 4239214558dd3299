/-!
# Places in a text

A position is a row and a column, both counted from zero; columns count characters.  A span is
a pair of positions, the second one excluded.  Positions are ordered by row, then by column.
Spans are plain pairs: that the ends are in order is checked where a document is at hand.
-/

namespace ScopeLint

structure Position where
  row : Nat
  column : Nat
  deriving Repr, DecidableEq, Inhabited

namespace Position

instance : LT Position := ⟨fun a b => a.row < b.row ∨ (a.row = b.row ∧ a.column < b.column)⟩

instance : LE Position := ⟨fun a b => a.row < b.row ∨ (a.row = b.row ∧ a.column ≤ b.column)⟩

instance (a b : Position) : Decidable (a < b) :=
  inferInstanceAs (Decidable (a.row < b.row ∨ (a.row = b.row ∧ a.column < b.column)))

instance (a b : Position) : Decidable (a ≤ b) :=
  inferInstanceAs (Decidable (a.row < b.row ∨ (a.row = b.row ∧ a.column ≤ b.column)))

instance : Ord Position :=
  ⟨fun a b => (compare a.row b.row).then (compare a.column b.column)⟩

theorem lt_def {a b : Position} :
    a < b ↔ a.row < b.row ∨ (a.row = b.row ∧ a.column < b.column) := Iff.rfl

theorem le_def {a b : Position} :
    a ≤ b ↔ a.row < b.row ∨ (a.row = b.row ∧ a.column ≤ b.column) := Iff.rfl

def origin : Position := ⟨0, 0⟩

/-- The position after reading `c`: a line feed starts the next row. -/
def step (p : Position) (c : Char) : Position :=
  if c = '\n' then ⟨p.row + 1, 0⟩ else ⟨p.row, p.column + 1⟩

/-- Row and column with a colon between. -/
def text (p : Position) : String := s!"{p.row}:{p.column}"

end Position

/-- The places from `start` up to, and without, `stop`. -/
structure Span where
  start : Position
  stop : Position
  deriving Repr, DecidableEq, Inhabited

namespace Span

def onRow (row first last : Nat) : Span := ⟨⟨row, first⟩, ⟨row, last⟩⟩

def charAt (p : Position) : Span := onRow p.row p.column (p.column + 1)

def emptyAt (p : Position) : Span := ⟨p, p⟩

def isEmpty (s : Span) : Bool := s.start == s.stop

def contains (s : Span) (p : Position) : Bool := decide (s.start ≤ p) && decide (p < s.stop)

/-- Both ends with a dash between. -/
def text (s : Span) : String := s!"{s.start.text}-{s.stop.text}"

end Span

end ScopeLint
