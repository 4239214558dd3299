import ScopeLint.Yaml.Cursor

/-!
# Scalars of whole lines

Literal scalars keep their line ends, folded ones turn a single line end between two lines of text
into a blank.  The header may give the depth of the indentation and what becomes of the line ends
at the end: by default one is kept, `-` drops and `+` keeps all.
-/

namespace ScopeLint.Yaml

/-- What becomes of the line ends at the end of a scalar. -/
inductive Chomping where
  | drop
  | one
  | all

structure BlockHeader where
  chomping : Chomping := .one
  /-- The depth of the indentation; zero if it is that of the text. -/
  depth : Nat := 0

def chomping? (c : Char) : Option Chomping :=
  if c = '+' then some .all else if c = '-' then some .drop else none

/-- The depth a digit gives; zero is none. -/
def depth? (c : Char) : Option Nat :=
  if '1' ≤ c ∧ c ≤ '9' then some (c.toNat - 48) else none

/-- Read a header: a chomping sign and a digit, either or both, in any order. -/
def readHeader (c : Cursor) : BlockHeader × Cursor :=
  match c.rest.head?.bind chomping? with
  | some chomping =>
    match c.next.rest.head?.bind depth? with
    | some depth => (⟨chomping, depth⟩, c.next.next)
    | none => (⟨chomping, 0⟩, c.next)
  | none =>
    match c.rest.head?.bind depth? with
    | some depth =>
      match c.next.rest.head?.bind chomping? with
      | some chomping => (⟨chomping, depth⟩, c.next.next)
      | none => (⟨.one, depth⟩, c.next)
    | none => ({}, c)

/-- The lines without text before a scalar. -/
structure Margin where
  /-- The line ends, the last first. -/
  breaks : List Char := []
  /-- The widest line so far. -/
  width : Nat := 0
  after : Cursor

/-- Read the lines without text before a scalar.  No tab may stand in their indentation. -/
def readMargin? (breaks : List Char) (width : Nat) : Place → List Char → Option Margin
  | place, [] => some ⟨breaks, max width place.column, ⟨place, []⟩⟩
  | place, c :: rest =>
    if isBreak c then readMargin? (c :: breaks) (max width place.column) (place.after c) rest
    else if c = ' ' then readMargin? breaks width (place.after c) rest
    else if c = '\t' then none
    else some ⟨breaks, max width place.column, ⟨place, c :: rest⟩⟩

/-- The text of a scalar so far. -/
structure BlockText where
  out : List Char := []
  /-- The line end after the last line of text. -/
  lastBreak : Option Char := none
  /-- The line ends of the lines without text after it, the last first. -/
  laterBreaks : List Char := []
  /-- Does the last line of text start with a blank? -/
  startsBlank : Bool := false

namespace BlockText

/-- Start a line of text with `c`.  Between two lines that start with no blank, a folded scalar
has a blank for a single line end, and drops the first of several. -/
def startLine (folded : Bool) (t : BlockText) (c : Char) : BlockText :=
  let between : List Char :=
    match t.lastBreak with
    | none => []
    | some b =>
      if folded ∧ b = '\n' ∧ !t.startsBlank ∧ !isBlank c then
        if t.laterBreaks.isEmpty then [' '] else []
      else [b]
  { out := c :: (t.laterBreaks ++ between ++ t.out), startsBlank := isBlank c }

def finish (chomping : Chomping) (t : BlockText) : String :=
  let last := t.lastBreak.toList
  let out := match chomping with
    | .drop => t.out
    | .one => last ++ t.out
    | .all => t.laterBreaks ++ last ++ t.out
  String.ofList out.reverse

end BlockText

/-- Read the lines of a scalar that are indented to `column`, up to the first that is not.
`inLine` tells whether a line of text has begun. -/
def readLines? (folded : Bool) (column : Nat) (t : BlockText) :
    (inLine : Bool) → Place → List Char → Option (BlockText × Cursor)
  | _, place, [] => some (t, ⟨place, []⟩)
  | true, place, c :: rest =>
    if isBreak c then
      readLines? folded column { t with lastBreak := some c } false (place.after c) rest
    else readLines? folded column { t with out := c :: t.out } true (place.after c) rest
  | false, place, c :: rest =>
    if isBreak c then
      readLines? folded column { t with laterBreaks := c :: t.laterBreaks } false (place.after c)
        rest
    else if place.column < column ∧ c = ' ' then
      readLines? folded column t false (place.after c) rest
    else if place.column < column ∧ c = '\t' then none
    else if place.column = column then
      readLines? folded column (t.startLine folded c) true (place.after c) rest
    else some (t, ⟨place, c :: rest⟩)

/-- Read a scalar of whole lines, after its sign, inside a block in column `outer?`. -/
def readBlockScalar? (folded : Bool) (outer? : Option Nat) (c : Cursor) :
    Option (String × Cursor) := do
  let (header, c) := readHeader c
  let c ← c.skipLine?
  let (t, after) ←
    if header.depth = 0 then
      let margin ← readMargin? [] 0 c.place c.rest
      let column := max margin.width (max 1 (outer?.elim 0 (· + 1)))
      readLines? folded column { laterBreaks := margin.breaks } false margin.after.place
        margin.after.rest
    else readLines? folded (outer?.getD 0 + header.depth) {} false c.place c.rest
  return (t.finish header.chomping, after)

end ScopeLint.Yaml
