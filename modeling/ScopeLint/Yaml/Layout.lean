import ScopeLint.Yaml.Cursor
import ScopeLint.Yaml.Token

/-!
# Indentation and keys

Two things in a YAML text are known only later or from the columns: where a block ends, and that
what has been read is a key, because a colon follows.  A `Layout` keeps the tokens so far with the
columns of the open blocks and the places where a key may have started.
-/

namespace ScopeLint.Yaml

/-- A place where a key may have started. -/
structure PendingKey where
  /-- The number of tokens before it. -/
  position : Nat
  /-- Has the block no other way to go on here? -/
  needed : Bool
  place : Place
  deriving Repr

/-- The most bytes between the start of a key and its colon. -/
def keyLimit : Nat := 1024

/-- Is it too late for the colon of the key?  It has to come on the same line and soon. -/
def PendingKey.isOver (k : PendingKey) (place : Place) : Bool :=
  k.place.line < place.line || k.place.offset + keyLimit < place.offset

/-- The tokens of a text so far, and what is open. -/
structure Layout where
  /-- The tokens, the last first. -/
  tokens : List Token := []
  /-- The number of tokens. -/
  size : Nat := 0
  /-- The columns of the open blocks, the innermost first. -/
  columns : List Nat := []
  /-- May a key start at the next token? -/
  mayStartKey : Bool := true
  /-- The key that may have started outside all flow collections. -/
  blockKey : Option PendingKey := none
  /-- The keys that may have started in the open flow collections, the innermost first. -/
  flowKeys : List (Option PendingKey) := []

namespace Layout

def inFlow (l : Layout) : Bool := !l.flowKeys.isEmpty

def column? (l : Layout) : Option Nat := l.columns.head?

/-- The least column of what lies inside the innermost block. -/
def leastColumn (l : Layout) : Nat := l.column?.elim 0 (· + 1)

def push (l : Layout) (t : Token) : Layout := { l with tokens := t :: l.tokens, size := l.size + 1 }

/-- Put tokens in where `position` tokens were there before. -/
def insert (l : Layout) (position : Nat) (ts : List Token) : Layout :=
  let later := l.size - position
  { l with
    tokens := l.tokens.take later ++ ts.reverse ++ l.tokens.drop later
    size := l.size + ts.length }

/-- The columns of the blocks that go on in a column, and how many end there. -/
def leaveColumns (column : Nat) : List Nat → Nat → List Nat × Nat
  | [], ended => ([], ended)
  | c :: rest, ended =>
    if column < c then leaveColumns column rest (ended + 1) else (c :: rest, ended)

def endBlocks (l : Layout) : Nat → Layout
  | 0 => l
  | count + 1 => (l.push .blockEnd).endBlocks count

/-- End the blocks that do not reach to a column.  In flow context indentation has no meaning. -/
def leaveBlocks (l : Layout) (column : Nat) : Layout :=
  if l.inFlow then l
  else
    let (columns, ended) := leaveColumns column l.columns 0
    { l with columns }.endBlocks ended

def leaveAllBlocks (l : Layout) : Layout :=
  if l.inFlow then l else { l with columns := [] }.endBlocks l.columns.length

/-- Does a token in this column start a new block? -/
def startsBlock (l : Layout) (column : Nat) : Bool := !l.inFlow && l.leastColumn ≤ column

/-- Start a block at the next token, unless one is open in its column. -/
def enterBlock (l : Layout) (column : Nat) (t : Token) : Layout :=
  if l.startsBlock column then { l.push t with columns := column :: l.columns } else l

/-- The key that may have started in the innermost collection. -/
def pendingKey? (l : Layout) : Option PendingKey :=
  match l.flowKeys with
  | [] => l.blockKey
  | k :: _ => k

/-- Change the key that may have started in the innermost collection. -/
def setKey (l : Layout) (k : Option PendingKey) : Layout :=
  match l.flowKeys with
  | [] => { l with blockKey := k }
  | _ :: rest => { l with flowKeys := k :: rest }

/-- Give up the key that may have started in the innermost collection. -/
def dropKey? (l : Layout) : Option Layout :=
  if l.pendingKey?.any PendingKey.needed then none else some (l.setKey none)

/-- Note that a key may start here, if one may. -/
def noteKey? (l : Layout) (place : Place) : Option Layout := do
  if l.mayStartKey then
    let needed := !l.inFlow && l.column? == some place.column
    return (← l.dropKey?).setKey (some ⟨l.size, needed, place⟩)
  else return l

/-- Is a key missing that was needed? -/
def lacksKey (l : Layout) (place : Place) : Bool :=
  l.blockKey.any (fun k => k.needed && k.isOver place)

/-- Take what was read from a pending key on for a key, which may start a block. -/
def confirmKey (l : Layout) (k : PendingKey) : Layout :=
  let column := k.place.column
  let l' := (l.setKey none).insert k.position
    (if l.startsBlock column then [.blockMapping, .key] else [.key])
  { l' with columns := if l.startsBlock column then column :: l.columns else l.columns }

end Layout

end ScopeLint.Yaml
