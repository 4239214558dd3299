import ScopeLint.Yaml.BlockScalar
import ScopeLint.Yaml.Directive
import ScopeLint.Yaml.Layout

/-!
# Reading YAML tokens

One token after the other, with the layout that it leads to.  Every step passes over a character,
so the length of the text bounds the number of steps.
-/

namespace ScopeLint.Yaml

namespace Layout

def enterFlow? (l : Layout) (t : Token) (c : Cursor) : Option (Layout × Cursor) := do
  let l ← l.noteKey? c.place
  return ({ l.push t with flowKeys := none :: l.flowKeys, mayStartKey := true }, c.next)

def leaveFlow? (l : Layout) (t : Token) (c : Cursor) : Option (Layout × Cursor) := do
  let l ← l.dropKey?
  return ({ l.push t with flowKeys := l.flowKeys.tail, mayStartKey := false }, c.next)

/-- The comma between the entries of a flow collection. -/
def readComma? (l : Layout) (c : Cursor) : Option (Layout × Cursor) := do
  return ({ (← l.dropKey?).push .comma with mayStartKey := true }, c.next)

/-- The sign of an item of a block sequence. -/
def readItem? (l : Layout) (c : Cursor) : Option (Layout × Cursor) := do
  if !l.inFlow ∧ !l.mayStartKey then none
  let l ← (l.enterBlock c.place.column .blockSequence).dropKey?
  return ({ l.push .item with mayStartKey := true }, c.next)

/-- The sign of a key of any kind. -/
def readKeySign? (l : Layout) (c : Cursor) : Option (Layout × Cursor) := do
  if !l.inFlow ∧ !l.mayStartKey then none
  let l ← (l.enterBlock c.place.column .blockMapping).dropKey?
  return ({ l.push .key with mayStartKey := !l.inFlow }, c.next)

/-- The colon before a value: it makes a key of what stands before it, or follows a key with a
sign, or no key at all. -/
def readColon? (l : Layout) (c : Cursor) : Option (Layout × Cursor) := do
  match l.pendingKey?.filter (fun k => !k.isOver c.place) with
  | some k => return ({ (l.confirmKey k).push .value with mayStartKey := false }, c.next)
  | none =>
    if !l.inFlow ∧ !l.mayStartKey then none
    let l := (l.setKey none).enterBlock c.place.column .blockMapping
    return ({ l.push .value with mayStartKey := !l.inFlow }, c.next)

def readMarker? (l : Layout) (t : Token) (c : Cursor) : Option (Layout × Cursor) := do
  let l ← l.leaveAllBlocks.dropKey?
  return ({ l.push t with mayStartKey := false }, c.next.next.next)

def readDirective? (l : Layout) (c : Cursor) : Option (Layout × Cursor) := do
  let l ← l.leaveAllBlocks.dropKey?
  let (t, after) ← Yaml.readDirective? c.next
  return ({ l.push t with mayStartKey := false }, after)

/-- The name of an anchored node, where it is anchored or referred to. -/
def readName? (l : Layout) (token : List Char → Token) (c : Cursor) : Option (Layout × Cursor) := do
  let l ← l.noteKey? c.place
  let (name, after) ← readAnchor? c.next
  return ({ l.push (token name) with mayStartKey := false }, after)

def readTag? (l : Layout) (c : Cursor) : Option (Layout × Cursor) := do
  let l ← l.noteKey? c.place
  let (handle, suffix, after) ← Yaml.readTag? l.inFlow c
  return ({ l.push (.tag handle suffix) with mayStartKey := false }, after)

def readLines? (l : Layout) (style : ScalarStyle) (c : Cursor) : Option (Layout × Cursor) := do
  let l ← l.dropKey?
  let (text, after) ← readBlockScalar? (style == .folded) l.column? c.next
  return ({ l.push (.scalar style text) with mayStartKey := true }, after)

/-- A scalar in quotes, read by `read?` after the first one. -/
def readQuoted? (l : Layout) (read? : Place → List Char → Option (String × Cursor)) (c : Cursor) :
    Option (Layout × Cursor) := do
  let l ← l.noteKey? c.place
  let (text, after) ← read? c.next.place c.next.rest
  return ({ l.push (.scalar .quoted text) with mayStartKey := false }, after)

def readPlain? (l : Layout) (c : Cursor) : Option (Layout × Cursor) := do
  let l ← l.noteKey? c.place
  let scalar ← Yaml.readPlain? l.inFlow l.leastColumn {} c.place c.rest
  return ({ l.push (.scalar .plain scalar.text) with mayStartKey := scalar.onNewLine },
    scalar.after)

/-- Read the token at the cursor, which starts with `first` before `rest`. -/
def readToken? (l : Layout) (c : Cursor) (first : Char) (rest : List Char) :
    Option (Layout × Cursor) :=
  if c.place.column = 0 ∧ first = '%' then l.readDirective? c
  else if c.atMarkerOf '-' then l.readMarker? .documentStart c
  else if c.atMarkerOf '.' then l.readMarker? .documentEnd c
  else if first = '[' then l.enterFlow? .openBracket c
  else if first = '\x7b' then l.enterFlow? .openBrace c
  else if first = ']' then l.leaveFlow? .closeBracket c
  else if first = '\x7d' then l.leaveFlow? .closeBrace c
  else if first = ',' then l.readComma? c
  else if first = '-' ∧ endsToken rest then l.readItem? c
  else if first = '?' ∧ (l.inFlow ∨ endsToken rest) then l.readKeySign? c
  else if first = ':' ∧ (l.inFlow ∨ endsToken rest) then l.readColon? c
  else if first = '*' then l.readName? .reference c
  else if first = '&' then l.readName? .anchor c
  else if first = '!' then l.readTag? c
  else if first = '|' ∧ !l.inFlow then l.readLines? .literal c
  else if first = '>' ∧ !l.inFlow then l.readLines? .folded c
  else if first = '\x27' then l.readQuoted? (readSingle? {}) c
  else if first = '\x22' then l.readQuoted? (readDouble? {} .none) c
  else if startsPlain l.inFlow c.rest then l.readPlain? c
  else none

/-- All tokens, once the text has ended. -/
def finish? (l : Layout) : Option (List Token) :=
  l.leaveAllBlocks.dropKey?.map (fun l => l.tokens.reverse)

/-- Read the tokens from the cursor on, at most `fuel` of them. -/
def readTokens? : (fuel : Nat) → Layout → Cursor → Option (List Token)
  | 0, _, _ => none
  | fuel + 1, l, c => do
    let (mayStartKey, c) := passToToken l.inFlow l.mayStartKey false c.place c.rest
    if l.lacksKey c.place then none
    let l := { l with mayStartKey }.leaveBlocks c.place.column
    match c.rest with
    | [] => l.finish?
    | first :: rest =>
      let (l, c) ← l.readToken? c first rest
      readTokens? fuel l c

end Layout

/-- The tokens of a text. -/
def Token.read? (text : List Char) : Option (List Token) :=
  if text.all isAllowed then
    Layout.readTokens? (text.length + 1) {} (Cursor.start (unifyBreaks text))
  else none

end ScopeLint.Yaml
