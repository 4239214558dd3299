import ScopeLint.Pattern.Bracket

/-!
# Reading patterns

The pattern language: literals, the dot, bracket classes, escapes, groups with and without a
name, flags, alternatives and repetitions.  Flags hold up to the end of the group they stand in.
A pattern may not be nested too deeply.  There is no text for a refusal: a pattern is read or it is
not one.
-/

namespace ScopeLint.Pattern

/-- The letters of a flag list: those given so far, whether a dash has been seen, and whether
it was the last sign. -/
structure FlagList where
  flags : Flags
  letters : List Char := []
  negated : Bool := false
  dangling : Bool := false

/-- Read flags up to the colon or the bracket that ends them; the ending sign is kept. -/
def readFlags (f : FlagList) : List Char → Option (FlagList × Char × List Char)
  | [] => none
  | ':' :: rest => if f.dangling then none else some (f, ':', rest)
  | ')' :: rest => if f.dangling then none else some (f, ')', rest)
  | '-' :: rest =>
    if f.negated then none else readFlags { f with negated := true, dangling := true } rest
  | c :: rest =>
    if f.letters.contains c then none
    else
      match f.flags.set? c (!f.negated) with
      | some flags =>
        readFlags { f with flags := flags, letters := c :: f.letters, dangling := false } rest
      | none => none

def isNameChar (first : Bool) (c : Char) : Bool :=
  if first then c == '_' || Text.isLetter c
  else c == '_' || c == '.' || c == '[' || c == ']' || Text.isAlphanumeric c

/-- Read the name of a group up to its angle bracket. -/
def readName (cs : List Char) : Option (String × List Char) :=
  let name := cs.takeWhile (· != '>')
  match name, cs.drop name.length with
  | first :: others, _ :: rest =>
    if isNameChar true first && others.all (isNameChar false) then
      some (String.ofList name, rest)
    else none
  | _, _ => none

inductive GroupStart where
  /-- Flags for the rest of the enclosing group. -/
  | setFlags (flags : Flags)
  /-- A group that does not capture. -/
  | plain (flags : Flags)
  /-- A group that captures, with its name if it has one. -/
  | capture (name : Option String)

def readGroupStart (flags : Flags) (names : List String) (cs : List Char) :
    Option (GroupStart × List Char) :=
  let named (cs : List Char) : Option (GroupStart × List Char) :=
    match readName cs with
    | some (name, rest) => if names.contains name then none else some (.capture name, rest)
    | none => none
  match flags.skip cs with
  | '?' :: 'P' :: '<' :: rest => named rest
  | '?' :: '<' :: '=' :: _ => none
  | '?' :: '<' :: '!' :: _ => none
  | '?' :: '<' :: rest => named rest
  | '?' :: rest =>
    match readFlags { flags := flags } rest with
    | some (f, ':', rest) => some (.plain f.flags, rest)
    | some (f, _, rest) => if f.letters.isEmpty then none else some (.setFlags f.flags, rest)
    | none => none
  | cs => some (.capture none, cs)

/-- A decimal number with blanks around it, below 2^32. -/
def readCount (f : Flags) (cs : List Char) : Option (Nat × List Char) :=
  let (digits, rest) := f.readPart Char.isDigit [] false (cs.dropWhile Text.isBlank)
  let n := digits.foldl (fun n c => n * 10 + (c.toNat - '0'.toNat)) 0
  if digits.isEmpty || 4294967296 ≤ n then none else some (n, rest.dropWhile Text.isBlank)

/-- The counts of a repetition, after its opening brace. -/
def readCounts (f : Flags) (cs : List Char) : Option (Nat × Option Nat × List Char) :=
  match readCount f (f.skip cs) with
  | some (low, '\x7d' :: rest) => some (low, some low, rest)
  | some (low, ',' :: rest) =>
    match f.skip rest with
    | '\x7d' :: rest => some (low, none, rest)
    | rest =>
      match readCount f rest with
      | some (high, '\x7d' :: rest) => if low ≤ high then some (low, some high, rest) else none
      | _ => none
  | _ => none

structure Item where
  node : Node
  height : Nat := 0

/-- The parts of one alternative: their nodes, the last first, their number and how deep they are
nested.  Flags count as parts. -/
structure Branch where
  nodes : List Node := []
  parts : Nat := 0
  height : Nat := 0

namespace Branch

def push (b : Branch) (a : Item) : Branch :=
  ⟨a.node :: b.nodes, b.parts + 1, Nat.max b.height a.height⟩

/-- The alternative as one part.  Several parts in a row count as one level. -/
def whole (b : Branch) : Item :=
  ⟨.sequence b.nodes.reverse, if b.parts < 2 then b.height else b.height + 1⟩

end Branch

/-- How far a group has been read. -/
structure Progress where
  flags : Flags
  /-- The names of all groups so far. -/
  names : List String := []
  /-- The alternatives before the current one, the last first. -/
  branches : List Item := []
  /-- The current alternative but for `last`. -/
  branch : Branch := {}
  /-- The part that a repetition would apply to. -/
  last : Option Item := none

namespace Progress

def current (p : Progress) : Branch :=
  match p.last with
  | some a => p.branch.push a
  | none => p.branch

/-- The whole group.  Several alternatives count as one level. -/
def whole (p : Progress) : Item :=
  match p.branches with
  | [] => p.current.whole
  | branches =>
    let all := p.current.whole :: branches
    ⟨.choice (all.map Item.node).reverse, all.foldl (fun h a => Nat.max h a.height) 0 + 1⟩

def push (p : Progress) (a : Item) : Progress := { p with branch := p.current, last := some a }

def nextBranch (p : Progress) : Progress :=
  { p with branches := p.current.whole :: p.branches, branch := {}, last := none }

/-- Change the flags.  A repetition cannot follow. -/
def setFlags (p : Progress) (flags : Flags) : Progress :=
  let current := p.current
  { p with flags := flags, branch := { current with parts := current.parts + 1 }, last := none }

/-- Repeat the last part.  A question mark after the repetition inverts its greed. -/
def repeatLast (p : Progress) (min : Nat) (max : Option Nat) (rest : List Char) :
    Option (Progress × List Char) :=
  match p.last with
  | none => none
  | some a =>
    let (marked, rest) := match rest with
      | '?' :: rest => (true, rest)
      | _ => (false, rest)
    let greedy := marked == p.flags.swapGreed
    some ({ p with last := some ⟨.repeated greedy min max a.node, a.height + 1⟩ }, rest)

/-- Add the part that an escape stands for. -/
def pushPrimitive (p : Progress) : Primitive → Progress
  | .literal c => p.push ⟨.char (.letter p.flags.caseRule c), 0⟩
  | .set s => p.push ⟨.char s, 0⟩
  | .assertion a => p.push ⟨.assertion a, 0⟩

end Progress

/-- What the dot matches: all but line ends, or everything.  There is no dot within ASCII, since it
would match parts of characters. -/
def Flags.dot? (f : Flags) : Option CharSet :=
  if !f.allScripts then none
  else if f.dotAll then some (.compl .empty)
  else if f.returns then some (.compl (.ofRanges [('\n', '\n'), ('\r', '\r')]))
  else some (.compl (.single '\n'))

def Flags.start (f : Flags) : Assertion :=
  if !f.multiLine then .textStart else if f.returns then .returnStart else .lineStart

def Flags.stop (f : Flags) : Assertion :=
  if !f.multiLine then .textEnd else if f.returns then .returnEnd else .lineEnd

/-- Read one part or repetition that is no group and no alternative. -/
def readItem (p : Progress) (c : Char) (rest : List Char) : Option (Progress × List Char) :=
  match c with
  | '*' => p.repeatLast 0 none rest
  | '+' => p.repeatLast 1 none rest
  | '?' => p.repeatLast 0 (some 1) rest
  | '\x7b' =>
    match p.last, readCounts p.flags rest with
    | some _, some (low, high, rest) => p.repeatLast low high (p.flags.skip rest)
    | _, _ => none
  | '[' =>
    (readClass p.flags rest).map (fun (s, rest) => (p.push ⟨.char s.set, s.height⟩, rest))
  | '\\' => (readEscape p.flags rest).map (fun (a, rest) => (p.pushPrimitive a, rest))
  | '.' => p.flags.dot?.map (fun set => (p.push ⟨.char set, 0⟩, rest))
  | '^' => some (p.push ⟨.assertion p.flags.start, 0⟩, rest)
  | '$' => some (p.push ⟨.assertion p.flags.stop, 0⟩, rest)
  | c => some (p.pushPrimitive (.literal c), rest)

/-- Read a group up to its closing bracket, which stays, or up to the end of the text. -/
def readBody : Nat → Progress → List Char → Option (Progress × List Char)
  | 0, _, _ => none
  | fuel + 1, p, cs =>
    let inner (flags : Flags) (name : Option String) (wrap : Node → Node) (rest : List Char) :
        Option (Progress × List Char) :=
      match readBody fuel { flags := flags, names := name.toList ++ p.names } rest with
      | some (inner, ')' :: rest) =>
        let whole := inner.whole
        let p := p.push ⟨wrap whole.node, whole.height + 1⟩
        readBody fuel { p with names := inner.names } rest
      | _ => none
    match p.flags.skip cs with
    | [] => some (p, [])
    | ')' :: rest => some (p, ')' :: rest)
    | '|' :: rest => readBody fuel p.nextBranch rest
    | '(' :: rest =>
      match readGroupStart p.flags p.names rest with
      | some (.setFlags flags, rest) => readBody fuel (p.setFlags flags) rest
      | some (.plain flags, rest) => inner flags none id rest
      | some (.capture name, rest) => inner p.flags name (.group name) rest
      | none => none
    | c :: rest =>
      match readItem p c rest with
      | some (p, rest) => readBody fuel p rest
      | none => none

/-- The number of levels to which a pattern may be nested. -/
def heightLimit : Nat := 250

/-- The pattern that a text stands for, if it is one. -/
def Node.read? (ignoreCase : Bool) (source : List Char) : Option Node :=
  match readBody (source.length + 1) { flags := { ignoreCase := ignoreCase } } source with
  | some (p, []) => if p.whole.height ≤ heightLimit then some p.whole.node else none
  | _ => none

end ScopeLint.Pattern
