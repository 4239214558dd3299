import ScopeLint.Pattern.Escape

/-!
# Bracket classes

A class in square brackets: literals, ranges, escapes, named ASCII classes and nested classes,
joined by union, and by the operators for intersection, difference and symmetric difference,
which associate to the left.  Folding comes before the complement.

Reading also tells how deep a class is nested: a class counts as one level, and so do an operator
and a union of several items.
-/

namespace ScopeLint.Pattern

/-- The operators between the parts of a class. -/
inductive SetOperator where
  | inter
  | diff
  | symmDiff
  deriving Repr, DecidableEq

/-- Apply an operator to two parts, both folded first. -/
def SetOperator.apply (op : SetOperator) (rule : CaseRule) (a b : CharSet) : CharSet :=
  match op with
  | .inter => .inter (a.foldBy rule) (b.foldBy rule)
  | .diff => .diff (a.foldBy rule) (b.foldBy rule)
  | .symmDiff => .symmDiff (a.foldBy rule) (b.foldBy rule)

structure NestedSet where
  set : CharSet
  height : Nat

/-- The items of a class since its last operator: their union, their number and how deep they are
nested. -/
structure ClassPart where
  set : CharSet := .empty
  items : Nat := 0
  height : Nat := 0

namespace ClassPart

def add (p : ClassPart) (item : NestedSet) : ClassPart :=
  ⟨.union p.set item.set, p.items + 1, Nat.max p.height item.height⟩

def whole (p : ClassPart) : NestedSet := ⟨p.set, if p.items < 2 then p.height else p.height + 1⟩

end ClassPart

/-- A part that waits for its right-hand side. -/
structure PendingOperator where
  left : NestedSet
  op : SetOperator

def closePart (rule : CaseRule) (pending : Option PendingOperator) (part : ClassPart) : NestedSet :=
  match pending with
  | some p =>
    ⟨p.op.apply rule p.left.set part.whole.set, Nat.max p.left.height part.whole.height + 1⟩
  | none => part.whole

/-- Fold a set, and take its complement if `negated` is set.  Within ASCII there are no
complements. -/
def Flags.finish (f : Flags) (negated : Bool) (set : CharSet) : Option CharSet :=
  if negated && !f.allScripts then none else some ((set.foldBy f.caseRule).complIf negated)

/-- The named ASCII classes. -/
def asciiClass? (name : String) : Option CharSet :=
  match name with
  | "alnum" => some (.ofRanges [('0', '9'), ('A', 'Z'), ('a', 'z')])
  | "alpha" => some (.ofRanges [('A', 'Z'), ('a', 'z')])
  | "ascii" => some (.range '\x00' '\x7f')
  | "blank" => some (.ofRanges [('\t', '\t'), (' ', ' ')])
  | "cntrl" => some (.ofRanges [('\x00', '\x1f'), ('\x7f', '\x7f')])
  | "digit" => some (.range '0' '9')
  | "graph" => some (.range '!' '~')
  | "lower" => some (.range 'a' 'z')
  | "print" => some (.range ' ' '~')
  | "punct" => some (.ofRanges [('!', '/'), (':', '@'), ('[', '\x60'), ('\x7b', '~')])
  | "space" => some (.ofRanges [('\t', '\r'), (' ', ' ')])
  | "upper" => some (.range 'A' 'Z')
  | "word" => some (.ofRanges [('0', '9'), ('A', 'Z'), ('_', '_'), ('a', 'z')])
  | "xdigit" => some (.ofRanges [('0', '9'), ('A', 'F'), ('a', 'f')])
  | _ => none

/-- Read a named ASCII class, after its first bracket: its set, whether it is negated, and what
follows. -/
def readAsciiClass (cs : List Char) : Option (CharSet × Bool × List Char) :=
  match cs with
  | ':' :: rest =>
    let (negated, rest) := match rest with
      | '^' :: rest => (true, rest)
      | _ => (false, rest)
    let name := rest.takeWhile (· != ':')
    match rest.drop name.length with
    | ':' :: ']' :: after =>
      (asciiClass? (String.ofList name)).map (fun set => (set, negated, after))
    | _ => none
  | _ => none

/-- What stands right after the first bracket: an optional negation, dashes, and a closing
bracket, which is a literal in first place. -/
def readClassStart (f : Flags) (cs : List Char) : Bool × ClassPart × List Char :=
  let (negated, cs) := match f.skip cs with
    | '^' :: rest => (true, f.skip rest)
    | cs => (false, cs)
  match cs with
  | '-' :: _ =>
    let (dashes, rest) := f.readPart (· == '-') [] false cs
    (negated, ⟨.single '-', dashes.length, 0⟩, rest)
  | ']' :: rest => (negated, ⟨.single ']', 1, 0⟩, f.skip rest)
  | _ => (negated, {}, cs)

/-- A literal or an escape within a class.  Within ASCII, a literal has to belong to it. -/
def readClassItem (f : Flags) (cs : List Char) : Option (Primitive × List Char) :=
  let item := match cs with
    | [] => none
    | '\\' :: rest => readEscape f rest
    | c :: rest => some (.literal c, rest)
  match item with
  | some (.literal c, rest) =>
    if f.allScripts || c.toNat < 128 then some (.literal c, rest) else none
  | item => item

/-- An item or a range of a class.  A dash before the closing bracket or before another dash
makes no range. -/
def readClassRange (f : Flags) (cs : List Char) : Option (CharSet × List Char) := do
  let (first, rest) ← readClassItem f cs
  let rest := f.skip rest
  let alone : Option (CharSet × List Char) := match first with
    | .literal c => some (.single c, rest)
    | .set s => some (s, rest)
    | .assertion _ => none
  match rest with
  | '-' :: after =>
    match f.skip after with
    | ']' :: _ => alone
    | '-' :: _ => alone
    | after =>
      let (last, after) ← readClassItem f after
      match first, last with
      | .literal lo, .literal hi => if lo ≤ hi then some (.range lo hi, after) else none
      | _, _ => none
  | _ => alone

/-- Read a class up to its closing bracket: `part` is the part read so far. -/
def readClassBody (f : Flags) : Nat → Option PendingOperator → ClassPart → List Char →
    Option (NestedSet × List Char)
  | 0, _, _, _ => none
  | fuel + 1, pending, part, cs =>
    match f.skip cs with
    | [] => none
    | ']' :: rest => some (closePart f.caseRule pending part, rest)
    | '[' :: rest =>
      match readAsciiClass rest with
      | some (set, negated, rest) =>
        match f.finish negated set with
        | some set => readClassBody f fuel pending (part.add ⟨set, 0⟩) rest
        | none => none
      | none =>
        let (negated, start, rest) := readClassStart f rest
        match readClassBody f fuel none start rest with
        | some (inner, rest) =>
          match f.finish negated inner.set with
          | some set => readClassBody f fuel pending (part.add ⟨set, inner.height + 1⟩) rest
          | none => none
        | none => none
    | '&' :: '&' :: rest =>
      readClassBody f fuel (some ⟨closePart f.caseRule pending part, .inter⟩) {} rest
    | '-' :: '-' :: rest =>
      readClassBody f fuel (some ⟨closePart f.caseRule pending part, .diff⟩) {} rest
    | '~' :: '~' :: rest =>
      readClassBody f fuel (some ⟨closePart f.caseRule pending part, .symmDiff⟩) {} rest
    | cs =>
      match readClassRange f cs with
      | some (set, rest) => readClassBody f fuel pending (part.add ⟨set, 0⟩) rest
      | none => none

def readClass (f : Flags) (cs : List Char) : Option (NestedSet × List Char) := do
  let (negated, start, rest) := readClassStart f cs
  let (inner, rest) ← readClassBody f (cs.length + 1) none start rest
  let set ← f.finish negated inner.set
  return (⟨set, inner.height + 1⟩, rest)

end ScopeLint.Pattern
