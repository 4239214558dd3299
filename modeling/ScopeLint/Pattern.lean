import ScopeLint.Document
import ScopeLint.Pattern.Read
import ScopeLint.Pattern.Walk
import ScopeLint.Pattern.Weight

/-!
# Scanning a document for a pattern

A compiled pattern keeps its text.  Scanning goes through the document once, from left to
right: at each index the preferred match is taken, and the search goes on after it.  An empty
match right after the match before is passed over.
-/

namespace ScopeLint

/-- A pattern of the pattern language, with the text it was read from. -/
structure Pattern where
  source : String
  node : Pattern.Node
  deriving Repr, DecidableEq

/-- A match in a document: its span, its byte offsets, its text and the names of the groups
that took part. -/
structure Match where
  span : Span
  first : Nat
  last : Nat
  text : String
  groups : List String
  deriving Repr, DecidableEq

def Match.hasGroup (m : Match) (name : String) : Bool := m.groups.contains name

namespace Pattern

/-- Read a pattern; `origin` is named when it is refused, as one that is too heavy is. -/
def compile (origin : Origin) (ignoreCase : Bool) (source : String) : Except LintError Pattern :=
  match Node.read? ignoreCase source.toList with
  | some node =>
    if node.isLight then .ok ⟨source, node⟩ else .error (.invalidPattern origin source)
  | none => .error (.invalidPattern origin source)

/-- A match by its character indices. -/
structure Found where
  start : Nat
  stop : Nat
  groups : List String
  deriving Repr, DecidableEq

/-- The preferred match from index `i`, given the outlooks at all indices. -/
def Node.matchAt? (node : Node) (text : Array Char) (ahead : Array Outlook) (i : Nat) :
    Option Arrival :=
  match ahead[i]? with
  | some here =>
    if here.opens then
      some (node.walk text (fun j => (ahead[j]?.map Outlook.steps).getD .none) (fun _ => true) i)
    else none
  | none => none

/-- The matches from index `i` on, put after those in `done`, the last first.  `fresh` tells that no
match ends at `i`, so that an empty match may stand there.  Every step moves on, so `fuel` above the
number of characters left is never used up. -/
def foundFrom (node : Node) (text : Array Char) (ahead : Array Outlook) :
    Nat → Nat → Bool → List Found → List Found
  | 0, _, _, done => done.reverse
  | fuel + 1, i, fresh, done =>
    if text.size < i then done.reverse
    else
      match node.matchAt? text ahead i with
      | none => foundFrom node text ahead fuel (i + 1) true done
      | some a =>
        if i < a.stop then
          foundFrom node text ahead fuel a.stop false (⟨i, a.stop, a.groups⟩ :: done)
        else if fresh then foundFrom node text ahead fuel (i + 1) true (⟨i, i, a.groups⟩ :: done)
        else foundFrom node text ahead fuel (i + 1) true done

def found (p : Pattern) (text : Array Char) : List Found :=
  foundFrom p.node text (outlooks p.node text) (text.size + 1) 0 true []

/-- A place in a text, by character index, byte offset and position. -/
structure Place where
  index : Nat
  offset : Nat
  position : Position
  deriving Repr, DecidableEq

namespace Place

def start : Place := ⟨0, 0, Position.origin⟩

/-- The place after reading `c`. -/
def step (p : Place) (c : Char) : Place := ⟨p.index + 1, p.offset + c.utf8Size, p.position.step c⟩

/-- Read on up to character index `i`. -/
def moveTo (text : Array Char) (p : Place) (i : Nat) : Place :=
  (text.extract p.index i).foldl step p

end Place

/-- Give the matches their places, going on from `here`. -/
def placed (text : Array Char) : Place → List Found → List Match
  | _, [] => []
  | here, f :: rest =>
    let start := here.moveTo text f.start
    let stop := start.moveTo text f.stop
    { span := ⟨start.position, stop.position⟩
      first := start.offset
      last := stop.offset
      text := String.ofList (text.extract f.start f.stop).toList
      groups := f.groups } :: placed text stop rest

/-- All matches in a document, from left to right. -/
def scan (p : Pattern) (d : Document) : List Match :=
  placed d.chars Place.start (p.found d.chars)

def isMatch (p : Pattern) (text : Array Char) : Bool := !(p.found text).isEmpty

end Pattern

end ScopeLint
