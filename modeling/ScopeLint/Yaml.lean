/-!
# YAML values

A YAML document is a tree of scalars, sequences and mappings.  A scalar keeps its text, how it was
written and its tag: all three decide whether it may stand for a number, a truth value or nothing
at all.  Nodes may be anchored, and references stand for anchored nodes.
-/

namespace ScopeLint

inductive ScalarStyle where
  | plain
  | quoted
  | literal
  | folded
  deriving Repr, DecidableEq

/-- The characters of a tag; `none` where escaped bytes make no character. -/
abbrev Tag := List (Option Char)

def Tag.text? (t : Tag) : Option (List Char) := t.mapM id

inductive Yaml where
  | scalar (style : ScalarStyle) (tag : Option Tag) (text : String)
  | sequence (items : List Yaml)
  | mapping (entries : List (Yaml × Yaml))
  /-- The node whose anchor has that number. -/
  | reference (number : Nat)
  deriving Repr, Inhabited

namespace Yaml

/-- What stands where nothing is written. -/
def empty : Yaml := .scalar .plain none ""

/-- Is nothing written here, except perhaps a tag? -/
def isEmpty : Yaml → Bool
  | .scalar .plain _ "" => true
  | _ => false

def text? : Yaml → Option String
  | .scalar _ _ text => some text
  | _ => none

/-- A document: its outermost node and the nodes that references stand for, by number. -/
structure Document where
  root : Yaml
  anchored : Array Yaml := #[]

/-- The node that is meant: a reference stands for another one, which is none itself. -/
def Document.resolve (d : Document) : Yaml → Yaml
  | .reference number => d.anchored.getD number empty
  | node => node

end Yaml

end ScopeLint
