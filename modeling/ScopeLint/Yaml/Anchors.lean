import ScopeLint.Yaml

/-!
# Anchored nodes

Anchors get numbers.  A new anchor has the number of names that are known before it, also if its
own name is one of them; a reference keeps the number its name has where it stands, and means the
node that was the last to start with that number.
-/

namespace ScopeLint.Yaml

/-- An anchor as it is met: how many there were before, and its number. -/
structure Anchor where
  rank : Nat
  number : Nat

/-- The anchors met so far, and the anchored nodes that are complete. -/
structure Anchors where
  /-- The numbers of the names, each name once. -/
  numbers : List (List Char × Nat) := []
  /-- How many anchors were met. -/
  count : Nat := 0
  nodes : List (Anchor × Yaml) := []

namespace Anchors

def number? (a : Anchors) (name : List Char) : Option Nat := a.numbers.lookup name

def meet (a : Anchors) (name : List Char) : Anchor × Anchors :=
  let number := a.numbers.length
  let others := a.numbers.filter (fun n => n.1 != name)
  (⟨a.count, number⟩, { a with numbers := (name, number) :: others, count := a.count + 1 })

/-- Note that the node of an anchor is complete. -/
def complete (a : Anchors) (anchor : Option Anchor) (node : Yaml) : Anchors :=
  match anchor with
  | some anchor => { a with nodes := (anchor, node) :: a.nodes }
  | none => a

/-- Keep the node that started last. -/
def keepLast (kept : Array (Option (Anchor × Yaml))) (entry : Anchor × Yaml) :
    Array (Option (Anchor × Yaml)) :=
  kept.modify entry.1.number fun
    | some other => if other.1.rank < entry.1.rank then some entry else some other
    | none => some entry

/-- The node that each number means. -/
def table (a : Anchors) : Array Yaml :=
  (a.nodes.foldl keepLast (Array.replicate (a.numbers.length + 1) none)).map
    (fun entry => (entry.map Prod.snd).getD empty)

end Anchors

end ScopeLint.Yaml
