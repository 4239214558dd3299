/-!
# Splitting at a separator

A text is cut at every occurrence of one character; the pieces keep their order, and there is
always at least one.
-/

namespace ScopeLint.Text

/-- Put `c` in front of the first piece. -/
def consFirst (c : Char) : List (List Char) → List (List Char)
  | [] => [[c]]
  | piece :: pieces => (c :: piece) :: pieces

/-- The pieces between the occurrences of `sep`. -/
def splitAt (sep : Char) (cs : List Char) : List (List Char) :=
  cs.foldr (fun c pieces => if c = sep then [] :: pieces else consFirst c pieces) [[]]

/-- Is `pattern` found at the start of the text?  What follows it is the answer. -/
def afterStart : List Char → List Char → Option (List Char)
  | [], cs => some cs
  | _ :: _, [] => none
  | p :: ps, c :: cs => if p = c then afterStart ps cs else none

/-- What follows the last occurrence of `marker`, if there is one. -/
def afterLast (marker : List Char) : List Char → Option (List Char)
  | [] => afterStart marker []
  | c :: cs =>
    match afterLast marker cs with
    | some rest => some rest
    | none => afterStart marker (c :: cs)

/-- The number of bytes of the UTF-8 form. -/
def byteLength (cs : List Char) : Nat := cs.foldl (fun n c => n + c.utf8Size) 0

end ScopeLint.Text
