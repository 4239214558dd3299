import ScopeLint.Text.Split

/-!
# Scope paths

A scope path lists the syntactic categories that hold at a place, the outermost first, as in
`source.ase`, `comment.line.double-slash.ase`.  The segments of a scope are divided by dots.
Only code is linted: places in comments, strings and embedded foreign code are passed over.
-/

namespace ScopeLint

/-- Scope names, the outermost first. -/
abbrev ScopePath := List String

namespace Scope

/-- The scope of every place of a script. -/
def root : String := "source.ase"

/-- The category of embedded foreign code. -/
def inlineCode : String := "inlinecode"

def comment : String := "comment"

def quoted : String := "quoted"

def string : String := "string"

def constant : String := "constant"

def segments (scope : String) : List String :=
  (Text.splitAt '.' scope.toList).map String.ofList

def hasSegment (scope category : String) : Bool := (segments scope).contains category

/-- Does the scope begin with `comment.line` or `comment.block`? -/
def isCommentScope (scope : String) : Bool :=
  match segments scope with
  | first :: second :: _ => first == comment && (second == "line" || second == "block")
  | _ => false

/-- Does the path start at the root of a script? -/
def isRoot : ScopePath → Bool
  | [] => false
  | first :: _ => first == root

/-- Does the path carry `category`?  A path of the root alone carries none.  Embedded code and
comments right below the root hide all other categories. -/
def carries (path : ScopePath) (category : String) : Bool :=
  match path with
  | first :: second :: _ =>
    first == root &&
      (if hasSegment second inlineCode then category == inlineCode
      else if isCommentScope second then category == comment
      else path.any (fun scope => hasSegment scope category))
  | _ => false

/-- Is the place code, and so open to linting? -/
def isTypical (path : ScopePath) : Bool :=
  isRoot path && !carries path inlineCode && !carries path comment &&
    !carries path quoted && !carries path string

end Scope

end ScopeLint
