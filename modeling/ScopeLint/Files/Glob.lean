import ScopeLint.Files
import ScopeLint.Text.Split

/-!
# File patterns

A pattern is a path whose components may hold `?` for one character, `*` for any number of them
and brackets for one of a set.  The component `**` stands for any number of directories.

Searching goes down from a directory: components without wildcards are looked up, others are
compared with the names that are there.
-/

namespace ScopeLint

namespace Glob

/-- A part of a component. -/
inductive Token where
  | char (c : Char)
  /-- One character. -/
  | one
  /-- Any number of characters. -/
  | many
  /-- Any number of directories. -/
  | directories
  /-- One character inside the ranges, or outside them. -/
  | set (negated : Bool) (ranges : List (Char × Char))
  deriving Repr, DecidableEq

/-- The ranges between brackets; a dash between two characters spans what lies between. -/
def ranges : List Char → List (Char × Char)
  | first :: '-' :: last :: rest => (first, last) :: ranges rest
  | c :: rest => (c, c) :: ranges rest
  | [] => []

/-- The characters of a set that is not closed yet, the last one first. -/
structure OpenSet where
  negated : Bool
  chars : List Char

/-- Read tokens.  A set holds at least one character, so a closing bracket may come first in it.
Two stars stand alone between slashes; three are refused. -/
def tokensFrom? : Option OpenSet → (previous : Option Char) → List Char → Option (List Token)
  | some set, _, ']' :: rest =>
    (tokensFrom? none (some ']') rest).map (.set set.negated (ranges set.chars.reverse) :: ·)
  | some set, previous, c :: rest =>
    tokensFrom? (some { set with chars := c :: set.chars }) previous rest
  | some _, _, [] => none
  | none, _, [] => some []
  | none, _, '?' :: rest => (tokensFrom? none (some '?') rest).map (.one :: ·)
  | none, _, '*' :: '*' :: '*' :: _ => none
  | none, previous, '*' :: '*' :: rest =>
    if previous.all (· == '/') then
      match rest with
      | [] => some [.directories]
      | '/' :: rest => (tokensFrom? none (some '/') rest).map (.directories :: ·)
      | _ => none
    else none
  | none, _, '*' :: rest => (tokensFrom? none (some '*') rest).map (.many :: ·)
  | none, _, '[' :: '!' :: c :: rest => tokensFrom? (some ⟨true, [c]⟩) (some c) rest
  | none, _, '[' :: '!' :: [] => none
  | none, _, '[' :: c :: rest => tokensFrom? (some ⟨false, [c]⟩) (some c) rest
  | none, _, '[' :: [] => none
  | none, _, c :: rest => (tokensFrom? none (some c) rest).map (.char c :: ·)

def tokens? (text : List Char) : Option (List Token) := tokensFrom? none none text

/-- The text of a component without wildcards. -/
def literal? (tokens : List Token) : Option String :=
  (tokens.mapM char?).map String.ofList
where
  char? : Token → Option Char
    | .char c => some c
    | _ => none

/-- Does a name fit a component?  The component `**` stands for no name. -/
def fits : List Token → List Char → Bool
  | [], [] => true
  | [], _ :: _ => false
  | .char _ :: _, [] => false
  | .char d :: tokens, c :: rest => c == d && fits tokens rest
  | .one :: _, [] => false
  | .one :: tokens, _ :: rest => fits tokens rest
  | .set .. :: _, [] => false
  | .set negated ranges :: tokens, c :: rest =>
    (ranges.any (fun (first, last) => first ≤ c && c ≤ last) != negated) && fits tokens rest
  | .many :: tokens, [] => fits tokens []
  | .many :: tokens, c :: rest => fits tokens (c :: rest) || fits (.many :: tokens) rest
  | .directories :: _, _ => false
  termination_by tokens name => (tokens.length + name.length)

end Glob

structure Glob where
  /-- The directory that the search starts from. -/
  start : String
  components : List (List Glob.Token)
  /-- A slash at the end asks for a directory. -/
  directoriesOnly : Bool
  deriving Repr, DecidableEq

namespace Glob

/-- Drop one empty component at the end. -/
def dropLastEmpty (components : List (List Char)) : List (List Char) :=
  if components.getLast? = some [] then components.dropLast else components

/-- Read a pattern.  The text as a whole and each component have to be well formed. -/
def parse? (text : String) : Option Glob := do
  let chars := text.toList
  let _ ← tokens? chars
  let below := chars.dropWhile (· == '/')
  let parts := if below.isEmpty then [[]] else dropLastEmpty (Text.splitAt '/' below)
  return { start := if chars.head? = some '/' then "/" else "."
           components := ← parts.mapM tokens?
           directoriesOnly := chars.getLast? == some '/' }

def isCurrent (path : String) : Bool :=
  path.toList.head? == some '.' &&
    (Text.splitAt '/' path.toList).all (fun part => part == [] || part == ['.'])

/-- The path below a directory; nothing stands for the current directory. -/
def below (path name : String) : String := if isCurrent path then name else joinPath path name

/-- What a search comes upon. -/
inductive Found where
  | path (path : String)
  /-- A directory that cannot be listed. -/
  | unreadable (path : String) (error : ReadError)
  deriving Repr, DecidableEq

section Search

variable {m : Type → Type} [Monad m] (fs : FileSystem m)

def isDirectory (path : String) : m Bool := do
  return (← fs.kind? path) == some .directory

/-- A path that fits the whole pattern. -/
def accept (directoriesOnly : Bool) (path : String) : m (List Found) := do
  if directoriesOnly && !(← isDirectory fs path) then return [] else return [.path path]

/-- Drop all but the last of the `**` in front. -/
def collapse : List (List Token) → List (List Token)
  | [.directories] :: [.directories] :: rest => collapse ([.directories] :: rest)
  | components => components

mutual

/-- Search below `path`.  Names that start with a dot include `.` and `..` where the component
starts with one. -/
def descend (directoriesOnly : Bool) : Nat → List (List Token) → String → m (List Found)
  | 0, _, _ => return []
  | _, [], _ => return []
  | fuel + 1, component :: rest, path => do
    let into (next : String) : m (List Found) :=
      if rest.isEmpty then accept fs directoriesOnly next
      else descend directoriesOnly fuel rest next
    match literal? component with
    | some name =>
      let next := below path name
      let there ←
        if name = "." ∨ name = ".." then isDirectory fs path
        else do pure (← fs.kind? next).isSome
      if there then into next else return []
    | none =>
      if !(← isDirectory fs path) then return []
      match ← fs.children path with
      | .error e => return [.unreadable path e]
      | .ok names =>
        let special (name : String) : m (List Found) :=
          if component.head? = some (.char '.') ∧ fits component name.toList then
            into (joinPath path name)
          else return []
        let up ← special ".."
        let same ← special "."
        let inside ← names.mapM
          (fun name => visit directoriesOnly fuel (component :: rest) (below path name) name)
        return up ++ same ++ inside.flatten

/-- Compare the entry `name` at `path` with the first component. -/
def visit (directoriesOnly : Bool) :
    Nat → List (List Token) → (path name : String) → m (List Found)
  | 0, _, _, _ => return []
  | fuel + 1, components, path, name => do
    let matching (component : List Token) (rest : List (List Token)) : m (List Found) :=
      if !fits component name.toList then return []
      else if rest.isEmpty then accept fs directoriesOnly path
      else descend directoriesOnly fuel rest path
    match collapse components with
    | [] => return []
    | [.directories] :: rest =>
      let directory ← isDirectory fs path
      let deeper ←
        if directory then descend directoriesOnly fuel ([.directories] :: rest) path
        else pure []
      match rest with
      | [] => return (if directory then .path path :: deeper else [])
      | component :: others => return (← matching component others) ++ deeper
    | component :: rest => matching component rest

end

/-- All that fits a pattern, in the order of names. -/
def search (g : Glob) : m (List Found) :=
  descend fs g.directoriesOnly (2 * (g.components.length + fs.depth) + 4) g.components g.start

end Search

end Glob

end ScopeLint
