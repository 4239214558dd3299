import ScopeLint.Files
import ScopeLint.Text.Split

/-!
# Trees of files

A file system in memory: files with their bytes below nested directories.  Paths are followed
component by component, so a path through a file and a path to nothing fail in different ways.
-/

namespace ScopeLint

/-- A file or a directory. -/
inductive Tree where
  | file (content : ByteArray)
  | directory (entries : List (String × Tree))
  deriving Inhabited

namespace Tree

def components (path : String) : List String :=
  (Text.splitAt '/' path.toList).map String.ofList

def child? (entries : List (String × Tree)) (name : String) : Option Tree :=
  (entries.find? (fun e => e.1 == name)).map Prod.snd

/-- Put `node` under a path, with the directories on the way to it.  A directory that is already
there stays. -/
def insert (node : Tree) : List String → Tree → Tree
  | [], old =>
    match node, old with
    | .directory [], .directory entries => .directory entries
    | _, _ => node
  | name :: rest, old =>
    let entries := match old with
      | .directory entries => entries
      | .file _ => []
    let below := insert node rest ((child? entries name).getD (.directory []))
    .directory (entries.filter (fun e => e.1 != name) ++ [(name, below)])

/-- The directory with the given nodes under their paths. -/
def ofEntries (entries : List (String × Tree)) : Tree :=
  entries.foldl (fun t (path, node) => t |> insert node (components path)) (.directory [])

/-- Follow components from a node; `above` are the directories around it, the nearest first. -/
def follow : (above : List Tree) → Tree → List String → Except ReadError Tree
  | _, node, [] => .ok node
  | _, .file _, _ :: _ => .error .notADirectory
  | above, .directory entries, name :: rest =>
    if name = "" ∨ name = "." then follow above (.directory entries) rest
    else if name = ".." then
      match above with
      | [] => follow [] (.directory entries) rest
      | parent :: others => follow others parent rest
    else
      match child? entries name with
      | none => .error .notFound
      | some child => follow (.directory entries :: above) child rest

mutual

/-- How deep directories are nested. -/
def height : Tree → Nat
  | .file _ => 0
  | .directory entries => heightOf entries + 1

/-- How deep the directories among some entries are nested. -/
def heightOf : List (String × Tree) → Nat
  | [] => 0
  | (_, node) :: rest => max (height node) (heightOf rest)

end

/-- What a path leads to, for a program that works in the directory `current`. -/
def resolve (root : Tree) (current path : String) : Except ReadError Tree :=
  if path = "" then .error .notFound
  else if path.toList.head? = some '/' then follow [] root (components path)
  else follow [] root (components current ++ components path)

def read : Tree → Except ReadError String
  | .directory _ => .error .isDirectory
  | .file content =>
    match String.fromUTF8? content with
    | some text => .ok text
    | none => .error .notText

def kind : Tree → EntryKind
  | .directory _ => .directory
  | .file _ => .file

/-- The names in a directory in order. -/
def names : Tree → Except ReadError (List String)
  | .file _ => .error .notADirectory
  | .directory entries => .ok ((entries.map Prod.fst).mergeSort (fun a b => a ≤ b))

def readAt (root : Tree) (current path : String) : Except ReadError String := do
  (← root.resolve current path).read

def namesAt (root : Tree) (current path : String) : Except ReadError (List String) := do
  (← root.resolve current path).names

def fileSystem (root : Tree) (current : String) (home? : Option String) : FileSystem Id where
  read := root.readAt current
  kind? path := (root.resolve current path).toOption.map Tree.kind
  children := root.namesAt current
  home? := home?
  depth := root.height

end Tree

end ScopeLint
