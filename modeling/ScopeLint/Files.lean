/-!
# File systems

What the linter asks of a file system, in any monad: the real one answers with effects, a tree of
files answers at once.  Paths are texts with `/` between their components.
-/

namespace ScopeLint

/-- Why a file cannot be read. -/
inductive ReadError where
  | notFound
  | isDirectory
  | notADirectory
  | notText
  | other (message : String)
  deriving Repr, DecidableEq

def ReadError.message : ReadError → String
  | .notFound => "No such file or directory (os error 2)"
  | .isDirectory => "Is a directory (os error 21)"
  | .notADirectory => "Not a directory (os error 20)"
  | .notText => "stream did not contain valid UTF-8"
  | .other message => message

/-- What a path leads to. -/
inductive EntryKind where
  | file
  | directory
  deriving Repr, DecidableEq

structure FileSystem (m : Type → Type) where
  /-- The text of a file. -/
  read : String → m (Except ReadError String)
  /-- What a path leads to, if anything. -/
  kind? : String → m (Option EntryKind)
  /-- The names in a directory, in the order of their characters. -/
  children : String → m (Except ReadError (List String))
  /-- The path of the home directory. -/
  home? : Option String
  /-- Directories are not nested deeper than this. -/
  depth : Nat

/-- The path of `name` below `path`. -/
def joinPath (path name : String) : String :=
  if path = "" ∨ path.toList.getLast? = some '/' then path ++ name else path ++ "/" ++ name

end ScopeLint
