import ScopeLint.Files.Glob

/-!
# Expansion of file patterns

The files that the arguments name, in the order of the arguments.  Directories are left out, and
a pattern that no file fits is worth a warning.
-/

namespace ScopeLint

/-- The files that some patterns name. -/
structure Expansion where
  files : List String := []
  warnings : List String := []
  /-- The first malformed pattern; no pattern after it is expanded. -/
  malformed : Option String := none
  deriving Repr, DecidableEq

namespace Expansion

variable {m : Type → Type} [Monad m] (fs : FileSystem m)

/-- Take over what a search came upon: only files are kept. -/
def take (e : Expansion) : Glob.Found → m Expansion
  | .path path => do
    if (← fs.kind? path) = some .file then return { e with files := e.files ++ [path] }
    else return e
  | .unreadable path error =>
    return { e with warnings := e.warnings ++ [s!"Skipping {path}: {error.message}"] }

/-- Expand one pattern, with a warning where no file fits. -/
def ofGlob (pattern : String) (g : Glob) : m Expansion := do
  let e ← (← g.search fs).foldlM (take fs) {}
  if e.files.isEmpty then
    return { e with warnings := e.warnings ++ [s!"No files match '{pattern}'"] }
  else return e

/-- Expand patterns in order, up to the first that is malformed. -/
def ofPatterns : List String → m Expansion
  | [] => return {}
  | pattern :: rest => do
    match Glob.parse? pattern with
    | none => return { malformed := some pattern }
    | some g =>
      let first ← ofGlob fs pattern g
      let others ← ofPatterns rest
      return { files := first.files ++ others.files
               warnings := first.warnings ++ others.warnings
               malformed := others.malformed }

end Expansion

end ScopeLint
