import ScopeLint.CommandLine.Run

/-!
# The program

The host of a run is the machine itself.
-/

namespace ScopeLint

/-- Are colours shown?  A forced choice counts first, then the refusal of all colours, then
whether the output goes to a terminal. -/
def showsColors (force refuse choice : Option String) (terminal : Bool) : Bool :=
  let isOn (value : Option String) : Bool := value.isSome && value != some "0"
  if isOn force then true
  else if refuse.isSome then false
  else terminal && (choice.isNone || isOn choice)

/-- Why a file could not be read. -/
def ReadError.ofSystem : IO.Error → ReadError
  | .noFileOrDirectory .. => .notFound
  | .inappropriateType _ 21 _ => .isDirectory
  | .inappropriateType _ 20 _ => .notADirectory
  | e => .other (toString e)

def readText (path : String) : IO (Except ReadError String) := do
  let base ← IO.currentDir
  if path = "" then return .error .notFound
  if ← (base / path).isDir then return .error .isDirectory
  try
    match String.fromUTF8? (← IO.FS.readBinFile path) with
    | some text => return .ok text
    | none => return .error .notText
  catch e => return .error (.ofSystem e)

def kindAt? (path : String) : IO (Option EntryKind) := do
  let base ← IO.currentDir
  if path = "" then return none
  try
    match (← (base / path).metadata).type with
    | .dir => return some .directory
    | _ => return some .file
  catch _ => return none

def namesIn (path : String) : IO (Except ReadError (List String)) := do
  let base ← IO.currentDir
  try
    let names := (← (base / path).readDir).toList.map (·.fileName)
    return .ok (names.mergeSort (fun a b => a ≤ b))
  catch e => return .error (.ofSystem e)

/-- This machine; paths have at most 4096 bytes. -/
def localHost (colored : Bool) (home? : Option String) : Host IO where
  read := readText
  kind? := kindAt?
  children := namesIn
  home? := home?
  depth := 4096
  colored := colored
  now := IO.monoNanosNow
  compute f := IO.lazyPure f

/-- Put out one part of a result. -/
def Emission.print : Emission → IO Unit
  | .out text => IO.print text
  | .err text => IO.eprint text
  | .warning text => IO.eprintln ("[WARN] " ++ text)
  | .timings s => IO.eprint ((TimingTable.format s).getD "")

end ScopeLint

/-- Lint the files that the arguments name. -/
def main (arguments : List String) : IO UInt32 := do
  let colored := ScopeLint.showsColors (← IO.getEnv "CLICOLOR_FORCE") (← IO.getEnv "NO_COLOR")
    (← IO.getEnv "CLICOLOR") (← (← IO.getStdout).isTty)
  let result ← (ScopeLint.localHost colored (← IO.getEnv "HOME")).run arguments
  result.emitted.forM (·.print)
  return result.exitCode.toUInt32
