import ScopeLint.Decode.Json
import ScopeLint.Decode.Settings
import ScopeLint.Decode.Yaml
import ScopeLint.Files
import ScopeLint.Json.Read
import ScopeLint.Text.Split
import ScopeLint.Yaml.Read

/-!
# Settings files

A settings file is YAML or JSON, by the suffix of its name.  Without a given file the first of
five names is taken, in the current directory and then in the home directory.  Settings whose ids
name no family are refused.
-/

namespace ScopeLint

inductive SettingsError where
  | unreadable (error : ReadError)
  | notYaml
  | notJson
  | unknownSuffix (suffix : String)
  | unknownRule (id : String)
  deriving Repr, DecidableEq

def SettingsError.message : SettingsError → String
  | .unreadable e => s!"IO error: {e.message}"
  | .notYaml => "YAML parse error"
  | .notJson => "JSON parse error"
  | .unknownSuffix suffix => s!"Invalid configuration: Unknown config file format: {suffix}"
  | .unknownRule id => "Invalid configuration: " ++ Family.unknown id

namespace Settings

/-- The last component of a path that names something; none after `..`. -/
def fileName? (path : List Char) : Option (List Char) :=
  match (Text.splitAt '/' path).reverse.find? (fun part => part != [] && part != ['.']) with
  | some ['.', '.'] => none
  | other => other

/-- What follows the last dot of a name, unless the name has no other than a leading one. -/
def suffixOf (name : List Char) : List Char :=
  let after := (name.reverse.takeWhile (· != '.')).reverse
  if after.length + 1 < name.length then after else []

/-- The suffix of a path, empty if it has none. -/
def suffix (path : String) : String :=
  String.ofList (((fileName? path.toList).map suffixOf).getD [])

/-- Refuse settings with an id that names no family. -/
def checkIds (s : Settings) : Except SettingsError Settings :=
  match s.unknownId? with
  | some id => .error (.unknownRule id)
  | none => .ok s

/-- Read settings from the text of a file with that suffix. -/
def ofText (suffix text : String) : Except SettingsError Settings :=
  if suffix = "yaml" ∨ suffix = "yml" then
    match (Yaml.read? text).bind (fun d => Decode.settings d.reader d.root) with
    | some s => s.checkIds
    | none => .error .notYaml
  else if suffix = "json" then
    match (Json.read? text).bind (Decode.settings Json.reader) with
    | some s => s.checkIds
    | none => .error .notJson
  else .error (.unknownSuffix suffix)

/-- The settings of a file, given what reading it yields. -/
def ofFile (path : String) (content : Except ReadError String) : Except SettingsError Settings :=
  match content with
  | .error e => .error (.unreadable e)
  | .ok text => ofText (suffix path) text

def fileNames : List String :=
  [".aselintrc.yaml", ".aselintrc.yml", ".aselintrc.json", "aselint.yaml", "aselint.json"]

section Load

variable {m : Type → Type} [Monad m] (fs : FileSystem m)

def load (path : String) : m (Except SettingsError Settings) := do
  return ofFile path (← fs.read path)

/-- The first path at which there is something. -/
def firstThere? : List String → m (Option String)
  | [] => return none
  | path :: rest => do
    if (← fs.kind? path).isSome then return some path else firstThere? rest

/-- The first settings file in a directory. -/
def findIn? (directory : String) : m (Option String) :=
  firstThere? fs (fileNames.map (joinPath directory))

/-- Load the settings that are there, or the default ones. -/
def loadDefault : m (Except SettingsError Settings) := do
  match ← findIn? fs "." with
  | some path => load fs path
  | none =>
    match fs.home? with
    | none => return .ok {}
    | some home =>
      match ← findIn? fs home with
      | some path => load fs path
      | none => return .ok {}

end Load

end Settings

end ScopeLint
