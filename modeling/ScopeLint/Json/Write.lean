import ScopeLint.Json

/-!
# Writing JSON

Two layouts: without any blanks, and indented by two blanks for each level.  In strings the
quote, the backslash and the control characters are escaped, all else stands as it is.
-/

namespace ScopeLint.Json

/-- A hexadecimal digit in lower case. -/
def hexDigit (n : Nat) : Char := if n < 10 then Char.ofNat (48 + n) else Char.ofNat (87 + n)

def writeChar (c : Char) (rest : List Char) : List Char :=
  if c = '\x22' then '\\' :: '\x22' :: rest
  else if c = '\\' then '\\' :: '\\' :: rest
  else if c = '\x08' then '\\' :: 'b' :: rest
  else if c = '\x0c' then '\\' :: 'f' :: rest
  else if c = '\n' then '\\' :: 'n' :: rest
  else if c = '\r' then '\\' :: 'r' :: rest
  else if c = '\t' then '\\' :: 't' :: rest
  else if c.toNat < 0x20 then
    '\\' :: 'u' :: '0' :: '0' :: hexDigit (c.toNat / 16) :: hexDigit (c.toNat % 16) :: rest
  else c :: rest

def writeString (s : String) (rest : List Char) : List Char :=
  '\x22' :: s.toList.foldr writeChar ('\x22' :: rest)

def writeInteger (n : Int) (rest : List Char) : List Char := (toString n).toList ++ rest

mutual

/-- Write a value without blanks in front of `rest`. -/
def writeCompact : Json → List Char → List Char
  | .null, rest => "null".toList ++ rest
  | .bool true, rest => "true".toList ++ rest
  | .bool false, rest => "false".toList ++ rest
  | .integer n, rest => writeInteger n rest
  | .decimal spelling, rest => spelling.toList ++ rest
  | .string s, rest => writeString s rest
  | .unpaired, rest => writeString "" rest
  | .array items, rest => '[' :: writeItems items (']' :: rest)
  | .object fields, rest => '\x7b' :: writeFields fields ('\x7d' :: rest)
termination_by structural value => value

def writeItems : List Json → List Char → List Char
  | [], rest => rest
  | [item], rest => writeCompact item rest
  | item :: next :: more, rest => writeCompact item (',' :: writeItems (next :: more) rest)
termination_by structural items => items

def writeFields : List (String × Json) → List Char → List Char
  | [], rest => rest
  | [field], rest => writeField field rest
  | field :: next :: more, rest => writeField field (',' :: writeFields (next :: more) rest)
termination_by structural fields => fields

def writeField : String × Json → List Char → List Char
  | (key, value), rest => writeString key (':' :: writeCompact value rest)
termination_by structural field => field

end

/-- A new line, indented by two blanks for each level. -/
def newLine (level : Nat) (rest : List Char) : List Char :=
  '\n' :: (List.replicate (2 * level) ' ' ++ rest)

mutual

/-- Write a value with one item on each line in front of `rest`. -/
def writePretty (level : Nat) : Json → List Char → List Char
  | .null, rest => "null".toList ++ rest
  | .bool true, rest => "true".toList ++ rest
  | .bool false, rest => "false".toList ++ rest
  | .integer n, rest => writeInteger n rest
  | .decimal spelling, rest => spelling.toList ++ rest
  | .string s, rest => writeString s rest
  | .unpaired, rest => writeString "" rest
  | .array [], rest => '[' :: ']' :: rest
  | .array (item :: more), rest =>
    '[' :: newLine (level + 1)
      (writePretty (level + 1) item (writePrettyItems level more (']' :: rest)))
  | .object [], rest => '\x7b' :: '\x7d' :: rest
  | .object (field :: more), rest =>
    '\x7b' :: newLine (level + 1)
      (writePrettyField (level + 1) field (writePrettyFields level more ('\x7d' :: rest)))
termination_by structural value => value

/-- The items of an array after the first one, up to the closing bracket. -/
def writePrettyItems (level : Nat) : List Json → List Char → List Char
  | [], rest => newLine level rest
  | item :: more, rest =>
    ',' :: newLine (level + 1) (writePretty (level + 1) item (writePrettyItems level more rest))
termination_by structural items => items

/-- The fields of an object after the first one, up to the closing brace. -/
def writePrettyFields (level : Nat) : List (String × Json) → List Char → List Char
  | [], rest => newLine level rest
  | field :: more, rest =>
    ',' :: newLine (level + 1)
      (writePrettyField (level + 1) field (writePrettyFields level more rest))
termination_by structural fields => fields

def writePrettyField (level : Nat) : String × Json → List Char → List Char
  | (key, value), rest => writeString key (':' :: ' ' :: writePretty level value rest)
termination_by structural field => field

end

/-- The text of a value without blanks. -/
def compact (j : Json) : String := String.ofList (j.writeCompact [])

/-- The text of a value with one item on each line. -/
def pretty (j : Json) : String := String.ofList (j.writePretty 0 [])

end ScopeLint.Json
