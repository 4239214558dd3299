import ScopeLint.Json
import ScopeLint.Text.Hexadecimal

/-!
# Reading JSON

The whole text has to be one value, with blanks around it.  There is no text for a refusal.
-/

namespace ScopeLint.Json

def isBlank (c : Char) : Bool := c == ' ' || c == '\t' || c == '\n' || c == '\r'

def skip (cs : List Char) : List Char := cs.dropWhile isBlank

/-- The code of four hexadecimal digits. -/
def hexCode? (a b c d : Char) : Option Nat := do
  let high := (← Text.hexValue? a) * 16 + (← Text.hexValue? b)
  let low := (← Text.hexValue? c) * 16 + (← Text.hexValue? d)
  return high * 256 + low

/-- The characters that a letter after a backslash stands for. -/
def escaped? (c : Char) : Option Nat :=
  match c with
  | '\x22' => some 0x22
  | '\\' => some 0x5c
  | '/' => some 0x2f
  | 'b' => some 0x08
  | 'f' => some 0x0c
  | 'n' => some 0x0a
  | 'r' => some 0x0d
  | 't' => some 0x09
  | _ => none

/-- The codes of a string up to its closing quote; `codes` are those read so far, the last
first.  Codes may be halves of surrogate pairs. -/
def readCodes (codes : List Nat) : List Char → Option (List Nat × List Char)
  | [] => none
  | '\x22' :: rest => some (codes, rest)
  | '\\' :: 'u' :: a :: b :: c :: d :: rest =>
    match hexCode? a b c d with
    | some code => readCodes (code :: codes) rest
    | none => none
  | '\\' :: c :: rest =>
    match escaped? c with
    | some code => readCodes (code :: codes) rest
    | none => none
  | c :: rest =>
    if c = '\\' ∨ c.toNat < 0x20 then none else readCodes (c.toNat :: codes) rest

/-- The characters of codes given last first, with surrogate pairs joined.  There are none for
half a pair. -/
def charsOf (chars : List Char) : List Nat → Option (List Char)
  | [] => some chars
  | low :: high :: rest =>
    if 0xDC00 ≤ low ∧ low ≤ 0xDFFF then
      if 0xD800 ≤ high ∧ high ≤ 0xDBFF then
        charsOf (Char.ofNat (0x10000 + (high - 0xD800) * 0x400 + (low - 0xDC00)) :: chars) rest
      else none
    else if 0xD800 ≤ low ∧ low ≤ 0xDBFF then none
    else charsOf (Char.ofNat low :: chars) (high :: rest)
  | [code] =>
    if 0xD800 ≤ code ∧ code ≤ 0xDFFF then none else some (Char.ofNat code :: chars)

/-- A string, after its first quote; the text is missing where half a surrogate pair stands. -/
def readString (cs : List Char) : Option (Option String × List Char) :=
  (readCodes [] cs).map (fun (codes, rest) => ((charsOf [] codes).map String.ofList, rest))

/-- The object of fields given last first.  A key with half a surrogate pair has no text, so an
object with such a key can only be passed over, like a string with one. -/
def objectOf (fields : List (Option String × Json)) : Json :=
  match fields.mapM (fun (key, value) => key.map (fun k => (k, value))) with
  | some fields => .object fields.reverse
  | none => .unpaired

def digitsValue (digits : List Char) : Nat :=
  digits.foldl (fun n c => n * 10 + (c.toNat - 48)) 0

/-- The digits at the start of the text, and what follows. -/
def readDigits (cs : List Char) : List Char × List Char :=
  (cs.takeWhile Char.isDigit, cs.dropWhile Char.isDigit)

def readFraction (cs : List Char) : Option (List Char × List Char) :=
  match cs with
  | '.' :: rest =>
    let (digits, after) := readDigits rest
    if digits.isEmpty then none else some ('.' :: digits, after)
  | _ => some ([], cs)

def readExponent (cs : List Char) : Option (List Char × List Char) :=
  match cs with
  | c :: rest =>
    if c == 'e' || c == 'E' then
      let (sign, rest) := match rest with
        | '+' :: rest => (['+'], rest)
        | '-' :: rest => (['-'], rest)
        | _ => ([], rest)
      let (digits, after) := readDigits rest
      if digits.isEmpty then none else some (c :: sign ++ digits, after)
    else some ([], cs)
  | [] => some ([], [])

/-- A number.  No digit follows a leading zero. -/
def readNumber (cs : List Char) : Option (Json × List Char) := do
  let (sign, rest) := match cs with
    | '-' :: rest => (['-'], rest)
    | _ => ([], cs)
  let (digits, rest) := readDigits rest
  match digits with
  | [] => none
  | '0' :: _ :: _ => none
  | _ =>
    let (fraction, rest) ← readFraction rest
    let (exponent, rest) ← readExponent rest
    let value := digitsValue digits
    if fraction.isEmpty && exponent.isEmpty && (sign.isEmpty || value != 0) then
      return (.integer (if sign.isEmpty then value else -value), rest)
    else
      return (.decimal (String.ofList (sign ++ digits ++ fraction ++ exponent)), rest)

mutual

def readValue : Nat → List Char → Option (Json × List Char)
  | 0, _ => none
  | fuel + 1, cs =>
    match skip cs with
    | '\x22' :: rest =>
      match readString rest with
      | some (some s, rest) => some (.string s, rest)
      | some (none, rest) => some (.unpaired, rest)
      | none => none
    | '[' :: rest =>
      match skip rest with
      | ']' :: rest => some (.array [], rest)
      | rest => readItems fuel [] rest
    | '\x7b' :: rest =>
      match skip rest with
      | '\x7d' :: rest => some (.object [], rest)
      | rest => readFields fuel [] rest
    | 'n' :: 'u' :: 'l' :: 'l' :: rest => some (.null, rest)
    | 't' :: 'r' :: 'u' :: 'e' :: rest => some (.bool true, rest)
    | 'f' :: 'a' :: 'l' :: 's' :: 'e' :: rest => some (.bool false, rest)
    | cs => readNumber cs
termination_by structural fuel => fuel

/-- The items of an array up to its closing bracket; `items` are those read so far, the last
first. -/
def readItems : Nat → List Json → List Char → Option (Json × List Char)
  | 0, _, _ => none
  | fuel + 1, items, cs =>
    match readValue fuel cs with
    | none => none
    | some (item, rest) =>
      match skip rest with
      | ',' :: rest => readItems fuel (item :: items) rest
      | ']' :: rest => some (.array (item :: items).reverse, rest)
      | _ => none
termination_by structural fuel => fuel

/-- The fields of an object up to its closing brace; `fields` are those read so far, the last
first. -/
def readFields : Nat → List (Option String × Json) → List Char → Option (Json × List Char)
  | 0, _, _ => none
  | fuel + 1, fields, cs =>
    match skip cs with
    | '\x22' :: rest =>
      match readString rest with
      | some (key, rest) =>
        match skip rest with
        | ':' :: rest =>
          match readValue fuel rest with
          | none => none
          | some (value, rest) =>
            match skip rest with
            | ',' :: rest => readFields fuel ((key, value) :: fields) rest
            | '\x7d' :: rest => some (objectOf ((key, value) :: fields), rest)
            | _ => none
        | _ => none
      | none => none
    | _ => none
termination_by structural fuel => fuel

end

/-- The value that a text stands for, if it is one. -/
def read? (text : String) : Option Json :=
  let cs := text.toList
  match readValue (cs.length + 1) cs with
  | some (value, rest) => if (skip rest).isEmpty then some value else none
  | none => none

end ScopeLint.Json
