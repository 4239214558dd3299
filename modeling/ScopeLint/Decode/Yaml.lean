import ScopeLint.Decode.Reader
import ScopeLint.Text.Hexadecimal
import ScopeLint.Yaml

/-!
# Records in YAML

A record is a mapping in which no known field occurs twice.  Where nothing is written, a record
has no fields, a list no items and a map no entries.  Every scalar is a text.  Numbers and truth
values are plain scalars, or literal ones with the tag of their kind.  A choice is the text of its
name, or nothing after a tag of that name.
-/

namespace ScopeLint.Yaml

def standardTag (kind : String) : Tag := ("tag:yaml.org,2002:" ++ kind).toList.map some

/-- The name of a tag of one's own: what follows its exclamation mark, or the mark alone. -/
def ownName? (tag : Tag) : Option String := do
  match ← tag.text? with
  | ['!'] => return "!"
  | '!' :: name => return String.ofList name
  | _ => none

def nothingWords : List String := ["~", "null", "Null", "NULL"]

/-- Does a scalar say that there is nothing, apart from its tag? -/
def saysNothing (style : ScalarStyle) (text : String) : Bool :=
  style == .plain && (text == "" || nothingWords.contains text)

/-- The text of a scalar that may be of a standard kind. -/
def textOfKind? (kind : String) : Yaml → Option String
  | .scalar .plain _ text => some text
  | .scalar .literal tag text => if tag = some (standardTag kind) then some text else none
  | _ => none

/-- The number of a non-empty run of digits, below the bound. -/
def digits? (base : Nat) (cs : List Char) : Option Nat := do
  if cs.isEmpty then none
  let n ← cs.foldlM (fun acc c => do
    let digit ← Text.hexValue? c
    if digit < base then some (acc * base + digit) else none) 0
  if n < Reader.numberBound then some n else none

/-- Decimal digits after a leading zero are no number. -/
def isZeroLed : List Char → Bool
  | '0' :: rest => !rest.isEmpty && rest.all (fun c => '0' ≤ c && c ≤ '9')
  | _ => false

/-- The number of a plain scalar, with or without a plus sign: decimal, or after `0x`, `0o` or
`0b`. -/
def numeral? (text : List Char) : Option Nat :=
  let cs := if text.head? = some '+' then text.tail else text
  match cs with
  | '0' :: 'x' :: rest => digits? 16 rest
  | '0' :: 'o' :: rest => digits? 8 rest
  | '0' :: 'b' :: rest => digits? 2 rest
  | _ => if isZeroLed cs then none else digits? 10 cs

def truth? (text : String) : Option Bool :=
  if ["true", "True", "TRUE"].contains text then some true
  else if ["false", "False", "FALSE"].contains text then some false
  else none

def choiceName? : Yaml → Option String
  | .scalar style tag text =>
    match tag.bind ownName? with
    | some name => if saysNothing style text then some name else none
    | none => some text
  | _ => none

/-- Does the node say that there is nothing?  With the tag for it a word has to say so too, and
with another tag there is something. -/
def isNothing? : Yaml → Option Bool
  | .scalar style none text => some (saysNothing style text)
  | .scalar .plain (some tag) text =>
    if tag = standardTag "null" then
      if nothingWords.contains text then some true else none
    else some false
  | _ => some false

namespace Document

variable (d : Document)

/-- The entries of a mapping whose keys are scalars. -/
def entries? (v : Yaml) : Option (List (String × Yaml)) :=
  match d.resolve v with
  | .mapping entries =>
    entries.mapM (fun (key, value) => (d.resolve key).text?.map (fun k => (k, value)))
  | v => if v.isEmpty then some [] else none

def record? (names : List String) (v : Yaml) : Option (String → Option Yaml) := do
  let entries ← d.entries? v
  if names.all (fun name => entries.countP (fun e => e.1 == name) ≤ 1) then
    some (fun name => (entries.find? (fun e => e.1 == name)).map Prod.snd)
  else none

def items? (v : Yaml) : Option (List Yaml) :=
  match d.resolve v with
  | .sequence items => some items
  | v => if v.isEmpty then some [] else none

def reader : Reader Yaml where
  record? := d.record?
  list? := d.items?
  entries? := d.entries?
  text? v := (d.resolve v).text?
  flag? v := (textOfKind? "bool" (d.resolve v)).bind truth?
  number? v := (textOfKind? "int" (d.resolve v)).bind (fun text => numeral? text.toList)
  name? v := choiceName? (d.resolve v)
  isNothing? v := Yaml.isNothing? (d.resolve v)

end Document

end ScopeLint.Yaml
