import ScopeLint.Decode.Reader
import ScopeLint.Json

/-!
# Records in JSON

A record is an object, in which no known field may occur twice, or an array of the fields in
order, from which the last ones may be missing.  A choice is the string of its name, or an object
with null under that name.
-/

namespace ScopeLint.Json

def occurrences (fields : List (String × Json)) (name : String) : Nat :=
  fields.countP (fun f => f.1 == name)

/-- The value as a record with fields of these names. -/
def record? (names : List String) : Json → Option (String → Option Json)
  | .object fields =>
    if names.all (fun name => occurrences fields name ≤ 1) then
      some (fun name => (fields.find? (fun f => f.1 == name)).map Prod.snd)
    else none
  | .array items =>
    if items.length ≤ names.length then some (fun name => items[names.idxOf name]?) else none
  | _ => none

/-- How JSON values are taken apart. -/
def reader : Reader Json where
  record? := record?
  list?
    | .array items => some items
    | _ => none
  entries?
    | .object fields => some fields
    | _ => none
  text?
    | .string s => some s
    | _ => none
  flag?
    | .bool b => some b
    | _ => none
  number?
    | .integer n => if 0 ≤ n ∧ n < Reader.numberBound then some n.toNat else none
    | _ => none
  name?
    | .string s => some s
    | .object [(name, .null)] => some name
    | _ => none
  isNothing?
    | .null => some true
    | _ => some false

end ScopeLint.Json
