/-!
# JSON values

Objects keep the order of their fields and repeated keys.  Integers are kept apart from other
numbers, of which only the spelling is known.  An escape may leave half of a surrogate pair in a
string; such a string has no text and is a value of its own, and so is an object with such a key.
-/

namespace ScopeLint

inductive Json where
  | null
  | bool (value : Bool)
  | integer (value : Int)
  /-- A number with a fraction or an exponent, or a negative zero. -/
  | decimal (spelling : String)
  | string (value : String)
  /-- A string with half of a surrogate pair, or an object with such a key. -/
  | unpaired
  | array (items : List Json)
  | object (fields : List (String × Json))
  deriving Repr, Inhabited

namespace Json

def nat (n : Nat) : Json := .integer n

def strings (items : List String) : Json := .array (items.map .string)

/-- The value inside, or null. -/
def ofOption (o : Option Json) : Json := o.getD .null

/-- The value of the first field with that key. -/
def field? (j : Json) (key : String) : Option Json :=
  match j with
  | .object fields => (fields.find? (fun f => f.1 == key)).map (·.2)
  | _ => none

end Json

end ScopeLint
