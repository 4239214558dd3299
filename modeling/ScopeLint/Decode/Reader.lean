/-!
# Taking values apart

Settings come in more than one data format, with one decoder for all.  A `Reader` says how the
values of a format are taken apart: as a record with known fields, a list, a map, or one of the
simple kinds.
-/

namespace ScopeLint

/-- How the values of a data format are taken apart. -/
structure Reader (ν : Type) where
  /-- The value as a record with fields of these names: which value a name has, if any. -/
  record? : List String → ν → Option (String → Option ν)
  /-- The value as a list. -/
  list? : ν → Option (List ν)
  /-- The value as a map with keys of any name. -/
  entries? : ν → Option (List (String × ν))
  /-- The value as a text. -/
  text? : ν → Option String
  /-- The value as a truth value. -/
  flag? : ν → Option Bool
  /-- The value as a natural number below 2^64. -/
  number? : ν → Option Nat
  /-- The value as the name of one of several choices. -/
  name? : ν → Option String
  /-- Does the value say that there is nothing?  `none` if it contradicts itself. -/
  isNothing? : ν → Option Bool

namespace Reader

variable {ν α : Type}

/-- A field that has to be there. -/
def needed (read : ν → Option α) (field : Option ν) : Option α := field.bind read

/-- A field with a default. -/
def orElse (default : α) (read : ν → Option α) (field : Option ν) : Option α :=
  match field with
  | some v => read v
  | none => some default

def optional (r : Reader ν) (read : ν → Option α) (v : ν) : Option (Option α) :=
  match r.isNothing? v with
  | some true => some none
  | some false => (read v).map some
  | none => none

def choice (r : Reader ν) (named? : String → Option α) (v : ν) : Option α :=
  (r.name? v).bind named?

def listOf (r : Reader ν) (read : ν → Option α) (v : ν) : Option (List α) :=
  (r.list? v).bind (fun items => items.mapM read)

def mapOf (r : Reader ν) (read : ν → Option α) (v : ν) : Option (List (String × α)) :=
  (r.entries? v).bind
    (fun entries => entries.mapM (fun (key, value) => (read value).map (fun a => (key, a))))

/-- The bound of numbers: 2^64. -/
def numberBound : Nat := 18446744073709551616

end Reader

end ScopeLint
