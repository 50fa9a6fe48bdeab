import EventWiring.Json.Binary64

/-!
# JSON values

A value is what a JSON text says: numbers are told apart into whole numbers and binary fractions,
and an object keeps its members in the order in which they stand.
-/

namespace EventWiring

namespace Json

inductive Number where
  | integer (n : Int)
  | fraction (x : Binary64)
deriving DecidableEq, Repr

end Json

inductive Json where
  | null
  | bool (b : Bool)
  | number (n : Json.Number)
  | string (s : String)
  | array (items : List Json)
  | object (members : List (String × Json))
deriving Inhabited

namespace Json

abbrev Members := List (String × Json)

namespace Members

/-- The first member of that name. -/
def get? (name : String) : Members → Option Json
  | [] => none
  | (key, value) :: rest => if key = name then some value else get? name rest

/-- Replaces the first member of that name, or adds one at the end. -/
def put (name : String) (value : Json) : Members → Members
  | [] => [(name, value)]
  | (key, old) :: rest =>
    if key = name then (key, value) :: rest else (key, old) :: put name value rest

def erase (name : String) (ms : Members) : Members := ms.filter (·.1 ≠ name)

end Members

/-- The members of an object; every other value has none. -/
def members : Json → Members
  | .object ms => ms
  | _ => []

def get? (j : Json) (name : String) : Option Json := j.members.get? name

def asString? : Json → Option String
  | .string s => some s
  | _ => none

def int (n : Int) : Json := .number (.integer n)

/-- A member that is written only when there is a value. -/
def member? (name : String) (value : Option Json) : Members :=
  match value with
  | some v => [(name, v)]
  | none => []

/-- `null` for an absent value. -/
def orNull (value : Option Json) : Json := value.getD .null

end Json

end EventWiring
