/-!
# JSON values

* `Json`: a value; an object keeps its members in the order in which they are written.
* `Json.Number`: integers of 64 bits exactly, every other number as it is written.
* `Json.member?`: of members with one name, the last counts.
-/

namespace SchemaCatalog

/-- A number in a JSON text: an integer literal without a sign below `2^64`, the literal `-n` for
`n` from 1 to `2^63`, or any other literal. -/
inductive Json.Number
  | natural (n : UInt64)
  | negative (n : Nat)
  | real (literal : String)
  deriving DecidableEq, Repr

inductive Json
  | null
  | bool (b : Bool)
  | number (n : Json.Number)
  | string (s : String)
  | array (items : List Json)
  | object (members : List (String × Json))
  deriving Repr, Inhabited

namespace Json

/-- The value of the last member called `name`. -/
def lookupLast (name : String) : List (String × Json) → Option Json
  | [] => none
  | (n, v) :: rest => (lookupLast name rest).or (if n = name then some v else none)

def member? (name : String) : Json → Option Json
  | object members => lookupLast name members
  | _ => none

/-- The integer in the range of 64 bits without a sign, if the value is one. -/
def asUInt64? : Json → Option UInt64
  | number (.natural n) => some n
  | _ => none

def asString? : Json → Option String
  | string s => some s
  | _ => none

def asArray? : Json → Option (List Json)
  | array items => some items
  | _ => none

/-- The integer `n`, which has to be below `2^64`. -/
def ofNat (n : Nat) : Json := number (.natural (UInt64.ofNat n))

/-- A value that may be missing. -/
def ofOption {α : Type} (f : α → Json) : Option α → Json
  | some a => f a
  | none => null

end Json

end SchemaCatalog
