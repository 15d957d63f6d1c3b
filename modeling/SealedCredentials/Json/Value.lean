import SealedCredentials.Arithmetic.Shortest
import SealedCredentials.Text.Quoted

/-!
# JSON values

The tree behind a JSON text.  Integers of 64 bits keep their value; every other number is one
of 53 significant bits.  The members of an object are kept in the order of their names, one
for each name: a later member replaces an earlier one of the same name.
-/

set_option autoImplicit false

namespace SealedCredentials.Json

/-- A number as it is kept. -/
inductive Number where
  /-- An integer from zero to below 2 ^ 64. -/
  | natural (value : Nat)
  /-- An integer from -2 ^ 63 to below zero, by its magnitude. -/
  | negative (magnitude : Nat)
  /-- Any other number; zero has a sign here. -/
  | real (negative : Bool) (magnitude : Arithmetic.Binary64)
  deriving DecidableEq, Repr

/-- A JSON value. -/
inductive Value where
  | null
  | bool (value : Bool)
  | number (value : Number)
  | text (value : String)
  | array (elements : List Value)
  | object (members : List (String × Value))
  deriving Repr

/-- Members in the order of their names with one more, which replaces one of its name. -/
def insertMember (name : String) (value : Value) :
    List (String × Value) → List (String × Value)
  | [] => [(name, value)]
  | (other, kept) :: later =>
    if name = other then (name, value) :: later
    else if name < other then (name, value) :: (other, kept) :: later
    else (other, kept) :: insertMember name value later

/-- What stands where something else is expected. -/
inductive Found where
  | null
  | bool (value : Bool)
  | number (value : Number)
  | text (value : String)
  | sequence
  | map
  deriving DecidableEq, Repr

/-- What a value is, without what it holds. -/
def Value.found : Value → Found
  | .null => .null
  | .bool value => .bool value
  | .number value => .number value
  | .text value => .text value
  | .array _ => .sequence
  | .object _ => .map

/-- The wording for a number. -/
def Number.describe : Number → String
  | .natural value => "integer `" ++ toString value ++ "`"
  | .negative magnitude => "integer `-" ++ toString magnitude ++ "`"
  | .real belowZero magnitude =>
    "floating point `" ++ Arithmetic.Shortest.text belowZero magnitude ++ "`"

/-- The wording for what stands where something else is expected. -/
def Found.describe : Found → String
  | .null => "null"
  | .bool value => "boolean `" ++ toString value ++ "`"
  | .number value => value.describe
  | .text value => "string " ++ Text.quoted value
  | .sequence => "sequence"
  | .map => "map"

/-- The kind of a value in one word. -/
def Value.kindName : Value → String
  | .null => "null"
  | .bool _ => "boolean"
  | .number _ => "number"
  | .text _ => "string"
  | .array _ => "array"
  | .object _ => "object"

/-- Why a text does not hold what is expected of it. -/
inductive Fault where
  /-- The text is not JSON, or holds a number or a nesting that is too large. -/
  | malformed
  | wrongType (found : Found) (expected : String)
  | outOfRange (found : Number) (expected : String)
  | badLength (length : Nat) (expected : String)
  | missing (field : String)
  | duplicate (field : String)
  deriving DecidableEq, Repr

/-- The wording of a fault. -/
def Fault.message : Fault → String
  | .malformed => "not a JSON text"
  | .wrongType found expected => "invalid type: " ++ found.describe ++ ", expected " ++ expected
  | .outOfRange found expected =>
    "invalid value: " ++ found.describe ++ ", expected " ++ expected
  | .badLength length expected =>
    "invalid length " ++ toString length ++ ", expected " ++ expected
  | .missing field => "missing field `" ++ field ++ "`"
  | .duplicate field => "duplicate field `" ++ field ++ "`"

end SealedCredentials.Json
