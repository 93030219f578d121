import StubGraft.Decimal.Binary64
import StubGraft.Text.Basic

/-!
# Values

Settings come from files that may hold any value, and any value may stand where a text is
wanted, so settings keep values as they are.

Main notions:

* `Value`: null, booleans, integers, floating point numbers, texts, arrays, and objects
  whose keys keep their order;
* `kind`: the name of a value's kind, as messages show it;
* `isTruthy`: whether a value counts as true.
-/

namespace StubGraft

/-- A value of a settings file. -/
inductive Value where
  /-- No value. -/
  | null
  /-- A truth value. -/
  | bool (b : Bool)
  /-- An integer of any size. -/
  | int (n : Int)
  /-- A floating point number. -/
  | float (x : Binary64)
  /-- A text. -/
  | text (t : Text)
  /-- A list of values. -/
  | array (items : List Value)
  /-- Keys with values, in order. -/
  | object (fields : List (Text × Value))
  deriving Repr, Inhabited

namespace Value

/-- The name of a value's kind, as messages show it. -/
def kind : Value → String
  | .null => "NoneType"
  | .bool _ => "bool"
  | .int _ => "int"
  | .float _ => "float"
  | .text _ => "str"
  | .array _ => "list"
  | .object _ => "dict"

/-- Whether a value counts as true: zeros, empty texts, arrays and objects, false and null do not.
-/
def isTruthy : Value → Bool
  | .null => false
  | .bool b => b
  | .int n => n != 0
  | .float x => !x.isZero
  | .text t => !t.isEmpty
  | .array items => !items.isEmpty
  | .object fields => !fields.isEmpty

/-- The value of a key in a list of fields. -/
def field? (key : Text) : List (Text × Value) → Option Value
  | [] => none
  | (k, v) :: rest => if k = key then some v else field? key rest

/-- The fields with a key set: in place if it is there, else at the end. -/
def setField (key : Text) (value : Value) : List (Text × Value) → List (Text × Value)
  | [] => [(key, value)]
  | (k, v) :: rest => if k = key then (k, value) :: rest else (k, v) :: setField key value rest

end Value
end StubGraft
