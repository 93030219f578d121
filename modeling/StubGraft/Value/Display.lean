import StubGraft.Decimal.DigitLimit
import StubGraft.Decimal.Shortest
import StubGraft.Text.Quoted
import StubGraft.Value.Basic

/-!
# Values in messages

A message shows a value with its texts in quotes; a text that is the whole value can also
be shown bare.  An integer with too many digits cannot be shown, nor can what lies too deep.
-/

namespace StubGraft.Value

mutual

/-- The value as a message shows it, every text in quotes. -/
def inspect : Value → Text
  | .null => Text.lit "None"
  | .bool b => Text.lit (if b then "True" else "False")
  | .int n => Text.ofInt n
  | .float x => x.toText
  | .text t => t.quoted
  | .array items => '[' :: Text.join (Text.lit ", ") (inspectItems items) ++ [']']
  | .object fields => '{' :: Text.join (Text.lit ", ") (inspectFields fields) ++ ['}']

/-- The items of an array, one by one. -/
def inspectItems : List Value → List Text
  | [] => []
  | item :: items => inspect item :: inspectItems items

/-- The fields of an object, each a key in quotes, a colon and its value. -/
def inspectFields : List (Text × Value) → List Text
  | [] => []
  | (key, value) :: fields => (key.quoted ++ Text.lit ": " ++ inspect value) :: inspectFields fields

end

/-- The value as a message shows it, a text without quotes. -/
def display : Value → Text
  | .text t => t
  | value => value.inspect

/-- Why a value cannot be shown. -/
inductive ShowFault where
  /-- An integer in it has too many digits. -/
  | tooManyDigits
  /-- Something in it lies too deep. -/
  | tooDeep
  deriving DecidableEq, Repr

/-- The wording of a failure to show a value. -/
def ShowFault.message : ShowFault → String
  | .tooManyDigits =>
    "Exceeds the limit (" ++ toString maxIntegerDigits ++ " digits) for integer string " ++
      "conversion; use sys.set_int_max_str_digits() to increase the limit"
  | .tooDeep => "maximum recursion depth exceeded while getting the repr of an object"

/-- Why a value cannot be shown with so many levels left, one of which is the value's own: the first
fault on the way through it. -/
def showFault? : Nat → Value → Option ShowFault
  | 0, _ => some .tooDeep
  | _ + 1, .int n => if Nat.pow 10 maxIntegerDigits ≤ n.natAbs then some .tooManyDigits else none
  | levels + 1, .array items => items.findSome? (showFault? levels)
  | levels + 1, .object fields => fields.findSome? fun entry => showFault? levels entry.2
  | _ + 1, _ => none

end StubGraft.Value
