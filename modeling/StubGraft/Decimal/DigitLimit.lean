/-!
# The longest integers

An integer with very many digits is refused before it is computed or shown.
-/

namespace StubGraft

/-- The greatest number of digits of an integer that is read or shown. -/
def maxIntegerDigits : Nat := 4300

/-- The wording for an integer with too many digits that is read. -/
def tooManyDigitsMessage (count : Nat) : String :=
  "Exceeds the limit (" ++ toString maxIntegerDigits ++
    " digits) for integer string conversion: value has " ++ toString count ++
    " digits; use sys.set_int_max_str_digits() to increase the limit"

end StubGraft
