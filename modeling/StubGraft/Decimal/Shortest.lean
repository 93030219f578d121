import StubGraft.Decimal.Binary64
import StubGraft.Text.Basic

/-!
# The shortest decimal of a binary number

A floating point number is shown with the fewest digits that read back as the same
number, and of those the nearest to it.

Main notions:

* `Decimal`: digits and the place of the decimal point;
* `shortest`: the shortest decimal that reads back;
* `Decimal.layout`: positional or with an exponent, by the size of the number;
* `Binary64.toText`: the text of a floating point number.
-/

namespace StubGraft

/-- The number `0.d₁d₂… · 10^point`, where `digits` writes `d₁d₂…`. -/
structure Decimal where
  /-- The digits as a natural number. -/
  digits : Nat
  /-- How many places the point stands right of the first digit. -/
  point : Int
  deriving DecidableEq, Repr

namespace Decimal

/-- The power `10^exponent` as numerator and denominator. -/
def powerOfTen (exponent : Int) : Nat × Nat :=
  if 0 ≤ exponent then (Nat.pow 10 exponent.toNat, 1) else (1, Nat.pow 10 (-exponent).toNat)

/-- How many places the decimal point stands right of the first digit of a positive quotient: the
least `point` with `num / den < 10^point`. -/
def pointOf (num den : Nat) : Int :=
  if den ≤ num then ((Nat.toDigits 10 (num / den)).length : Int)
  else
    -- the leading zeros after the point
    let zeros := (List.range 400).find? fun k => den ≤ num * Nat.pow 10 (k + 1)
    Int.neg (zeros.getD 0)

/-- The decimal of `count` digits nearest to `num / den` that reads back as `x`; of the two
neighbours of the value on that grid the nearer one is tried first, and at the same distance the
even one. -/
def ofLength? (x : Binary64) (num den : Nat) (point : Int) (count : Nat) : Option Decimal :=
  let unit := point - count
  let (up, down) := powerOfTen unit
  let n := num * down
  let d := den * up
  let below := n / d
  let twice := 2 * (n % d)
  let candidates :=
    if twice < d ∨ (twice = d ∧ below % 2 = 0) then [below, below + 1] else [below + 1, below]
  (candidates.find? fun digits => Binary64.ofDecimal false digits unit = x).map fun digits =>
    -- one more digit than asked for is a power of ten
    if digits = Nat.pow 10 count then ⟨1, point + 1⟩ else ⟨digits, point⟩

/-- The shortest decimal that reads back as `significand · 2^exponent`. -/
def shortest (significand : Nat) (exponent : Int) : Decimal :=
  let (num, den) :=
    if 0 ≤ exponent then (significand * Nat.pow 2 exponent.toNat, 1)
    else (significand, Nat.pow 2 (-exponent).toNat)
  let point := pointOf num den
  let x := Binary64.finite false significand exponent
  ((List.range 17).findSome? fun k => ofLength? x num den point (k + 1)).getD ⟨0, 0⟩

/-- The digits without the zeros at their end. -/
def trimmed (digits : Text) : Text :=
  (digits.reverse.dropWhile (· == '0')).reverse

/-- The positional form: zeros fill the places up to the point, and one digit at least follows it.
-/
def positional (digits : Text) (point : Int) : Text :=
  let zeros (n : Int) : Text := List.replicate n.toNat '0'
  if point ≤ 0 then Text.lit "0." ++ zeros (-point) ++ digits
  else if (digits.length : Int) ≤ point then
    digits ++ zeros (point - digits.length) ++ Text.lit ".0"
  else digits.take point.toNat ++ '.' :: digits.drop point.toNat

/-- The form with an exponent of two digits at least and always a sign. -/
def scientific (digits : Text) (point : Int) : Text :=
  let exponent := point - 1
  let size := Text.ofNat exponent.natAbs
  let padded := List.replicate (2 - size.length) '0' ++ size
  let mantissa :=
    match digits with
    | first :: second :: rest => first :: '.' :: second :: rest
    | short => short
  mantissa ++ 'e' :: (if exponent < 0 then '-' else '+') :: padded

/-- Positional from `10^-4` up to below `10^16`, with an exponent otherwise. -/
def layout (x : Decimal) : Text :=
  let digits := trimmed (Text.ofNat x.digits)
  if -4 < x.point ∧ x.point ≤ 16 then positional digits x.point else scientific digits x.point

end Decimal

/-- The text of a floating point number. -/
def Binary64.toText : Binary64 → Text
  | .nan => Text.lit "nan"
  | .infinite negative => Text.lit (if negative then "-inf" else "inf")
  | .finite negative significand exponent =>
    let size := if significand = 0 then Text.lit "0.0"
      else (Decimal.shortest significand exponent).layout
    if negative then '-' :: size else size

end StubGraft
