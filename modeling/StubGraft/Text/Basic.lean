/-!
# Text

A text is the list of its characters.  Lines, names, stub bodies, path parts and
file contents are all texts, so their functions are plain recursions on lists.

Main notions:

* `Text`: a list of characters;
* `pieces`, `join`: cutting at a separator and putting the pieces together again;
* `occursIn`: whether a text contains another one;
* `ofNat`, `ofInt`: the decimal digits of a number.
-/

namespace StubGraft

/-- A text is the list of its characters. -/
abbrev Text := List Char

namespace Text

instance : LawfulBEq Text := inferInstance

/-- The text of a string literal. -/
def lit (s : String) : Text := s.toList

/-- The string with the characters of a text. -/
def toStr (t : Text) : String := String.ofList t

/-! ## Pieces -/

/-- The pieces between the separators; there is always one piece more than separators. -/
def pieces (sep : Char) : Text → List Text
  | [] => [[]]
  | c :: r =>
    if c = sep then [] :: pieces sep r
    else
      match pieces sep r with
      | [] => [[c]]
      | piece :: more => (c :: piece) :: more

/-- The pieces with the separator between each two of them. -/
def join (sep : Text) : List Text → Text
  | [] => []
  | [piece] => piece
  | piece :: more => piece ++ sep ++ join sep more

/-- Whether `needle` stands somewhere in the text; the empty text stands in every text. -/
def occursIn (needle : Text) : Text → Bool
  | [] => needle.isEmpty
  | c :: r => needle.isPrefixOf (c :: r) || occursIn needle r

/-- The text without what follows, and including, the last occurrence of `c`, and what follows it;
nothing if `c` does not occur. -/
def splitLast? (c : Char) : Text → Option (Text × Text)
  | [] => none
  | d :: r =>
    match splitLast? c r with
    | some (before, after) => some (d :: before, after)
    | none => if d = c then some ([], r) else none

/-- The texts with one added at the end, unless it is there already. -/
def addNew (ts : List Text) (t : Text) : List Text := if t ∈ ts then ts else ts ++ [t]

/-- The distinct texts of a list, in the order of their first occurrences. -/
def distinct (ts : List Text) : List Text := ts.foldl addNew []

/-! ## Numbers -/

/-- The decimal digits of a number. -/
def ofNat (n : Nat) : Text := Nat.toDigits 10 n

/-- The decimal digits of a number, after a minus sign if it is negative. -/
def ofInt : Int → Text
  | .ofNat n => ofNat n
  | .negSucc n => '-' :: ofNat (n + 1)

/-- The lower-case hexadecimal digits of a number, filled with zeros to a width. -/
def hex (width n : Nat) : Text :=
  let digits := Nat.toDigits 16 n
  List.replicate (width - digits.length) '0' ++ digits

/-- The value of a hexadecimal digit of either case. -/
def hexDigit? (c : Char) : Option Nat :=
  if '0' ≤ c ∧ c ≤ '9' then some (c.toNat - '0'.toNat)
  else if 'a' ≤ c ∧ c ≤ 'f' then some (c.toNat - 'a'.toNat + 10)
  else if 'A' ≤ c ∧ c ≤ 'F' then some (c.toNat - 'A'.toNat + 10)
  else none

/-- Whether a character is one of the ten decimal digits of ASCII. -/
def isAsciiDigit (c : Char) : Bool := '0' ≤ c && c ≤ '9'

/-- The number that a list of ASCII digits writes. -/
def toNat (digits : Text) : Nat :=
  digits.foldl (fun n c => 10 * n + (c.toNat - '0'.toNat)) 0

end Text
end StubGraft
