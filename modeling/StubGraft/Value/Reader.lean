import StubGraft.Decimal.DigitLimit
import StubGraft.Text.Lines
import StubGraft.Value.Basic

/-!
# Reading values

The text of a settings file is one JSON value, between blanks.  Beyond the standard the
names of the infinities and of not-a-number are numbers.  Of equal keys in an object the
last value counts, at the place of the first.

Main notions:

* `ReadError`: what is wrong with a text and where, with its wording;
* `Value.read`: the value of a text.
-/

namespace StubGraft

/-- What a text lacks or has too much of. -/
inductive Flaw where
  /-- No value starts here. -/
  | value
  /-- No key in quotes starts here. -/
  | key
  /-- No colon follows a key. -/
  | colon
  /-- No comma or closing bracket follows an item. -/
  | comma
  /-- Something follows the value. -/
  | extra
  /-- A text is not closed. -/
  | unterminated
  /-- A control character stands in a text. -/
  | control
  /-- An escape is unknown. -/
  | escape
  /-- An escape by code has no four hexadecimal digits. -/
  | codeEscape
  /-- The text starts with a byte order mark. -/
  | byteOrderMark
  deriving DecidableEq, Repr

/-- The wording of a flaw. -/
def Flaw.message : Flaw → String
  | .value => "Expecting value"
  | .key => "Expecting property name enclosed in double quotes"
  | .colon => "Expecting ':' delimiter"
  | .comma => "Expecting ',' delimiter"
  | .extra => "Extra data"
  | .unterminated => "Unterminated string starting at"
  | .control => "Invalid control character at"
  | .escape => "Invalid \\escape"
  | .codeEscape => "Invalid \\uXXXX escape"
  | .byteOrderMark => "Unexpected UTF-8 BOM (decode using utf-8-sig)"

/-- Why a text is not read as a value. -/
inductive ReadError where
  /-- A flaw at a position, counted in characters from zero. -/
  | malformed (flaw : Flaw) (position : Nat)
  /-- An integer with more digits than are read. -/
  | tooManyDigits (count : Nat)
  deriving DecidableEq, Repr

/-- The wording of an error in a text: the flaw, its line and column, and its position. -/
def ReadError.message (source : Text) : ReadError → String
  | .malformed flaw position =>
    let (line, column) := source.lineColumn position
    flaw.message ++ ": line " ++ toString line ++ " column " ++ toString column ++
      " (char " ++ toString position ++ ")"
  | .tooManyDigits count => tooManyDigitsMessage count

namespace Value

/-- A place in a text: its position and what follows it. -/
structure Cursor where
  /-- How many characters stand before. -/
  position : Nat
  /-- The characters that follow. -/
  rest : Text

/-- Whether a character is blank between values. -/
def isSpace (c : Char) : Bool := c == ' ' || c == '\t' || c == '\n' || c == '\r'

/-- The place of the next character that is not blank. -/
def skipSpace (position : Nat) : Text → Cursor
  | [] => ⟨position, []⟩
  | c :: r => if isSpace c then skipSpace (position + 1) r else ⟨position, c :: r⟩

/-! ## Texts -/

/-- The number written by the first four characters, if they are hexadecimal digits. -/
def hex4? : Text → Option Nat
  | a :: b :: c :: d :: _ => do
    let a ← Text.hexDigit? a
    let b ← Text.hexDigit? b
    let c ← Text.hexDigit? c
    let d ← Text.hexDigit? d
    return ((a * 16 + b) * 16 + c) * 16 + d
  | _ => none

/-- The character of a code; a half of a surrogate pair alone has none and is replaced. -/
def charOfCode (n : Nat) : Char :=
  if 0xD800 ≤ n ∧ n ≤ 0xDFFF then Char.ofNat 0xFFFD else Char.ofNat n

/-- Reads an escape by code: the character and how many characters after the backslash it takes.
The digits have to be followed by a further character.  Two escapes that form a surrogate pair are
one character. -/
def readCodeEscape (backslash : Nat) (digits : Text) : Except ReadError (Char × Nat) :=
  if digits.length ≤ 4 then .error (.malformed .codeEscape (backslash + 1))
  else
    match hex4? digits with
    | none => .error (.malformed .codeEscape (backslash + 1))
    | some high =>
      if 0xD800 ≤ high ∧ high ≤ 0xDBFF ∧ 10 < digits.length then
        match digits.drop 4 with
        | '\\' :: 'u' :: more =>
          match hex4? more with
          | none => .error (.malformed .codeEscape (backslash + 7))
          | some low =>
            if 0xDC00 ≤ low ∧ low ≤ 0xDFFF then
              .ok (Char.ofNat (0x10000 + (high - 0xD800) * 0x400 + (low - 0xDC00)), 11)
            else .ok (charOfCode high, 5)
        | _ => .ok (charOfCode high, 5)
      else .ok (charOfCode high, 5)

/-- Reads what follows a backslash: the character and how many characters it takes. -/
def readEscape (start backslash : Nat) : Text → Except ReadError (Char × Nat)
  | [] => .error (.malformed .unterminated start)
  | '"' :: _ => .ok ('"', 1)
  | '\\' :: _ => .ok ('\\', 1)
  | '/' :: _ => .ok ('/', 1)
  | 'b' :: _ => .ok ('\x08', 1)
  | 'f' :: _ => .ok ('\x0c', 1)
  | 'n' :: _ => .ok ('\n', 1)
  | 'r' :: _ => .ok ('\r', 1)
  | 't' :: _ => .ok ('\t', 1)
  | 'u' :: digits => readCodeEscape backslash digits
  | _ :: _ => .error (.malformed .escape backslash)

/-- Reads the characters of a text up to its closing quote, passing over `skip` characters of an
escape already read; `start` is the position of the opening quote and `seen` holds the characters
read, in reverse. -/
def readChars (start : Nat) (position skip : Nat) (seen : Text) :
    Text → Except ReadError (Text × Cursor)
  | [] => .error (.malformed .unterminated start)
  | c :: r =>
    match skip with
    | k + 1 => readChars start (position + 1) k seen r
    | 0 =>
      if c = '"' then .ok (seen.reverse, ⟨position + 1, r⟩)
      else if c = '\\' then
        match readEscape start position r with
        | .error e => .error e
        | .ok (d, taken) => readChars start (position + 1) taken (d :: seen) r
      else if c.toNat < 0x20 then .error (.malformed .control position)
      else readChars start (position + 1) 0 (c :: seen) r

/-! ## Numbers -/

/-- The digits at the start of a text, and what follows them. -/
def spanDigits (t : Text) : Text × Text :=
  (t.takeWhile Text.isAsciiDigit, t.dropWhile Text.isAsciiDigit)

/-- The digits after a decimal point at the start of a text, and what follows them. -/
def spanFraction : Text → Text × Text
  | '.' :: r =>
    match spanDigits r with
    | ([], _) => ([], '.' :: r)
    | found => found
  | r => ([], r)

/-- The exponent at the start of a text, and what follows it. -/
def spanExponent : Text → Option Int × Text
  | mark :: r =>
    if mark = 'e' ∨ mark = 'E' then
      let (negative, digits) :=
        match r with
        | '-' :: more => (true, more)
        | '+' :: more => (false, more)
        | more => (false, more)
      match spanDigits digits with
      | ([], _) => (none, mark :: r)
      | (found, rest) =>
        let size : Int := Text.toNat found
        (some (if negative then -size else size), rest)
    else (none, mark :: r)
  | [] => (none, [])

/-- The whole part of a number: a zero, or digits of which the first is not zero. -/
def spanWhole : Text → Text × Text
  | '0' :: r => (['0'], r)
  | r => spanDigits r

/-- Reads a number: with a fraction or an exponent it is a floating point number, else an integer.
-/
def readNumber (at_ : Cursor) : Except ReadError (Value × Cursor) :=
  let (negative, unsigned) :=
    match at_.rest with
    | '-' :: r => (true, r)
    | r => (false, r)
  match spanWhole unsigned with
  | ([], _) => .error (.malformed .value at_.position)
  | (whole, afterWhole) =>
    let (fraction, afterFraction) := spanFraction afterWhole
    let (exponent, rest) := spanExponent afterFraction
    let next : Cursor := ⟨at_.position + (at_.rest.length - rest.length), rest⟩
    if fraction.isEmpty && exponent.isNone then
      if maxIntegerDigits < whole.length then .error (.tooManyDigits whole.length)
      else
        let size : Int := Text.toNat whole
        .ok (.int (if negative then -size else size), next)
    else
      let scale : Int := exponent.getD 0 - fraction.length
      .ok (.float (Binary64.ofDecimal negative (Text.toNat (whole ++ fraction)) scale), next)

/-- The values that are written as a word. -/
def words : List (Text × Value) :=
  [(Text.lit "null", .null), (Text.lit "true", .bool true), (Text.lit "false", .bool false),
    (Text.lit "NaN", .float .nan), (Text.lit "Infinity", .float (.infinite false)),
    (Text.lit "-Infinity", .float (.infinite true))]

/-- Reads a word or a number. -/
def readScalar (at_ : Cursor) : Except ReadError (Value × Cursor) :=
  match words.find? fun word => word.1.isPrefixOf at_.rest with
  | some (word, value) => .ok (value, ⟨at_.position + word.length, at_.rest.drop word.length⟩)
  | none => readNumber at_

/-! ## Arrays, objects and whole texts -/

mutual

/-- Reads a value that starts at the given place; `fuel` bounds the depth of the calls. -/
def readValue (fuel : Nat) (at_ : Cursor) : Except ReadError (Value × Cursor) :=
  match fuel with
  | 0 => .error (.malformed .value at_.position)
  | fuel + 1 =>
    match at_.rest with
    | '"' :: r => do
      let (t, next) ← readChars at_.position (at_.position + 1) 0 [] r
      return (.text t, next)
    | '[' :: r =>
      let inside := skipSpace (at_.position + 1) r
      match inside.rest with
      | ']' :: r => .ok (.array [], ⟨inside.position + 1, r⟩)
      | _ => readItems fuel [] inside
    | '{' :: r =>
      let inside := skipSpace (at_.position + 1) r
      match inside.rest with
      | '}' :: r => .ok (.object [], ⟨inside.position + 1, r⟩)
      | _ => readFields fuel [] inside
    | _ => readScalar at_

/-- Reads the items of an array up to its bracket; `items` holds those read, in reverse. -/
def readItems (fuel : Nat) (items : List Value) (at_ : Cursor) :
    Except ReadError (Value × Cursor) :=
  match fuel with
  | 0 => .error (.malformed .value at_.position)
  | fuel + 1 => do
    let (item, next) ← readValue fuel at_
    let next := skipSpace next.position next.rest
    match next.rest with
    | ']' :: r => return (.array (item :: items).reverse, ⟨next.position + 1, r⟩)
    | ',' :: r => readItems fuel (item :: items) (skipSpace (next.position + 1) r)
    | _ => .error (.malformed .comma next.position)

/-- Reads the fields of an object up to its brace. -/
def readFields (fuel : Nat) (fields : List (Text × Value)) (at_ : Cursor) :
    Except ReadError (Value × Cursor) :=
  match fuel with
  | 0 => .error (.malformed .value at_.position)
  | fuel + 1 =>
    match at_.rest with
    | '"' :: r => do
      let (key, next) ← readChars at_.position (at_.position + 1) 0 [] r
      let next := skipSpace next.position next.rest
      match next.rest with
      | ':' :: r =>
        let (value, next) ← readValue fuel (skipSpace (next.position + 1) r)
        let fields := setField key value fields
        let next := skipSpace next.position next.rest
        match next.rest with
        | '}' :: r => return (.object fields, ⟨next.position + 1, r⟩)
        | ',' :: r => readFields fuel fields (skipSpace (next.position + 1) r)
        | _ => .error (.malformed .comma next.position)
      | _ => .error (.malformed .colon next.position)
    | _ => .error (.malformed .key at_.position)

end

/-- The value of a text, or the first thing wrong with it.  Of any two nested calls one consumes a
character, so fuel of twice the length of the text never runs out. -/
def read (source : Text) : Except ReadError Value :=
  if source.head? = some (Char.ofNat 0xFEFF) then .error (.malformed .byteOrderMark 0)
  else do
    let (value, next) ← readValue (2 * source.length + 2) (skipSpace 0 source)
    let next := skipSpace next.position next.rest
    if next.rest.isEmpty then return value else throw (.malformed .extra next.position)

end Value
end StubGraft
