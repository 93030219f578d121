import StubGraft.Text.Basic

/-!
# UTF-8

Texts are stored as UTF-8.  Reading stops at the first ill-formed sequence and tells
its extent: the longest run of bytes that starts a well-formed character, or one byte.

Main notions:

* `encodeUtf8`: the bytes of a text;
* `decodeUtf8`: the text of a list of bytes, or where and why they are not UTF-8;
* `Utf8Error.message`: the wording of such an error.
-/

namespace StubGraft.Text

/-- The bytes of a text. -/
def encodeUtf8 (t : Text) : List UInt8 := t.flatMap String.utf8EncodeChar

/-- The number of bytes of a text. -/
def byteLength (t : Text) : Nat := t.foldl (fun n c => n + c.utf8Size) 0

/-- Why a sequence of bytes is ill-formed. -/
inductive Utf8Reason where
  /-- No character starts with this byte. -/
  | badStart
  /-- A byte does not continue the character before it. -/
  | badContinuation
  /-- The bytes end inside a character. -/
  | truncated
  deriving DecidableEq, Repr

/-- An ill-formed sequence of bytes. -/
structure Utf8Error where
  /-- The position of its first byte. -/
  position : Nat
  /-- The value of its first byte. -/
  byte : Nat
  /-- How many bytes it has, at least one. -/
  extent : Nat
  /-- What is wrong with it. -/
  reason : Utf8Reason
  deriving DecidableEq, Repr

/-- The wording of a reason. -/
def Utf8Reason.message : Utf8Reason → String
  | .badStart => "invalid start byte"
  | .badContinuation => "invalid continuation byte"
  | .truncated => "unexpected end of data"

/-- The wording of an error: one byte is shown, of several only the positions. -/
def Utf8Error.message (e : Utf8Error) : String :=
  let place :=
    if e.extent ≤ 1 then
      "byte 0x" ++ toStr (hex 2 e.byte) ++ " in position " ++ toStr (ofNat e.position)
    else
      "bytes in position " ++ toStr (ofNat e.position) ++ "-" ++
        toStr (ofNat (e.position + e.extent - 1))
  "'utf-8' codec can't decode " ++ place ++ ": " ++ e.reason.message

/-- What must follow a first byte: the bits it gives and the range of each following byte. -/
structure Utf8Lead where
  /-- The bits of the first byte that belong to the code point. -/
  bits : Nat
  /-- The least and greatest value of each following byte. -/
  followers : List (Nat × Nat)

/-- The shape of a character by its first byte; no overlong form, no surrogate and nothing beyond
the last code point has one. -/
def utf8Lead? (b : Nat) : Option Utf8Lead :=
  let tail : Nat × Nat := (0x80, 0xBF)
  if b < 0x80 then some ⟨b, []⟩
  else if b < 0xC2 then none
  else if b < 0xE0 then some ⟨b - 0xC0, [tail]⟩
  else if b = 0xE0 then some ⟨0, [(0xA0, 0xBF), tail]⟩
  else if b = 0xED then some ⟨0xD, [(0x80, 0x9F), tail]⟩
  else if b < 0xF0 then some ⟨b - 0xE0, [tail, tail]⟩
  else if b = 0xF0 then some ⟨0, [(0x90, 0xBF), tail, tail]⟩
  else if b < 0xF4 then some ⟨b - 0xF0, [tail, tail, tail]⟩
  else if b = 0xF4 then some ⟨4, [(0x80, 0x8F), tail, tail]⟩
  else none

/-- Reads the following bytes of a character: its code point, or how many bytes were good and
whether the data ended there. -/
def utf8Follow (bits good : Nat) : List (Nat × Nat) → List UInt8 → Except (Nat × Utf8Reason) Nat
  | [], _ => .ok bits
  | _ :: _, [] => .error (good, .truncated)
  | (low, high) :: followers, b :: r =>
    if low ≤ b.toNat ∧ b.toNat ≤ high then
      utf8Follow (bits * 64 + (b.toNat - 0x80)) (good + 1) followers r
    else .error (good, .badContinuation)

/-- Decodes from a position on, passing over `skip` bytes that belong to a character already read.
-/
def decodeUtf8From (position skip : Nat) : List UInt8 → Except Utf8Error Text
  | [] => .ok []
  | b :: r =>
    match skip with
    | k + 1 => decodeUtf8From (position + 1) k r
    | 0 =>
      match utf8Lead? b.toNat with
      | none => .error ⟨position, b.toNat, 1, .badStart⟩
      | some lead =>
        match utf8Follow lead.bits 1 lead.followers r with
        | .error (extent, reason) => .error ⟨position, b.toNat, extent, reason⟩
        | .ok n =>
          match decodeUtf8From (position + 1) lead.followers.length r with
          | .error e => .error e
          | .ok t => .ok (Char.ofNat n :: t)

/-- The text that the bytes encode, or the first ill-formed sequence. -/
def decodeUtf8 (bytes : List UInt8) : Except Utf8Error Text := decodeUtf8From 0 0 bytes

end StubGraft.Text
