import StubGraft.Text.Basic

/-!
# Blank characters

The characters that separate words and that `strip` removes at both ends of a text:
the ASCII controls from tab to carriage return and the four information separators,
the next-line control, and every character of the space, line and paragraph
separator categories.
-/

namespace StubGraft.Text

/-- Whether a character is blank. -/
def isBlank (c : Char) : Bool :=
  let n := c.toNat
  (0x09 ≤ n && n ≤ 0x0D) || (0x1C ≤ n && n ≤ 0x20) || n == 0x85 || n == 0xA0 || n == 0x1680 ||
    (0x2000 ≤ n && n ≤ 0x200A) || n == 0x2028 || n == 0x2029 || n == 0x202F || n == 0x205F ||
    n == 0x3000

/-- Whether a character is one of the six blanks of ASCII. -/
def isAsciiBlank (c : Char) : Bool :=
  let n := c.toNat
  (0x09 ≤ n && n ≤ 0x0D) || n == 0x20

/-- The text without the blanks at its start. -/
def stripStart (t : Text) : Text := t.dropWhile isBlank

/-- The text without the blanks at both ends. -/
def strip (t : Text) : Text := (stripStart (stripStart t).reverse).reverse

end StubGraft.Text
