import StubGraft.Text.Printable

/-!
# Quoted texts

A text shown inside a message stands in quotes, with every character that could be
misread escaped.  Apostrophes are the quotes, unless the text holds apostrophes and no
quotation marks.
-/

namespace StubGraft.Text

/-- How one character stands between the given quotes. -/
def escapeChar (quote c : Char) : Text :=
  if c = quote ∨ c = '\\' then ['\\', c]
  else if c = '\n' then ['\\', 'n']
  else if c = '\r' then ['\\', 'r']
  else if c = '\t' then ['\\', 't']
  else if isPrintable c then [c]
  else if c.toNat < 0x100 then '\\' :: 'x' :: hex 2 c.toNat
  else if c.toNat < 0x10000 then '\\' :: 'u' :: hex 4 c.toNat
  else '\\' :: 'U' :: hex 8 c.toNat

/-- The quotes of a text: quotation marks if it holds apostrophes only, else apostrophes. -/
def quoteFor (t : Text) : Char :=
  if t.contains '\'' && !t.contains '"' then '"' else '\''

/-- The text in quotes, with its unprintable characters escaped. -/
def quoted (t : Text) : Text :=
  let quote := quoteFor t
  quote :: t.flatMap (escapeChar quote) ++ [quote]

end StubGraft.Text
