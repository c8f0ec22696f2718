import RouteDoc.Text.Basic
import RouteDoc.Text.Printable

/-! Texts quoted in messages: in apostrophes, or in quotation marks when the text holds an
apostrophe and no quotation mark, with what cannot be printed escaped. -/

namespace RouteDoc.Text

/-- The mark around a quoted text. -/
def quoteMark (t : Text) : Char :=
  if t.contains '\x27' && !t.contains '\x22' then '\x22' else '\x27'

/-- One character between marks. -/
def quoteChar (mark c : Char) : Text :=
  if c = mark ∨ c = '\\' then ['\\', c]
  else if c = '\n' then ['\\', 'n']
  else if c = '\r' then ['\\', 'r']
  else if c = '\t' then ['\\', 't']
  else if isPrintable c then [c]
  else if c.toNat < 0x100 then ['\\', 'x'] ++ ofHex 2 c.toNat
  else if c.toNat < 0x10000 then ['\\', 'u'] ++ ofHex 4 c.toNat
  else ['\\', 'U'] ++ ofHex 8 c.toNat

/-- The quoted form of a text. -/
def quoted (t : Text) : Text :=
  let mark := quoteMark t
  mark :: t.flatMap (quoteChar mark) ++ [mark]

end RouteDoc.Text
