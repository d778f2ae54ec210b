import VectorTrial.Text.Blank
import VectorTrial.Text.Hexadecimal
import VectorTrial.Text.Unprintable

/-!
# Quoted text in messages

Some messages show a list of texts so that each can be told from its neighbours: every text stands
between double quotes, and a character that would not show, or would end the quotation, is written
as an escape. Single quotes and printable characters of any script stand as they are.

## Main definitions

* `VectorTrial.Text.escape` — one character inside quotes.
* `VectorTrial.Text.quote` — a quoted text.
* `VectorTrial.Text.quoteList` — a bracketed list of quoted texts.
-/

namespace VectorTrial.Text

/-- Whether a character has a glyph of its own. -/
def isPrintable (c : Char) : Bool :=
  if c.toNat < 0x7F then 0x20 ≤ c.toNat else !inRanges unprintableRanges c.toNat

/-- One character inside double quotes. -/
def escape (c : Char) : List Char :=
  if c = '\x00' then ['\\', '0']
  else if c = '\t' then ['\\', 't']
  else if c = '\r' then ['\\', 'r']
  else if c = '\n' then ['\\', 'n']
  else if c = '\\' then ['\\', '\\']
  else if c = '"' then ['\\', '"']
  else if isPrintable c then [c]
  else ['\\', 'u', '{'] ++ hexNumeral c.toNat ++ ['}']

/-- A text between double quotes, with escapes. -/
def quote (s : String) : String :=
  String.ofList ('"' :: s.toList.flatMap escape ++ ['"'])

/-- Quoted texts in order, between brackets and separated by commas. -/
def quoteList (texts : List String) : String :=
  "[" ++ String.intercalate ", " (texts.map quote) ++ "]"

end VectorTrial.Text
