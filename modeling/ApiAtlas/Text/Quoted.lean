import ApiAtlas.Text.Hex
import ApiAtlas.Text.Printable

/-!
# Quoted names

A name inside a message is shown between quotation marks, so that blanks and invisible characters
can be seen. Apostrophes are the usual marks; double quotes take over when the name holds an
apostrophe and no double quote.
-/

set_option autoImplicit false

namespace ApiAtlas.Text

/-- The mark that encloses a quoted name. -/
def quoteMark (s : List Char) : Char :=
  if s.contains '\'' && !s.contains '"' then '"' else '\''

/-- One character of a quoted name: the backslash, the mark and the three common controls get a
backslash, other invisible characters are written by their code point. -/
def quoteChar (mark c : Char) : List Char :=
  if c = '\\' || c = mark then ['\\', c]
  else if c = '\n' then ['\\', 'n']
  else if c = '\r' then ['\\', 'r']
  else if c = '\t' then ['\\', 't']
  else if isPrintable c then [c]
  else if c.toNat < 0x100 then ['\\', 'x'] ++ hexDigits 2 c.toNat
  else if c.toNat < 0x10000 then ['\\', 'u'] ++ hexDigits 4 c.toNat
  else ['\\', 'U'] ++ hexDigits 8 c.toNat

/-- The name between its quotation marks. -/
def quoted (s : String) : String :=
  let cs := s.toList
  let mark := quoteMark cs
  String.ofList (mark :: cs.flatMap (quoteChar mark) ++ [mark])

end ApiAtlas.Text
