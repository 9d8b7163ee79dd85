/-
  Quoted text, as error messages show it.

  A text stands between double quotes.  The quote and the backslash are
  preceded by a backslash, five control characters have a letter of their
  own, and a character that is not shown is written `\u{…}` with its code
  point in hexadecimal.
-/
import MarkerStrip.Numeric.Digits
import MarkerStrip.Text.Shown

namespace MarkerStrip.Text

/-- One character of a quoted text. -/
def quoteChar (c : Char) : List Char :=
  if c == '"' then ['\\', '"']
  else if c == '\\' then ['\\', '\\']
  else if c == '\n' then ['\\', 'n']
  else if c == '\r' then ['\\', 'r']
  else if c == '\t' then ['\\', 't']
  else if c == '\x00' then ['\\', '0']
  else if isShown c then [c]
  else '\\' :: 'u' :: '\x7b' :: Numeric.hexText 1 c.toNat ++ ['\x7d']

/-- A text between double quotes. -/
def quoted (s : String) : String :=
  String.ofList ('"' :: s.toList.flatMap quoteChar ++ ['"'])

end MarkerStrip.Text
