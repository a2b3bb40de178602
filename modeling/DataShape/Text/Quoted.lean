import DataShape.Text.Extender
import DataShape.Text.Printable

/-!
# Quoted text

The quoted form of a text stands between double quotes. Quotes, backslashes, line ends, tabs and
NUL are escaped by a backslash; a character that cannot be shown, or that would join the one before
it, is written as its code point in braces. All else stands as it is.
-/

namespace DataShape.Quoted

/-- The quoted form of one character. -/
def escape (c : Char) : List Char :=
  if c = '\x00' then ['\\', '0']
  else if c = '\t' then ['\\', 't']
  else if c = '\r' then ['\\', 'r']
  else if c = '\n' then ['\\', 'n']
  else if c = '\\' || c = '"' then ['\\', c]
  else if isExtender c || !isPrintable c then
    ['\\', 'u', '\x7b'] ++ Nat.toDigits 16 c.toNat ++ ['\x7d']
  else [c]

/-- The quoted form of a text. -/
def quote (s : String) : String :=
  String.ofList ('"' :: (s.toList.flatMap escape ++ ['"']))

end DataShape.Quoted
