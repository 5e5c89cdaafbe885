import TableDoc.Text.CharClass

/-!
# Quoted display of a text

A text in a message stands between single quotes, or between double quotes when it holds a single
quote and no double one. The backslash, the quote in use and line breaks are escaped, and every
other character without a picture is written as its code point in the shortest of three widths.
-/

namespace TableDoc.Text

/-- The quote around a display: double only when that saves escaping. -/
def displayQuote (cs : List Char) : Char :=
  if cs.contains '\'' && !cs.contains '"' then '"' else '\''

/-- The `width` lowest hexadecimal digits of a number, highest first. -/
def hexDigits : Nat → Nat → List Char
  | 0, _ => []
  | width + 1, n => hexDigits width (n / 16) ++ [Nat.digitChar (n % 16)]

/-- A character without a picture by its code point. -/
def escapeCode (n : Nat) : List Char :=
  if n < 0x100 then '\\' :: 'x' :: hexDigits 2 n
  else if n < 0x10000 then '\\' :: 'u' :: hexDigits 4 n
  else '\\' :: 'U' :: hexDigits 8 n

/-- One character as it stands between the quotes `quote`. -/
def displayChar (quote c : Char) : List Char :=
  if c == quote || c == '\\' then ['\\', c]
  else if c == '\n' then ['\\', 'n']
  else if c == '\r' then ['\\', 'r']
  else if c == '\t' then ['\\', 't']
  else if isPrintable c then [c]
  else escapeCode c.toNat

/-- The text between quotes, as a message shows it. -/
def display (s : String) : String :=
  let quote := displayQuote s.toList
  String.ofList (quote :: s.toList.flatMap (displayChar quote) ++ [quote])

end TableDoc.Text
