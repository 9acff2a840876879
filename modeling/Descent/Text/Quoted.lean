-- SUMMARY: The quoted form of a text: the choice of the quote and the escapes.
import Descent.Text.Printable

/-!
# Quoted texts

A text is shown between quotes so that it can be told apart from everything
around it. The quote is single, unless the text has single quotes and no double
ones. The backslash and the quote in use are escaped by a backslash, line feed,
carriage return and tab have letters, and every other unit without a visible
form is shown by its code point in two, four or eight hexadecimal digits.

Which units beyond ASCII have a visible form is a parameter. `Char` leaves out
the surrogates, so the escape of a lone surrogate is the form of no text here.
-/

namespace Descent.Text

/-- The quote for a text. -/
def quoteFor (text : List Char) : Char :=
  if text.contains '\'' && !text.contains '"' then '"' else '\''

/-- The digit of a number below sixteen, in lower case. -/
def hexDigit (n : Nat) : Char :=
  if n < 10 then Char.ofNat ('0'.toNat + n) else Char.ofNat ('a'.toNat + (n - 10))

/-- The last `width` hexadecimal digits of a number. -/
def hexDigits (n : Nat) : (width : Nat) → List Char
  | 0 => []
  | width + 1 => hexDigits (n / 16) width ++ [hexDigit (n % 16)]

/-- A unit by its code point. -/
def codePointEscape (c : Char) : List Char :=
  if c.toNat < 0x100 then '\\' :: 'x' :: hexDigits c.toNat 2
  else if c.toNat < 0x10000 then '\\' :: 'u' :: hexDigits c.toNat 4
  else '\\' :: 'U' :: hexDigits c.toNat 8

/-- A unit as it stands between the given quotes. -/
def quotedUnit (printable : Char → Bool) (quote c : Char) : List Char :=
  if c = quote || c = '\\' then ['\\', c]
  else if c = '\n' then ['\\', 'n']
  else if c = '\r' then ['\\', 'r']
  else if c = '\t' then ['\\', 't']
  else if 0x20 ≤ c.toNat && c.toNat < 0x7f then [c]
  else if 0x80 ≤ c.toNat && printable c then [c]
  else codePointEscape c

/-- The quoted form of a text, given which units beyond ASCII are visible. -/
def quotedWith (printable : Char → Bool) (text : List Char) : List Char :=
  let quote := quoteFor text
  quote :: text.flatMap (quotedUnit printable quote) ++ [quote]

/-- The quoted form of a text. -/
def quoted (text : String) : String := String.ofList (quotedWith isPrintable text.toList)

end Descent.Text
