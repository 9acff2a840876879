-- SUMMARY: Reading integers in free form: blanks, signs, digits of any script, underscores.
import Descent.Text.Decimal
import Descent.Text.Quoted
import Descent.Text.AnyScript

/-!
# Integers in free form

An integer in free form may have blanks around it, a sign in front, digits of
any script, and single underscores between digits. The limit on numerals counts
the digits alone. A text of another form is refused with its quoted form, of
which at most `shownWidth` units are reported.
-/

namespace Descent.Text

/-- The most units of a refused text that are reported. -/
def shownWidth : Nat := 200

/-- The fault for a text that is no integer. -/
def notInteger (text : List Char) : Fault :=
  .badNumeral (String.ofList ((quotedWith isPrintable text).take shownWidth))

/-- Whether a unit may stand inside a numeral. -/
def isInner (c : Char) : Bool := c == '_' || (plainDigit? c).isSome

/-- Whether each underscore stands between digits and the last unit is a digit;
`afterDigit` says whether a digit stands before the units. -/
def isGrouped (afterDigit : Bool) : List Char → Bool
  | [] => afterDigit
  | c :: rest => if c = '_' then afterDigit && isGrouped false rest else isGrouped true rest

/-- The sign of a text, if it has one, and what stands behind it. -/
def splitSign : List Char → Bool × List Char
  | '-' :: rest => (true, rest)
  | '+' :: rest => (false, rest)
  | rest => (false, rest)

/-- Reads an integer in free form. A numeral that is too long is refused as such
even where the text goes on with units that no integer has. -/
def readInteger (text : List Char) : Except Fault Int :=
  let (negative, body) := splitSign (text.dropWhile isOuterBlank)
  let numeral := body.takeWhile isInner
  if isGrouped false numeral then do
    let value ← readNumeral (numeral.filterMap plainDigit?)
    if (body.dropWhile isInner).all isOuterBlank then
      return if negative then -value else value
    else
      throw (notInteger text)
  else
    .error (notInteger text)

end Descent.Text
