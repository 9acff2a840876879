-- SUMMARY: Cutting a text into lines at every unit that ends one.

/-!
# Lines

A line ends at a line feed, a carriage return or both in this order, at a line
or page tabulation, at one of the three information separators, at the next-line
control, and at the two separators for lines and paragraphs. What follows the
last of them is a line too, unless it is empty.
-/

namespace Descent.Text

/-- Whether a unit ends a line. -/
def isLineBreak (c : Char) : Bool :=
  c ∈ ['\n', '\r', '\x0b', '\x0c', '\x1c', '\x1d', '\x1e', '\u0085', '\u2028', '\u2029']

/-- The lines of a text, without the units that end them. -/
def lines : List Char → List (List Char)
  | [] => []
  | '\r' :: '\n' :: rest => [] :: lines rest
  | c :: rest =>
    if isLineBreak c then
      [] :: lines rest
    else
      match lines rest with
      | [] => [[c]]
      | line :: others => (c :: line) :: others

end Descent.Text
