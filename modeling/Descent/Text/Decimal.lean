-- SUMMARY: Decimal numerals: their value, reading and writing, and the limit on their length.
import Descent.Fault

/-!
# Decimal numerals

A numeral is a list of the digits `0` to `9`, the most significant first;
leading zeros are allowed. Numerals of more than `digitLimit` digits are neither
read nor written.
-/

namespace Descent.Text

/-- The digits, in ascending order. -/
def digits : List Char := ['0', '1', '2', '3', '4', '5', '6', '7', '8', '9']

/-- Whether a unit is one of the ten digits. -/
def isDigit (c : Char) : Bool := digits.contains c

/-- The number that a digit stands for. -/
def digitValue (c : Char) : Nat := c.toNat - '0'.toNat

/-- The number that a numeral stands for. -/
def numeralValue (numeral : List Char) : Nat :=
  numeral.foldl (fun value c => 10 * value + digitValue c) 0

theorem digitValue_lt {c : Char} (h : isDigit c = true) : digitValue c < 10 := by
  simp only [isDigit, digits, List.contains_eq_mem, List.mem_cons, List.not_mem_nil, or_false,
    decide_eq_true_eq] at h
  rcases h with rfl | rfl | rfl | rfl | rfl | rfl | rfl | rfl | rfl | rfl <;> decide

/-- A digit more makes ten times the number, plus the digit. -/
theorem numeralValue_concat (numeral : List Char) (c : Char) :
    numeralValue (numeral ++ [c]) = 10 * numeralValue numeral + digitValue c := by
  simp [numeralValue]

/-- Reads a numeral, if it is not too long. -/
def readNumeral (numeral : List Char) : Except Fault Int :=
  if numeral.length ≤ digitLimit then
    .ok (numeralValue numeral)
  else
    .error (.longNumeral numeral.length)

/-- Whether an integer has a numeral within the limit. -/
def isWritable (n : Int) : Bool := n.natAbs < Nat.pow 10 digitLimit

/-- Writes an integer in decimal, with a minus sign if it is negative. -/
def writeInteger (n : Int) : String := toString n

end Descent.Text
