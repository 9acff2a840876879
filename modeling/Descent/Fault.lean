-- SUMMARY: The causes that stop a parse without an outcome, and their wording.

/-!
# Faults

A grammar that does not fit the input is no fault: that is an outcome. A fault
is a cause for which there is no outcome at all, neither while a parser is put
together nor while it runs. No parser recovers from one.
-/

namespace Descent

/-- Why a parser could not be put together, or why its run has no outcome. -/
inductive Fault where
  /-- A position that the source does not have. -/
  | positionOutside (pos : Int) (length : Nat)
  /-- A literal without a unit would match everywhere. -/
  | emptyLiteral
  /-- A bounded repetition with a bound below zero. -/
  | negativeCount (count : Int)
  /-- An unbounded repetition whose body matched in place. -/
  | noProgress (pos : Nat)
  /-- A numeral with more digits than an integer is read from. -/
  | longNumeral (digits : Nat)
  /-- An integer with more digits than are written out. -/
  | longInteger
  /-- A text that is no numeral; `quoted` is the text as it is shown. -/
  | badNumeral (quoted : String)
  /-- A quote or an escape that is not exactly one unit. -/
  | delimiterNotSingle
  /-- A function given by the user refused its argument. -/
  | raised (message : String)
  /-- A reference to a name without a definition. -/
  | unknownName (name : String)
  /-- A value of a kind that the operation does not take. -/
  | illTyped
  deriving DecidableEq, Repr

/-- The most digits that a numeral may have, both read and written. -/
def digitLimit : Nat := 4300

/-- What the reports on long numerals end with. -/
def limitHint : String := "use sys.set_int_max_str_digits() to increase the limit"

/-- The wording of a fault. -/
def Fault.message : Fault → String
  | .positionOutside pos length =>
    s!"Position {pos} is outside of the input (length {length})."
  | .emptyLiteral => "A non-empty literal is required."
  | .negativeCount count => s!"The repetition count can't be negative, got {count}."
  | .noProgress pos => s!"Repeated parser matched without consuming input at position {pos}."
  | .longNumeral digits =>
    s!"Exceeds the limit ({digitLimit} digits) for integer string conversion: " ++
      s!"value has {digits} digits; " ++ limitHint
  | .longInteger =>
    s!"Exceeds the limit ({digitLimit} digits) for integer string conversion; " ++ limitHint
  | .badNumeral quoted => s!"invalid literal for int() with base 10: {quoted}"
  | .delimiterNotSingle => "The quote and the escape must be single characters."
  | .raised message => message
  | .unknownName name => s!"There is no parser of the name {name}."
  | .illTyped => "The operation does not take a value of this kind."

end Descent
