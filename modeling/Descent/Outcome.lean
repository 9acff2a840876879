-- SUMMARY: What a parser that runs to its end answers: a match or a failure.
import Descent.Cursor

/-!
# Outcomes

A parser answers with a value and the cursor after the consumed input, or with
what it expected and the cursor at which that is reported. Where a failure is
reported decides whether an alternative is tried after it, so every combinator
states what it does with that cursor.
-/

namespace Descent

/-- A mismatch between grammar and input: what was expected, and where. -/
structure Failure where
  expected : String
  cursor : Cursor
  deriving DecidableEq

/-- The answer of a parser. -/
inductive Outcome (α : Type) where
  | matched (value : α) (cursor : Cursor)
  | failed (failure : Failure)
  deriving DecidableEq

namespace Outcome

variable {α β : Type}

/-- Where to continue after a match, or where a failure is reported. -/
def cursor : Outcome α → Cursor
  | matched _ cursor => cursor
  | failed failure => failure.cursor

/-- Whether the outcome is a match. -/
def isMatch : Outcome α → Bool
  | matched .. => true
  | failed _ => false

/-- Maps the value of a match. -/
def map (f : α → β) : Outcome α → Outcome β
  | matched value cursor => matched (f value) cursor
  | failed failure => failed failure

end Outcome

end Descent
