-- SUMMARY: Parsers for digits, natural numbers and integers.
import Descent.Parser.Combinators
import Descent.Text.Decimal

/-!
# Numbers

Numbers are decimal, over the ten digits of `Text.digits` alone. A number takes
every digit that follows, and one with too many digits stops the parse with a
fault. An integer may have a minus sign, which is given back when no digit
follows it.
-/

namespace Descent.Lexeme

open Descent.Parser

variable {ν : Type} {ρ : ν → Type}

/-- A unit that is a digit. -/
def digitUnit : Parser ν ρ Char := oneOf "expected digit" Text.isDigit

/-- The number of a single digit. -/
def digit : Parser ν ρ Int := digitUnit.convert fun c => Text.readNumeral [c]

/-- The number of one or more digits. -/
def natural : Parser ν ρ Int := digitUnit.oneOrMore.convert Text.readNumeral

/-- The change of sign that a minus sign stands for, if there is one. -/
def signed (sign? : Option String) (n : Int) : Except Fault Int :=
  .ok (if sign?.isSome then -n else n)

/-- A natural number with an optional minus sign in front. Fails in place. -/
def integer : Parser ν ρ Int :=
  (apply ((optional ((literal "-").map some) none).map signed) natural).rewind

end Descent.Lexeme
