-- SUMMARY: Parsers for texts between quotes, with escapes of one unit.
import Descent.Parser.Combinators

/-!
# Quoted texts

Between two quotes stands any number of plain units and of escaped ones. A plain
unit is neither the quote nor the escape. An escape and the unit after it stand
for the replacement of that unit, or for the unit itself if it has none.
-/

namespace Descent.Lexeme

open Descent.Parser

variable {ν : Type} {ρ : ν → Type}

/-- Units with the text that each stands for after an escape. -/
abbrev Escapes := List (Char × String)

/-- The text that a unit stands for after an escape. -/
def Escapes.replacement (escapes : Escapes) (c : Char) : String :=
  (escapes.lookup c).getD (String.singleton c)

/-- The letters for backspace, form feed, line feed, carriage return and tab. -/
def generalEscapes : Escapes :=
  [('b', "\x08"), ('f', "\x0c"), ('n', "\n"), ('r', "\r"), ('t', "\t")]

/-- An escape and the unit after it. -/
def escapedPiece (escape : Char) (escapes : Escapes) : Parser ν ρ String :=
  (sequence2 (literal (String.singleton escape)) anyUnit).map fun (_, c, ()) =>
    escapes.replacement c

/-- A unit that stands for itself. -/
def plainPiece (quote escape : Char) : Parser ν ρ String :=
  (oneOf "expected a character" fun c => c != quote && c != escape).map String.singleton

/-- The second quote. -/
def closingQuote (quote : Char) : Parser ν ρ String :=
  (literal (String.singleton quote)).withExpected s!"expected closing quote `{quote}`"

/-- A text between two quotes. -/
def quotedString (quote escape : Char) (escapes : Escapes) : Parser ν ρ String :=
  (sequence3 (literal (String.singleton quote))
    ((escapedPiece escape escapes).orElse (plainPiece quote escape)).zeroOrMore
    (closingQuote quote)).map fun (_, pieces, _, ()) => String.join pieces

/-- A text between two quotes; refuses a quote or an escape that is not exactly
one unit. -/
def quotedString? (quote escape : String) (escapes : Escapes) :
    Except Fault (Parser ν ρ String) :=
  match quote.toList, escape.toList with
  | [quote], [escape] => .ok (quotedString quote escape escapes)
  | _, _ => .error .delimiterNotSingle

end Descent.Lexeme
