-- SUMMARY: Parsers for blanks, words, and tables of words.
import Descent.Parser.Combinators

/-!
# Words

A blank is one of five units, and a word is what stands between blanks. A table
gives tags to whole words; the first spelling that is the word decides.
-/

namespace Descent.Lexeme

open Descent.Parser

variable {ν : Type} {ρ : ν → Type} {τ : Type}

/-- The units that separate words. -/
def blankUnits : List Char := ['\t', '\n', '\x0c', '\r', ' ']

/-- Whether a unit separates words. -/
def isBlank (c : Char) : Bool := blankUnits.contains c

/-! ## Blanks and words -/

/-- A single blank. -/
def blank : Parser ν ρ Char := oneOf "expected whitespace" isBlank

/-- Any number of blanks, also none. -/
def anyBlanks : Parser ν ρ String := blank.zeroOrMore.map String.ofList

/-- One or more blanks. -/
def someBlanks : Parser ν ρ String := blank.oneOrMore.map String.ofList

/-- Everything up to the next blank or the end of the source, but at least one
unit. -/
def word : Parser ν ρ String :=
  (oneOf "unexpected whitespace" fun c => !isBlank c).oneOrMore.map String.ofList

/-! ## Given words -/

/-- A word that is exactly the given text. Fails in place. -/
def wordEquals (text : String) : Parser ν ρ String :=
  satisfyOver (Mismatch.expectedText text) word fun found => .ok (found == text)

/-- Spellings with the tags that they stand for, tag by tag. -/
abbrev Table (τ : Type) := List (τ × List String)

/-- Every spelling of a table with its tag, in order. -/
def Table.spellings (table : Table τ) : List (τ × String) :=
  table.flatMap fun (tag, spellings) => spellings.map fun spelling => (tag, spelling)

/-- The tag of the first spelling in the table that is the whole next word. -/
def lookup (expected : String) (table : Table τ) : Parser ν ρ τ :=
  choice expected (table.spellings.map fun (tag, spelling) => (wordEquals spelling).map fun _ => tag)

end Descent.Lexeme
