-- SUMMARY: Parsers as data, and their meaning as readings.
import Descent.Reading

/-!
# Parsers

A parser is a term: the constructors of `Parser` are the combinators from which
all others are put together, and `Parser.reading` is what a term means. Parsers
refer to each other by name (`Parser.ref`); names come from a type `ν`, and
`ρ n` is the type of the values of the parser of name `n`. Recursion is possible
only through names, so a term by itself is well-founded.

Functions and predicates given by the user may refuse their argument with a
fault. `Parser.custom` lets a user's own function from cursors to outcomes take
part; it is bound to nothing that the combinators guarantee.
-/

namespace Descent

/-- Parsers over names `ν`, whose values are of the types `ρ`. -/
inductive Parser (ν : Type) (ρ : ν → Type) : Type → Type 1 where
  /-- Matches the end of the source. -/
  | endOfInput : Parser ν ρ Unit
  /-- Consumes one unit, whatever it is. -/
  | anyUnit : Parser ν ρ Char
  /-- Consumes a text. -/
  | literal (text : String) : Parser ν ρ String
  /-- Fails in place. -/
  | fail {α : Type} (expected : String) : Parser ν ρ α
  /-- Matches in place. -/
  | pure {α : Type} (value : α) : Parser ν ρ α
  /-- Maps the value of a match. -/
  | convert {α β : Type} (p : Parser ν ρ α) (f : α → Except Fault β) : Parser ν ρ β
  /-- Tests the value of a match; a rejected value is reported behind it. -/
  | check {α : Type} [Display α] (expected : String) (p : Parser ν ρ α)
      (accepts : α → Except Fault Bool) : Parser ν ρ α
  /-- Maps a failure. -/
  | mapFailure {α : Type} (p : Parser ν ρ α) (f : Failure → Except Fault Failure) : Parser ν ρ α
  /-- Rewords a failure and keeps its cursor. -/
  | withExpected {α : Type} (p : Parser ν ρ α) (expected : String) : Parser ν ρ α
  /-- Continues with the parser chosen from the value. -/
  | bind {α β : Type} (p : Parser ν ρ α) (next : α → Parser ν ρ β) : Parser ν ρ β
  /-- Runs parsers one after another. -/
  | inOrder {α : Type} {count : Nat} (ps : Fin count → Parser ν ρ α) : Parser ν ρ (List α)
  /-- Tries the second parser if the first fails in place. -/
  | orElse {α : Type} (first second : Parser ν ρ α) : Parser ν ρ α
  /-- Moves a failure back to the start. -/
  | rewind {α : Type} (p : Parser ν ρ α) : Parser ν ρ α
  /-- Repeats until a failure. -/
  | zeroOrMore {α : Type} (p : Parser ν ρ α) : Parser ν ρ (List α)
  /-- Repeats until a failure, at most `count` times. -/
  | upTo {α : Type} (p : Parser ν ρ α) (count : Nat) : Parser ν ρ (List α)
  /-- The parser of a name. -/
  | ref (name : ν) : Parser ν ρ (ρ name)
  /-- A user's own function. -/
  | custom {α : Type} (read : Cursor → Except Fault (Outcome α)) : Parser ν ρ α
  /-- Writes down where and how the parser runs. -/
  | spy {α : Type} (name : String) (p : Parser ν ρ α) : Parser ν ρ α

variable {ν : Type} {ρ : ν → Type}

/-- What a parser means, given what the names mean. -/
def Parser.reading (env : ∀ n, Reading (ρ n)) : {α : Type} → Parser ν ρ α → Reading α
  | _, .endOfInput => Reading.endOfInput
  | _, .anyUnit => Reading.anyUnit
  | _, .literal text => Reading.literal text
  | _, .fail expected => Reading.fail expected
  | _, .pure value => Reading.yield value
  | _, .convert p f => (p.reading env).convert f
  | _, @Parser.check _ _ _ _ expected p accepts => (p.reading env).check expected accepts
  | _, .mapFailure p f => (p.reading env).mapFailure f
  | _, .withExpected p expected => (p.reading env).withExpected expected
  | _, .bind p next => (p.reading env).onMatch fun value => (next value).reading env
  | _, .inOrder ps => Reading.inOrder (List.ofFn fun i => (ps i).reading env)
  | _, .orElse first second => (first.reading env).orElse (second.reading env)
  | _, .rewind p => (p.reading env).rewind
  | _, .zeroOrMore p => (p.reading env).zeroOrMore
  | _, .upTo p count => (p.reading env).upTo count
  | _, .ref name => fun c s => env name c s
  | _, .custom read => Reading.custom read
  | _, .spy name p => (p.reading env).spy name

end Descent
