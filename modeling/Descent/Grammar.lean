-- SUMMARY: Named parsers that refer to each other, and running a parser over them.
import Descent.Parser.Basic
import Descent.ParseError

/-!
# Grammars

A grammar has a parser for each name. What a name means at nesting depth `n` is
what its parser means when the names in it mean what they do at depth `n - 1`;
at depth zero a name has no meaning and the run is out of budget. A run that
ends within its budget ends in the same way within any larger one, so the depth
is a bound on the resources of a run and no part of its result.
-/

namespace Descent

variable {ν : Type} {ρ : ν → Type} {α : Type}

/-- A parser for each name. -/
def Grammar (ν : Type) (ρ : ν → Type) : Type 1 := ∀ n : ν, Parser ν ρ (ρ n)

namespace Grammar

/-- What the names mean when references nest at most so deep. -/
def names (grammar : Grammar ν ρ) : Nat → ∀ n : ν, Reading (ρ n)
  | 0, _ => fun _ _ => ⟨[], .exhausted⟩
  | depth + 1, n => fun c s => (grammar n).reading (grammar.names depth) c s

end Grammar

namespace Parser

/-- Runs a parser over a grammar from a cursor. -/
def runAt (p : Parser ν ρ α) (grammar : Grammar ν ρ) (c : Cursor) : Action (Outcome α) := fun s =>
  p.reading (grammar.names s.budget) c s

/-- Runs a parser over a grammar from the start of a source: its value, or the
report on its failure. Input may be left over. -/
def run (p : Parser ν ρ α) (grammar : Grammar ν ρ) (source : Source) :
    Action (Except ParseError α) := do
  match ← p.runAt grammar (Cursor.start source) with
  | .matched value _ => return .ok value
  | .failed failure => return .error failure.error

end Parser

end Descent
