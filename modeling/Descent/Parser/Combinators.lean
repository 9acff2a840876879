-- SUMMARY: Combinators that are put together from others: tests, sequences, choices, repetitions.
import Descent.Parser.Basic
import Descent.Text.Decimal
import Descent.Tuple

/-!
# Derived combinators

Everything here is a term over the constructors of `Parser`, so it has no
meaning of its own to state: `Parser.reading` unfolds it. The sequences of two
to five parsers have flat tuples as values, which grow by one item at a time;
the sequence of a list has a list. The three checked constructions (`literal?`,
`upTo?`, and in the lexemes `quotedString?`) refuse arguments for which the
plain ones make no sense.
-/

namespace Descent

variable {ν : Type} {ρ : ν → Type} {α β γ δ ε : Type}

namespace Parser

/-! ## Values -/

/-- Maps the value of a match by a function that takes every value. -/
def map (p : Parser ν ρ α) (f : α → β) : Parser ν ρ β := p.convert fun value => .ok (f value)

/-- Stops with a fault wherever it runs. -/
def raise (fault : Fault) : Parser ν ρ α := (Parser.pure ()).convert fun _ => .error fault

/-- The parser itself, or one that stops with the fault that kept it from being
built. -/
def ofExcept : Except Fault (Parser ν ρ α) → Parser ν ρ α
  | .ok p => p
  | .error fault => raise fault

/-- Runs a parser for a function and one for its argument. -/
def apply (function : Parser ν ρ (α → Except Fault β)) (argument : Parser ν ρ α) :
    Parser ν ρ β :=
  function.bind fun f => argument.convert f

/-! ## Tests -/

/-- Tests the value of a match. A rejected value is reported at the start, and
so is a failure of the tested parser. -/
def satisfyOver [Display α] (expected : String) (p : Parser ν ρ α)
    (accepts : α → Except Fault Bool) : Parser ν ρ α :=
  (check expected p accepts).rewind

/-- Consumes one unit that is accepted. -/
def satisfy (expected : String) (accepts : Char → Except Fault Bool) : Parser ν ρ Char :=
  satisfyOver expected anyUnit accepts

/-- Consumes one unit of a class. -/
def oneOf (expected : String) (units : Char → Bool) : Parser ν ρ Char :=
  satisfy expected fun c => .ok (units c)

/-- The parser of a text; refuses the empty one. -/
def literal? (text : String) : Except Fault (Parser ν ρ String) :=
  if text.isEmpty then .error .emptyLiteral else .ok (literal text)

/-! ## Sequences -/

/-- Two parsers in order. -/
def sequence2 (p : Parser ν ρ α) (q : Parser ν ρ β) : Parser ν ρ (Tuple [α, β]) :=
  p.bind fun a => q.map fun b => (a, b, ())

/-- A parser for a tuple and one for an item more at its end. -/
def extend {types : List Type} (p : Parser ν ρ (Tuple types)) (last : Parser ν ρ β) :
    Parser ν ρ (Tuple (types ++ [β])) :=
  p.bind fun values => last.map fun value => values.concat value

/-- Three parsers in order. -/
def sequence3 (p : Parser ν ρ α) (q : Parser ν ρ β) (r : Parser ν ρ γ) :
    Parser ν ρ (Tuple [α, β, γ]) :=
  extend (sequence2 p q) r

/-- Four parsers in order. -/
def sequence4 (p : Parser ν ρ α) (q : Parser ν ρ β) (r : Parser ν ρ γ) (s : Parser ν ρ δ) :
    Parser ν ρ (Tuple [α, β, γ, δ]) :=
  extend (sequence3 p q r) s

/-- Five parsers in order. -/
def sequence5 (p : Parser ν ρ α) (q : Parser ν ρ β) (r : Parser ν ρ γ) (s : Parser ν ρ δ)
    (t : Parser ν ρ ε) : Parser ν ρ (Tuple [α, β, γ, δ, ε]) :=
  extend (sequence4 p q r s) t

/-- All parsers of a list in order, one value for each. The first failure is
the answer. -/
def sequenceAll (ps : List (Parser ν ρ α)) : Parser ν ρ (List α) :=
  let parsers := ps.toArray
  .inOrder fun i : Fin parsers.size => parsers[i]

/-! ## Choices -/

/-- The first parser that matches or that fails elsewhere. If all fail in
place, fails with a message of its own. -/
def choice (expected : String) : List (Parser ν ρ α) → Parser ν ρ α
  | [] => fail expected
  | p :: ps => p.orElse (choice expected ps)

/-- A choice is put together from its end: what is there already is tried after the parser
before it. -/
theorem choice_eq_foldl (expected : String) (ps : List (Parser ν ρ α)) :
    choice expected ps = ps.reverse.foldl (fun rest p => p.orElse rest) (fail expected) := by
  rw [List.foldl_reverse]
  induction ps with
  | nil => rfl
  | cons p ps ih => rw [choice, ih, List.foldr_cons]

/-- A default for a failure in place. -/
def optional (p : Parser ν ρ α) (default : α) : Parser ν ρ α := p.orElse (Parser.pure default)

/-! ## Repetition -/

/-- Repeats until a failure, and matches at least once. -/
def oneOrMore (p : Parser ν ρ α) : Parser ν ρ (List α) :=
  p.bind fun value => p.zeroOrMore.map (value :: ·)

/-- Repeats until a failure, at most `count` times; refuses negative counts. The
fault names the count, unless it is too long to be written. -/
def upTo? (p : Parser ν ρ α) (count : Int) : Except Fault (Parser ν ρ (List α)) :=
  if 0 ≤ count then .ok (p.upTo count.toNat)
  else if Text.isWritable count then .error (.negativeCount count)
  else .error .longInteger

end Parser

end Descent
