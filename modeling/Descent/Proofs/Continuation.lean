-- SUMMARY: Parsers that are built from the value of a match, and the laws of going on with them.
import Descent.Proofs.Sequence

/-!
# Continuations

A parser that goes on from a value does so with a parser that is built from it, and that
may stop the run in two ways: it cannot be built, or it stops when it runs. The laws of
going on hold in both cases. They are equations between readings, so a run that fails or
stops does so at the same place and has written the same journal, and parsers that are
watched are called on the same cursors in the same order.
-/

namespace Descent

variable {ν : Type} {ρ : ν → Type} {α β γ : Type}

namespace Parser

/-- Goes on with the parser that is built from the value, or stops with the fault that kept
it from being built. `Parser.bind` is the case in which every parser can be built. -/
def bindBuilt (p : Parser ν ρ α) (build : α → Except Fault (Parser ν ρ β)) : Parser ν ρ β :=
  p.bind fun value => ofExcept (build value)

variable {env : ∀ n, Reading (ρ n)}

theorem reading_bindBuilt (p : Parser ν ρ α) (build : α → Except Fault (Parser ν ρ β)) :
    (p.bindBuilt build).reading env =
      (p.reading env).onMatch fun value => (ofExcept (build value)).reading env := rfl

/-- What goes on after a match is not reached if there is no parser to match. -/
theorem ofExcept_bindBuilt (p? : Except Fault (Parser ν ρ α))
    (build : α → Except Fault (Parser ν ρ β)) :
    (ofExcept (p?.map fun p => p.bindBuilt build)).reading env =
      ((ofExcept p?).bindBuilt build).reading env := by
  cases p? with
  | ok p => rfl
  | error fault => rfl

theorem pure_bindBuilt (value : α) (build : α → Except Fault (Parser ν ρ β)) :
    ((Parser.pure value).bindBuilt build).reading env = (ofExcept (build value)).reading env :=
  Reading.yield_onMatch _ _

theorem bindBuilt_pure (p : Parser ν ρ α) :
    (p.bindBuilt fun value => .ok (Parser.pure value)).reading env = p.reading env :=
  Reading.onMatch_yield _

theorem bindBuilt_assoc (p : Parser ν ρ α) (build : α → Except Fault (Parser ν ρ β))
    (last : β → Except Fault (Parser ν ρ γ)) :
    ((p.bindBuilt build).bindBuilt last).reading env =
      (p.bindBuilt fun value => (build value).map fun q => q.bindBuilt last).reading env := by
  simp only [reading_bindBuilt, Reading.onMatch_assoc, ofExcept_bindBuilt]

theorem convert_eq_bindBuilt (p : Parser ν ρ α) (f : α → Except Fault β) :
    (p.convert f).reading env =
      (p.bindBuilt fun value => (f value).map Parser.pure).reading env := by
  rw [reading_bindBuilt, Parser.reading, Reading.convert]
  congr
  funext value
  cases f value with
  | ok result => rfl
  | error fault => rfl

theorem apply_eq_bindBuilt (function : Parser ν ρ (α → Except Fault β))
    (argument : Parser ν ρ α) : (apply function argument).reading env =
      (function.bindBuilt fun f =>
        .ok (argument.bindBuilt fun value => (f value).map Parser.pure)).reading env := by
  rw [apply, reading_bind, reading_bindBuilt]
  simp only [convert_eq_bindBuilt]
  rfl

/-- A match in place is neutral for going on from a value, on both sides, and going on is
associative. A function is mapped over the values by going on with a match in place, and one
parser's values are applied to another one's by going on twice. All this holds for parsers
that fail or stop, for functions that refuse a value, and for parsers that cannot be built
from a value: the runs are the same, journal and all. -/
theorem continuation_laws (env : ∀ n, Reading (ρ n)) (p : Parser ν ρ α) (value : α)
    (build : α → Except Fault (Parser ν ρ β)) (last : β → Except Fault (Parser ν ρ γ))
    (f : α → Except Fault β) (function : Parser ν ρ (α → Except Fault β)) :
    ((Parser.pure value).bindBuilt build).reading env = (ofExcept (build value)).reading env ∧
      (p.bindBuilt fun value => .ok (Parser.pure value)).reading env = p.reading env ∧
      ((p.bindBuilt build).bindBuilt last).reading env =
        (p.bindBuilt fun value => (build value).map fun q => q.bindBuilt last).reading env ∧
      (p.convert f).reading env =
        (p.bindBuilt fun value => (f value).map Parser.pure).reading env ∧
      (apply function p).reading env =
        (function.bindBuilt fun f =>
          .ok (p.bindBuilt fun value => (f value).map Parser.pure)).reading env :=
  ⟨pure_bindBuilt value build, bindBuilt_pure p, bindBuilt_assoc p build last,
    convert_eq_bindBuilt p f, apply_eq_bindBuilt function p⟩

end Parser

end Descent
