-- SUMMARY: What each combinator does to a cursor: readings and the operations on them.
import Descent.Action
import Descent.Mismatch

/-!
# Readings

A reading is what a parser means: from a cursor to an action that answers with
an outcome. This module says what each combinator means, in terms of the
meanings of its parts.

Nearly all of them either go on after a match and pass failures through
(`onMatch`), or look at a failure and pass matches through (`onFailure`). The
sequence of a list and the two repetitions are loops that collect values. Both
repetitions swallow a failure of their body, and the sequence does not.
-/

namespace Descent

variable {α β : Type}

/-- From a cursor to an action that answers with an outcome. -/
abbrev Reading (α : Type) : Type := Cursor → Action (Outcome α)

namespace Reading

open Descent.Action (ofExcept raise)

/-! ## Going on after a match, and after a failure -/

/-- Goes on from the value and the cursor of a match; a failure is the answer
as it is. -/
def onMatch (p : Reading α) (next : α → Reading β) : Reading β := fun c => do
  match ← p c with
  | .matched value after => next value after
  | .failed failure => pure (.failed failure)

/-- Goes on from a failure; a match is the answer as it is. -/
def onFailure (p : Reading α) (next : Failure → Action (Outcome α)) : Reading α := fun c => do
  match ← p c with
  | .matched value after => pure (.matched value after)
  | .failed failure => next failure

/-! ## Single units and texts -/

/-- Matches in place at the end of the source, and fails in place elsewhere. -/
def endOfInput : Reading Unit := fun c =>
  pure (if c.atEnd then .matched () c else .failed ⟨Mismatch.inputLeft, c⟩)

/-- Matches one unit, and fails in place at the end of the source. -/
def anyUnit : Reading Char := fun c =>
  match c.current? with
  | none => pure (.failed ⟨Mismatch.noUnitLeft, c⟩)
  | some unit => do return .matched unit (← ofExcept (c.advance 1))

/-- Matches a text, and fails in place where the next units are others. -/
def literal (text : String) : Reading String := fun c =>
  let found := c.take text.length
  if found = text then do
    return .matched text (← ofExcept (c.advance text.length))
  else
    pure (.failed ⟨Mismatch.message (Mismatch.expectedText text) found c.pos, c⟩)

/-! ## Constant outcomes -/

/-- Fails in place. -/
def fail (expected : String) : Reading α := fun c => pure (.failed ⟨expected, c⟩)

/-- Matches in place. -/
def yield (value : α) : Reading α := fun c => pure (.matched value c)

/-! ## Values and failures -/

/-- Maps the value of a match by a function that may refuse it. -/
def convert (p : Reading α) (f : α → Except Fault β) : Reading β :=
  p.onMatch fun value after => do return .matched (← ofExcept (f value)) after

/-- Lets a match through if its value is accepted. Otherwise fails with a report
on the value, at the end of the match. -/
def check [Display α] (expected : String) (p : Reading α) (accepts : α → Except Fault Bool) :
    Reading α := fun c =>
  p.onMatch (fun value after => do
    if ← ofExcept (accepts value) then
      return .matched value after
    else
      let actual ← ofExcept (display value)
      return .failed ⟨Mismatch.message expected actual c.pos, after⟩) c

/-- Maps a failure by a function that may stop. -/
def mapFailure (p : Reading α) (f : Failure → Except Fault Failure) : Reading α :=
  p.onFailure fun failure => do return .failed (← ofExcept (f failure))

/-- Rewords a failure and keeps its cursor. -/
def withExpected (p : Reading α) (expected : String) : Reading α :=
  p.onFailure fun failure => pure (.failed ⟨expected, failure.cursor⟩)

/-! ## Alternatives -/

/-- Tries the second reading if the first one fails in place. A failure
elsewhere is the answer. -/
def orElse (first second : Reading α) : Reading α := fun c =>
  first.onFailure (fun failure => do
    if failure.cursor.samePos c then
      Action.record (.fallback c.pos failure.expected)
      second c
    else
      Action.record (.commit c.pos failure.cursor.pos failure.expected)
      return .failed failure) c

/-- Moves a failure back to the start and keeps its wording. -/
def rewind (p : Reading α) : Reading α := fun c =>
  p.onFailure (fun failure => do
    if failure.cursor.samePos c then
      return .failed failure
    else
      Action.record (.rewind failure.cursor.pos c.pos failure.expected)
      return .failed ⟨failure.expected, c⟩) c

/-! ## Sequences -/

/-- The values that a loop has collected, last one first, and the cursor after
them. -/
structure Collected (α : Type) where
  reversed : List α
  cursor : Cursor

/-- The answer of a loop that ends here. -/
def Collected.outcome (state : Collected α) : Outcome (List α) :=
  .matched state.reversed.reverse state.cursor

/-- A turn of a sequence, with the readings that are left. The next one runs
where the last match ended; its failure ends the sequence and is the answer as
it is. -/
def sequenceTurn :
    List (Reading α) × Collected α →
    Action (Action.Turn (List (Reading α) × Collected α) (Outcome (List α)))
  | ([], state) => return .done state.outcome
  | (p :: ps, state) => do
    match ← p state.cursor with
    | .failed failure => return .done (.failed failure)
    | .matched value after => return .again (ps, ⟨value :: state.reversed, after⟩)

/-- Runs readings one after another, and adds their values to those collected. -/
def collect (ps : List (Reading α)) (state : Collected α) : Action (Outcome (List α)) :=
  Action.loop sequenceTurn (fun (_, state) => .returned state.outcome) ps.length (ps, state)

/-- Runs readings one after another, with a value for each. -/
def inOrder (ps : List (Reading α)) : Reading (List α) := fun c => collect ps ⟨[], c⟩

/-! ## Repetition -/

/-- A turn of the unbounded repetition. It ends the repetition when the body
fails, wherever that is, and refuses a body that matches in place. -/
def unboundedTurn (p : Reading α) (state : Collected α) :
    Action (Action.Turn (Collected α) (Outcome (List α))) := do
  match ← p state.cursor with
  | .failed failure =>
    Action.record (.stopped state.cursor.pos state.reversed.length failure.expected)
    return .done state.outcome
  | .matched value after =>
    if after.samePos state.cursor then
      raise (.noProgress state.cursor.pos)
    else
      return .again ⟨value :: state.reversed, after⟩

/-- Repeats until the body fails, and collects the values. -/
def zeroOrMore (p : Reading α) : Reading (List α) := fun c s =>
  Action.loop p.unboundedTurn (fun _ => .exhausted) s.budget ⟨[], c⟩ s

/-- A turn of the bounded repetition. It ends the repetition when the body
fails, wherever that is. -/
def boundedTurn (p : Reading α) (state : Collected α) :
    Action (Action.Turn (Collected α) (Outcome (List α))) := do
  match ← p state.cursor with
  | .failed _ => return .done state.outcome
  | .matched value after => return .again ⟨value :: state.reversed, after⟩

/-- Repeats until the body fails, or as often as the bound allows. -/
def upTo (p : Reading α) (count : Nat) : Reading (List α) := fun c =>
  Action.loop p.boundedTurn (fun state => .returned state.outcome) count ⟨[], c⟩

/-! ## Readings given by the user -/

/-- A function that looks at the cursor alone. -/
def custom (read : Cursor → Except Fault (Outcome α)) : Reading α := fun c => ofExcept (read c)

/-- Writes down where the reading starts, and how and where it ends. -/
def spy (name : String) (p : Reading α) : Reading α := fun c => do
  Action.visit .enter name c
  let outcome ← p c
  Action.visit (if outcome.isMatch then .matched else .failed) name outcome.cursor
  return outcome

end Reading

end Descent
