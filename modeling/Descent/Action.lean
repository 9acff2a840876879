-- SUMMARY: Computations that may stop with a fault and that write a journal, and their loop.
import Descent.Outcome

/-!
# Actions

Running a parser does two things beside answering: it writes a journal, and it
may stop without an answer. `Action` is the type of such computations. A
journal only ever grows, because an action does not see what was written before
it; and `Settings` cannot be changed by an action.

The budget is what makes every action total. It bounds how deep references may
nest and how many turns an unbounded repetition may take; an action that spends
it ends as `exhausted`, which is neither an answer nor a fault.

`Action.loop` is the one loop of the library. It runs in constant stack space,
and `loop_succ` says that it is the recursion that it looks like.
-/

namespace Descent

variable {α β σ : Type}

/-! ## Journals -/

/-- A decision of a combinator that its outcome does not show. -/
inductive Decision where
  /-- An alternative failed in place, so the next one is tried. -/
  | fallback (pos : Nat) (expected : String)
  /-- An alternative failed elsewhere, so no other is tried. -/
  | commit (start stop : Nat) (expected : String)
  /-- A failure was moved back to where its parser started. -/
  | rewind (start stop : Nat) (expected : String)
  /-- An unbounded repetition ended with a failure of its body. -/
  | stopped (pos : Nat) (turns : Nat) (expected : String)
  deriving DecidableEq, Repr

/-- The wording of a decision. -/
def Decision.message : Decision → String
  | .fallback pos expected => s!"no progress at {pos} ({expected}), trying the next alternative"
  | .commit start stop expected =>
    s!"committed from {start} to {stop}, not backtracking ({expected})"
  | .rewind start stop expected => s!"rewinding from {start} to {stop} ({expected})"
  | .stopped pos turns expected =>
    s!"repetition stopped at {pos} after {turns} matches ({expected})"

/-- Which side of a parser's run a visit records. -/
inductive Mark where
  | enter
  | matched
  | failed
  deriving DecidableEq, Repr

/-- One side of a watched parser's run, with the cursor there. -/
structure Visit where
  mark : Mark
  name : String
  cursor : Cursor
  deriving DecidableEq

/-- An entry of a journal. -/
inductive Event where
  | decision (decision : Decision)
  | visit (visit : Visit)
  deriving DecidableEq

/-- What a run wrote down, in order. -/
abbrev Journal := List Event

namespace Journal

/-- One journal and then another; nothing is copied if the other is empty. -/
def followedBy (earlier : Journal) : Journal → Journal
  | [] => earlier
  | later => earlier ++ later

@[simp] theorem followedBy_eq (earlier later : Journal) :
    earlier.followedBy later = earlier ++ later := by
  cases later <;> simp [followedBy]

/-- The decisions in a journal, in order. -/
def decisions (journal : Journal) : List Decision :=
  journal.filterMap fun
    | .decision decision => some decision
    | .visit _ => none

/-- The visits in a journal, in order. -/
def visits (journal : Journal) : List Visit :=
  journal.filterMap fun
    | .decision _ => none
    | .visit visit => some visit

@[simp] theorem decisions_append (j k : Journal) :
    decisions (j ++ k) = decisions j ++ decisions k := by
  simp [decisions]

@[simp] theorem visits_append (j k : Journal) : visits (j ++ k) = visits j ++ visits k := by
  simp [visits]

end Journal

/-! ## Runs -/

/-- What every part of a run can ask for. -/
structure Settings where
  /-- Whether decisions are written down. -/
  debug : Bool := false
  /-- How deep references may nest, and how long a repetition may go on. -/
  budget : Nat := 1000000000000000000

/-- How a run ends: with a result, with a fault, or out of budget. -/
inductive Ending (α : Type) where
  | returned (result : α)
  | raised (fault : Fault)
  | exhausted
  deriving DecidableEq

/-- A finished run: what was written down, and how it ended. -/
structure Run (α : Type) where
  journal : Journal
  ending : Ending α
  deriving DecidableEq

/-- The run with earlier entries in front of its journal. -/
def Run.after (run : Run α) (earlier : Journal) : Run α :=
  { run with journal := Journal.followedBy earlier run.journal }

@[simp] theorem Run.after_nil (run : Run α) : run.after [] = run := by
  simp [Run.after]

@[simp] theorem Run.after_after (run : Run α) (j k : Journal) :
    (run.after k).after j = run.after (j ++ k) := by
  simp [Run.after]

/-! ## Actions -/

/-- A computation that writes a journal and may stop without a result. -/
def Action (α : Type) : Type := Settings → Run α

namespace Action

@[ext] theorem ext {a b : Action α} (h : ∀ s, a s = b s) : a = b := funext h

/-- The action that only returns. -/
protected def pure (result : α) : Action α := fun _ => ⟨[], .returned result⟩

/-- Runs an action, then the one chosen from its result. -/
protected def bind (a : Action α) (next : α → Action β) : Action β := fun s =>
  match a s with
  | ⟨journal, .returned result⟩ => (next result s).after journal
  | ⟨journal, .raised fault⟩ => ⟨journal, .raised fault⟩
  | ⟨journal, .exhausted⟩ => ⟨journal, .exhausted⟩

instance : Monad Action where
  pure := Action.pure
  bind := Action.bind

/-- Stops with a fault. -/
def raise (fault : Fault) : Action α := fun _ => ⟨[], .raised fault⟩

/-- Returns the result of a computation that writes nothing, or stops with its
fault. -/
def ofExcept : Except Fault α → Action α
  | .ok result => Pure.pure result
  | .error fault => raise fault

/-- Writes a decision down, if decisions are written down at all. -/
def record (decision : Decision) : Action Unit := fun s =>
  ⟨if s.debug then [.decision decision] else [], .returned ()⟩

/-- Writes a visit down. -/
def visit (mark : Mark) (name : String) (cursor : Cursor) : Action Unit := fun _ =>
  ⟨[.visit ⟨mark, name, cursor⟩], .returned ()⟩

theorem pure_apply (result : α) (s : Settings) :
    (Pure.pure result : Action α) s = ⟨[], .returned result⟩ := rfl

theorem bind_apply (a : Action α) (next : α → Action β) (s : Settings) :
    (a >>= next) s =
      match a s with
      | ⟨journal, .returned result⟩ => (next result s).after journal
      | ⟨journal, .raised fault⟩ => ⟨journal, .raised fault⟩
      | ⟨journal, .exhausted⟩ => ⟨journal, .exhausted⟩ := rfl

instance : LawfulMonad Action := LawfulMonad.mk' Action
  (by
    intro α a
    ext s : 1
    change (a >>= fun x => Pure.pure (id x)) s = a s
    rw [bind_apply]
    split <;> simp_all [pure_apply, Run.after])
  (by
    intro α β result next
    ext s : 1
    simp [bind_apply, pure_apply])
  (by
    intro α β γ a f g
    ext s : 1
    simp only [bind_apply]
    rcases a s with ⟨journal, result | fault | _⟩ <;> simp only
    rcases f result s with ⟨journal', result' | fault' | _⟩ <;> simp [Run.after])

@[simp] theorem raise_bind (fault : Fault) (next : α → Action β) :
    (raise fault : Action α) >>= next = raise fault := rfl

/-! ## Loops -/

/-- What a turn of a loop comes to: another turn, or the result. -/
inductive Turn (σ β : Type) where
  | again (state : σ)
  | done (result : β)

/-- The loop from a state on. The journal of the turns before it is given last
entry first, so that each turn adds to its front. -/
def loopFrom (turn : σ → Action (Turn σ β)) (spent : σ → Ending β) (s : Settings) :
    Nat → Journal → σ → Run β
  | 0, reversed, state => ⟨reversed.reverse, spent state⟩
  | turns + 1, reversed, state =>
    match turn state s with
    | ⟨entries, .returned (.again state)⟩ =>
      loopFrom turn spent s turns (entries.reverseAux reversed) state
    | ⟨entries, .returned (.done result)⟩ =>
      ⟨(entries.reverseAux reversed).reverse, .returned result⟩
    | ⟨entries, .raised fault⟩ => ⟨(entries.reverseAux reversed).reverse, .raised fault⟩
    | ⟨entries, .exhausted⟩ => ⟨(entries.reverseAux reversed).reverse, .exhausted⟩

/-- Takes turns from a state on until one is the last, or until the number of
turns is spent; then the loop ends as `spent` says. -/
def loop (turn : σ → Action (Turn σ β)) (spent : σ → Ending β) (turns : Nat) (state : σ) :
    Action β :=
  fun s => loopFrom turn spent s turns [] state

theorem loopFrom_eq_after (turn : σ → Action (Turn σ β)) (spent : σ → Ending β) (s : Settings)
    (turns : Nat) (reversed : Journal) (state : σ) :
    loopFrom turn spent s turns reversed state =
      (loop turn spent turns state s).after reversed.reverse := by
  induction turns generalizing reversed state with
  | zero => simp [loop, loopFrom, Run.after]
  | succ turns ih =>
    simp only [loop, loopFrom]
    rcases turn state s with ⟨entries, (state' | result) | fault | _⟩ <;>
      simp [Run.after, ih, List.reverseAux_eq]

/-- Without turns, a loop is spent. -/
theorem loop_zero (turn : σ → Action (Turn σ β)) (spent : σ → Ending β) (state : σ)
    (s : Settings) : loop turn spent 0 state s = ⟨[], spent state⟩ := rfl

/-- A loop is its first turn, followed by the loop if that was not the last. -/
theorem loop_succ (turn : σ → Action (Turn σ β)) (spent : σ → Ending β) (turns : Nat)
    (state : σ) :
    loop turn spent (turns + 1) state = (do
      match ← turn state with
      | .again state => loop turn spent turns state
      | .done result => pure result) := by
  ext s : 1
  rw [bind_apply, loop, loopFrom]
  rcases turn state s with ⟨entries, (state' | result) | fault | _⟩
  · simp [loopFrom_eq_after turn spent s turns entries.reverse, List.reverseAux_eq]
  all_goals simp [Run.after, pure_apply, List.reverseAux_eq]

end Action

end Descent
