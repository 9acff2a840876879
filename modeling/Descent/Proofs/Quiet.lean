-- SUMMARY: The debug switch decides what is written down, and nothing else.
import Descent.Proofs.Simulation
import Descent.Script.Session

/-!
# Quiet runs

With the debug switch off, a run is the run with the switch on, less the decisions
in its journal: the switch is read where a decision is about to be written down,
and no combinator looks at the journal. Visits are written down in both runs, so
watched parsers are called on the same cursors in the same order.

A parser does not know of the switch until it runs. In a session, where parsers
are put together in one step and run in another, the switch may be turned
between the two and at any other time: the session answers as the one in which
the switch is never turned on.
-/

namespace Descent

variable {ν : Type} {ρ : ν → Type} {α β : Type}

/-! ## Journals and runs without decisions -/

/-- Whether an event is a visit, and not a decision. -/
def Event.isVisit : Event → Bool
  | .visit _ => true
  | .decision _ => false

namespace Journal

/-- The journal without its decisions. -/
def quiet (journal : Journal) : Journal := journal.filter Event.isVisit

@[simp] theorem quiet_append (j k : Journal) : quiet (j ++ k) = quiet j ++ quiet k := by
  simp [quiet]

@[simp] theorem visits_quiet (journal : Journal) : visits (quiet journal) = visits journal := by
  induction journal with
  | nil => rfl
  | cons event journal ih =>
    cases event with
    | decision decision => exact ih
    | visit visit => exact congrArg (visit :: ·) ih

@[simp] theorem decisions_quiet (journal : Journal) : decisions (quiet journal) = [] := by
  induction journal with
  | nil => rfl
  | cons event journal ih =>
    cases event with
    | decision decision => exact ih
    | visit visit => exact ih

end Journal

/-- The run without the decisions in its journal. -/
def Run.quiet (run : Run α) : Run α := { run with journal := Journal.quiet run.journal }

theorem Run.quiet_after (run : Run α) (earlier : Journal) :
    (run.after earlier).quiet = run.quiet.after (Journal.quiet earlier) := by
  simp [Run.quiet, Run.after]

theorem Run.quiet_andThen (run : Run α) (next : α → Run β) :
    (run.andThen next).quiet = run.quiet.andThen fun result => (next result).quiet := by
  rcases run with ⟨journal, result | fault | _⟩
  · exact quiet_after (next result) journal
  · rfl
  · rfl

/-! ## Parsers and grammars -/

/-- Settings with the debug switch off. -/
def Settings.quiet (s : Settings) : Settings := { s with debug := false }

/-- Every run, less its decisions, is the run with the switch off. -/
def Simulation.quieting (s : Settings) : Simulation s s.quiet where
  rel r r' := r' = r.quiet
  ended _ := rfl
  andThen := by
    intro α β r r' next next' hr hnext
    have hnext' : next' = fun result => (next result).quiet := funext hnext
    rw [hr, hnext', Run.quiet_andThen]
  record decision := by
    unfold Action.record
    cases s.debug with
    | true => rfl
    | false => rfl
  visit _ _ _ := rfl
  budgets := .inl rfl

namespace Parser

variable (p : Parser ν ρ α) (g : Grammar ν ρ)

/-- Turning the switch off takes the decisions from the journal of a run. -/
theorem runAt_quiet (c : Cursor) (s : Settings) : p.runAt g c s.quiet = (p.runAt g c s).quiet :=
  (Simulation.quieting s).runAt p g c

theorem run_quiet (source : Source) (s : Settings) :
    p.run g source s.quiet = (p.run g source s).quiet := by
  refine Simulation.bind (S := .quieting s) (runAt_quiet p g (Cursor.start source) s)
    fun outcome => ?_
  cases outcome with
  | matched value after => rfl
  | failed failure => rfl

end Parser

/-! ## Sessions -/

namespace Script

/-- The reply without the decisions in its journal. -/
def Reply.quiet (reply : Reply α) : Reply α :=
  { reply with journal := Journal.quiet reply.journal }

theorem Reply.quiet_ofRun (run : Run α) (answer : α → Except Stop β) :
    (ofRun run answer).quiet = ofRun run.quiet answer := rfl

theorem Reply.quiet_map (f : α → β) (reply : Reply α) :
    (reply.map f).quiet = reply.quiet.map f := rfl

/-- The session with the debug switch off. -/
def Session.quiet (session : Session) : Session := { session with debug := false }

/-- The step that leaves the switch off where it would be turned on. -/
def Step.quiet : Step → Step
  | .debug _ => .debug false
  | step => step

theorem parse_quiet (definitions : Definitions) (debug : Bool) (details : Details)
    (p : ScriptParser) (c : Cursor) :
    parse definitions false details p c = (parse definitions debug details p c).quiet := by
  unfold parse
  rw [Reply.quiet_ofRun, ← p.runAt_quiet]
  rfl

theorem evaluate_quiet (definitions : Definitions) (debug : Bool) (p : ScriptParser)
    (source : Source) :
    evaluate definitions false p source = (evaluate definitions debug p source).quiet := by
  unfold evaluate
  rw [Reply.quiet_ofRun, ← p.run_quiet]
  rfl

namespace Session

/-- What a step does to a session and what it answers does not hang on the switch. -/
theorem step_quiet (session : Session) (step : Step) :
    session.quiet.step step.quiet =
      ((session.step step).1.quiet, (session.step step).2.quiet) := by
  cases step with
  | debug on => rfl
  | look => rfl
  | last => rfl
  | moveTo source pos | compare source pos =>
    simp only [Step.quiet, Session.step]
    cases Cursor.locate source pos <;> rfl
  | advance amount =>
    have hcursor : session.quiet.cursor = session.cursor := rfl
    simp only [Step.quiet, Session.step, hcursor]
    cases session.cursor.advance amount <;> rfl
  | define name description =>
    simp only [Step.quiet, Session.step]
    cases description.build <;> rfl
  | parse description details follow =>
    simp only [Step.quiet, Session.step]
    cases description.build with
    | error fault => rfl
    | ok p =>
      have hparse : Script.parse session.definitions false details p session.cursor =
          (Script.parse session.definitions session.debug details p session.cursor).quiet :=
        parse_quiet _ _ _ _ _
      simp only [Session.quiet, hparse]
      cases h : (Script.parse session.definitions session.debug details p session.cursor).answer <;>
        simp [Reply.quiet, h, Reply.map, Session.after]
  | evaluate description =>
    simp only [Step.quiet, Session.step]
    cases description.build with
    | error fault => rfl
    | ok p =>
      have hevaluate : Script.evaluate session.definitions false p session.cursor.source =
          (Script.evaluate session.definitions session.debug p session.cursor.source).quiet :=
        evaluate_quiet _ _ _ _
      simp only [Session.quiet, hevaluate, Reply.quiet_map]

/-- A session answers as the one in which the switch is never turned on. -/
theorem steps_quiet (session : Session) (script : List Step) :
    session.quiet.steps (script.map Step.quiet) =
      (session.steps script).map fun (reply, pos) => (reply.quiet, pos) := by
  induction script generalizing session with
  | nil => rfl
  | cons step script ih =>
    simp only [List.map_cons, steps, step_quiet, ih]
    rfl

end Session

end Script

namespace Parser

/-- The switch has no part in how a run ends, nor in which watched parsers are called,
where, and in which order; off, it keeps all decisions from being written down. So it
is when the switch is turned between putting a parser together and running it: a
session, whose steps do the one and the other, answers as if it was never turned on. -/
theorem debug_writes_only (p : Parser ν ρ α) (g : Grammar ν ρ) (c : Cursor) (budget : Nat) :
    ((p.runAt g c { debug := false, budget }).ending =
        (p.runAt g c { debug := true, budget }).ending ∧
      (p.runAt g c { debug := false, budget }).journal.visits =
        (p.runAt g c { debug := true, budget }).journal.visits ∧
      (p.runAt g c { debug := false, budget }).journal.decisions = []) ∧
    ∀ (session : Script.Session) (script : List Script.Step),
      session.quiet.steps (script.map Script.Step.quiet) =
        (session.steps script).map fun (reply, pos) => (reply.quiet, pos) := by
  have hquiet : p.runAt g c { debug := false, budget } =
      (p.runAt g c { debug := true, budget }).quiet := p.runAt_quiet g c { debug := true, budget }
  refine ⟨⟨?_, ?_, ?_⟩, Script.Session.steps_quiet⟩
  · rw [hquiet]
    rfl
  · rw [hquiet]
    exact Journal.visits_quiet _
  · rw [hquiet]
    exact Journal.decisions_quiet _

end Parser

end Descent
