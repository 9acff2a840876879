-- SUMMARY: Which repetitions a failure stops in a run, and which of these stops are on record.
import Mathlib.Data.List.Basic
import Descent.Proofs.Choice
import Descent.Proofs.Sequence

/-!
# Stopped repetitions

A repetition that is stopped by a failure of its body swallows that failure: the outcome does
not show it. Which repetitions are stopped in a run follows from how the parts of the parser
end, and `Parser.loopStops` lists them from that alone, in order, without a look at the journal.

With the debug switch on, the journal has a record of each stop of an unbounded repetition, in
the same order, with its position, the number of matches in front of it and the message of the
failure. Bounded repetitions leave no record. So there are fewer records than stops where a
bounded repetition is stopped before it comes to its bound.
-/

namespace Descent

variable {ν : Type} {ρ : ν → Type} {α β : Type}

/-! ## Records -/

/-- Whether a decision is on a repetition that a failure has stopped. -/
def Decision.isStop : Decision → Bool
  | .stopped .. => true
  | .fallback .. => false
  | .commit .. => false
  | .rewind .. => false

namespace Journal

/-- The records of stopped repetitions in a journal, in order. -/
def stopRecords (journal : Journal) : List Decision := journal.decisions.filter Decision.isStop

@[simp] theorem stopRecords_append (j k : Journal) :
    stopRecords (j ++ k) = stopRecords j ++ stopRecords k := by
  simp [stopRecords]

end Journal

@[simp] theorem Action.stopRecords_ofExcept (e : Except Fault α) (s : Settings) :
    (ofExcept e s).journal.stopRecords = [] := by
  cases e <;> rfl

theorem Action.stopRecords_record (decision : Decision) (s : Settings) :
    (record decision s).journal.stopRecords =
      if s.debug && decision.isStop then [decision] else [] := by
  cases hdebug : s.debug with
  | true =>
    have hjournal : (record decision s).journal = [.decision decision] := by simp [record, hdebug]
    rw [hjournal]
    cases decision <;> rfl
  | false =>
    have hjournal : (record decision s).journal = [] := by simp [record, hdebug]
    rw [hjournal]
    rfl

/-! ## Stops -/

/-- A failure that has stopped a repetition. -/
structure LoopStop where
  /-- Whether the repetition has a bound. -/
  bounded : Bool
  /-- Where the failed call of the body started. -/
  pos : Nat
  /-- How many matches were collected before. -/
  turns : Nat
  /-- What the failed call expected. -/
  expected : String
  deriving DecidableEq, Repr

namespace LoopStop

/-- The decision on a stop. -/
def decision (stop : LoopStop) : Decision := .stopped stop.pos stop.turns stop.expected

/-- The decisions on the stops of unbounded repetitions. -/
def unboundedDecisions (stops : List LoopStop) : List Decision :=
  (stops.filter fun stop => !stop.bounded).map decision

@[simp] theorem unboundedDecisions_nil : unboundedDecisions [] = [] := rfl

@[simp] theorem unboundedDecisions_append (stops later : List LoopStop) :
    unboundedDecisions (stops ++ later) = unboundedDecisions stops ++ unboundedDecisions later := by
  simp [unboundedDecisions]

end LoopStop

/-- What comes after a match; nothing comes after any other ending. -/
def Ending.afterMatch {τ : Type} (ending : Ending (Outcome α)) (next : α → Cursor → List τ) :
    List τ :=
  match ending with
  | .returned (.matched value after) => next value after
  | _ => []

/-- The stops in a repetition of a reading from a cursor on, with some turns left and some
matches collected: those within the calls of its body, and its own one if the last of these
calls fails. -/
def Reading.loopStops (p : Reading α) (s : Settings) (within : Cursor → List LoopStop)
    (bounded : Bool) : (left collected : Nat) → Cursor → List LoopStop
  | 0, _, _ => []
  | left + 1, collected, c =>
    within c ++
      match (p c s).ending with
      | .returned (.matched _ after) =>
        if !bounded && after.samePos c then []
        else p.loopStops s within bounded left (collected + 1) after
      | .returned (.failed failure) => [⟨bounded, c.pos, collected, failure.expected⟩]
      | _ => []

/-- The stops in a sequence from a cursor on: those within its calls, up to the first call that
does not match. Each part is given with the stops in its runs. -/
def Reading.sequenceStops (s : Settings) :
    List (Reading α × (Cursor → List LoopStop)) → Cursor → List LoopStop
  | [], _ => []
  | (p, within) :: ps, c =>
    within c ++ (p c s).ending.afterMatch fun _ after => sequenceStops s ps after

/-- The stops in a run of a parser from a cursor, in order, given what the names mean and the
stops in their runs. -/
def Parser.loopStops (env : ∀ n, Reading (ρ n)) (named : ν → Cursor → List LoopStop)
    (s : Settings) : {α : Type} → Parser ν ρ α → Cursor → List LoopStop
  | _, .endOfInput, _ => []
  | _, .anyUnit, _ => []
  | _, .literal _, _ => []
  | _, .fail _, _ => []
  | _, .pure _, _ => []
  | _, .convert p _, c => p.loopStops env named s c
  | _, @Parser.check _ _ _ _ _ p _, c => p.loopStops env named s c
  | _, .mapFailure p _, c => p.loopStops env named s c
  | _, .withExpected p _, c => p.loopStops env named s c
  | _, .bind p next, c =>
    p.loopStops env named s c ++
      (p.reading env c s).ending.afterMatch fun value => (next value).loopStops env named s
  | _, .inOrder ps, c =>
    Reading.sequenceStops s
      (List.ofFn fun i => ((ps i).reading env, (ps i).loopStops env named s)) c
  | _, .orElse first second, c =>
    first.loopStops env named s c ++
      if (first.reading env c s).settlesAt c then [] else second.loopStops env named s c
  | _, .rewind p, c => p.loopStops env named s c
  | _, .zeroOrMore p, c =>
    (p.reading env).loopStops s (p.loopStops env named s) false s.budget 0 c
  | _, .upTo p count, c => (p.reading env).loopStops s (p.loopStops env named s) true count 0 c
  | _, .ref n, c => named n c
  | _, .custom _, _ => []
  | _, .spy _ p, c => p.loopStops env named s c

/-- The stops in the runs of the names when references nest at most so deep. -/
def Grammar.loopStops (g : Grammar ν ρ) (s : Settings) : Nat → ν → Cursor → List LoopStop
  | 0, _, _ => []
  | depth + 1, n, c => (g n).loopStops (g.names depth) (g.loopStops s depth) s c

/-- The stops in a run of a parser over a grammar. -/
def Parser.loopStopsAt (p : Parser ν ρ α) (g : Grammar ν ρ) (c : Cursor) (s : Settings) :
    List LoopStop :=
  p.loopStops (g.names s.budget) (g.loopStops s s.budget) s c

namespace Reading

/-! ## Combinators without a repetition of their own -/

section Combinators

variable (p : Reading α) (c : Cursor) (s : Settings)

theorem stopRecords_onMatch (next : α → Reading β) :
    (p.onMatch next c s).journal.stopRecords = (p c s).journal.stopRecords ++
      (p c s).ending.afterMatch fun value after => (next value after s).journal.stopRecords := by
  rw [journal_onMatch, Journal.stopRecords_append]
  rcases (p c s).ending with (⟨value, after⟩ | failure) | fault | _ <;> rfl

/-- What writes nothing about stops after a match adds no record. -/
theorem stopRecords_onMatch_silent {next : α → Reading β}
    (hnext : ∀ value after, (next value after s).journal.stopRecords = []) :
    (p.onMatch next c s).journal.stopRecords = (p c s).journal.stopRecords := by
  rw [stopRecords_onMatch]
  rcases (p c s).ending with (⟨value, after⟩ | failure) | fault | _ <;>
    simp [Ending.afterMatch, hnext]

/-- What writes nothing about stops after a failure adds no record. -/
theorem stopRecords_onFailure_silent {next : Failure → Action (Outcome α)}
    (hnext : ∀ failure, (next failure s).journal.stopRecords = []) :
    (p.onFailure next c s).journal.stopRecords = (p c s).journal.stopRecords := by
  simp only [onFailure, Action.bind_apply]
  rcases p c s with ⟨journal, (⟨value, after⟩ | failure) | fault | _⟩ <;>
    simp [Run.after, Action.pure_apply, hnext]

theorem stopRecords_orElse (second : Reading α) :
    (p.orElse second c s).journal.stopRecords = (p c s).journal.stopRecords ++
      if (p c s).settlesAt c then [] else (second c s).journal.stopRecords := by
  rcases hrun : p c s with ⟨journal, (⟨value, after⟩ | failure) | fault | _⟩
  case returned.failed =>
    by_cases hsame : failure.cursor.samePos c
    · rw [run_orElse_falls_back second hrun hsame]
      simp [Run.after, Run.settlesAt, hsame, Action.stopRecords_record, Decision.isStop]
    · rw [run_orElse_commits second hrun hsame]
      simp [Run.settlesAt, hsame, Action.stopRecords_record, Decision.isStop]
  all_goals
    rw [orElse, run_onFailure_other (by simp [hrun]), hrun]
    simp [Run.settlesAt]

end Combinators

/-! ## Readings and what they record -/

/-- Whether the runs of a reading have a record of each unbounded stop among the given ones, in
the same order, and no other. -/
def Records (p : Reading α) (s : Settings) (stops : Cursor → List LoopStop) : Prop :=
  ∀ c, (p c s).journal.stopRecords = LoopStop.unboundedDecisions (stops c)

namespace Records

variable {p : Reading α} {s : Settings} {stops : Cursor → List LoopStop}

theorem onMatch {next : α → Reading β} {later : α → Cursor → List LoopStop}
    (hp : p.Records s stops) (hnext : ∀ value, (next value).Records s (later value)) :
    (p.onMatch next).Records s fun c => stops c ++ (p c s).ending.afterMatch later := by
  intro c
  rw [stopRecords_onMatch, hp c, LoopStop.unboundedDecisions_append]
  rcases (p c s).ending with (⟨value, after⟩ | failure) | fault | _
  · exact congrArg _ (hnext value after)
  all_goals rfl

theorem inOrder {ps : List (Reading α × (Cursor → List LoopStop))}
    (hps : ∀ part ∈ ps, part.1.Records s part.2) :
    (inOrder (ps.map Prod.fst)).Records s (sequenceStops s ps) := by
  induction ps with
  | nil => exact fun _ => rfl
  | cons part ps ih =>
    obtain ⟨hpart, hrest⟩ := List.forall_mem_cons.1 hps
    rw [List.map_cons, inOrder_cons]
    refine hpart.onMatch fun value c => ?_
    -- the values are put together without a record
    rw [stopRecords_onMatch_silent _ _ _ fun _ _ => rfl]
    exact ih hrest c

theorem orElse {second : Reading α} {later : Cursor → List LoopStop} (hp : p.Records s stops)
    (hsecond : second.Records s later) :
    (p.orElse second).Records s fun c =>
      stops c ++ if (p c s).settlesAt c then [] else later c := by
  intro c
  rw [stopRecords_orElse, hp c, LoopStop.unboundedDecisions_append, hsecond c]
  split <;> rfl

theorem convert {f : α → Except Fault β} (hp : p.Records s stops) :
    (p.convert f).Records s stops := by
  intro c
  rw [Reading.convert, stopRecords_onMatch_silent, hp c]
  intro value after
  cases f value <;> rfl

theorem check [Display α] {expected : String} {accepts : α → Except Fault Bool}
    (hp : p.Records s stops) : (p.check expected accepts).Records s stops := by
  intro c
  rw [check_apply, stopRecords_onMatch_silent, hp c]
  intro value after
  rcases accepts value with fault | (_ | _)
  · rfl
  · cases display value <;> rfl
  · rfl

theorem mapFailure {f : Failure → Except Fault Failure} (hp : p.Records s stops) :
    (p.mapFailure f).Records s stops := by
  intro c
  rw [Reading.mapFailure, stopRecords_onFailure_silent, hp c]
  intro failure
  cases f failure <;> rfl

theorem withExpected {expected : String} (hp : p.Records s stops) :
    (p.withExpected expected).Records s stops := by
  intro c
  rw [Reading.withExpected, stopRecords_onFailure_silent, hp c]
  exact fun _ => rfl

theorem rewind (hp : p.Records s stops) : p.rewind.Records s stops := by
  intro c
  rw [Reading.rewind, stopRecords_onFailure_silent, hp c]
  intro failure
  split
  · rfl
  · simp [Action.record_bind_apply, Action.pure_apply, Run.after, Action.stopRecords_record,
      Decision.isStop]

theorem spy {name : String} (hp : p.Records s stops) : (p.spy name).Records s stops := by
  intro c
  rw [Journal.stopRecords, decisions_spy]
  exact hp c

/-! ### Repetitions -/

/-- A failed turn of the unbounded repetition is on record; what the other turns have on record
is what their calls of the body have. -/
theorem unboundedLoop (hdebug : s.debug = true) (hp : p.Records s stops) (turns : Nat)
    (state : Collected α) :
    (Action.loop p.unboundedTurn (fun _ => .exhausted) turns state s).journal.stopRecords =
      LoopStop.unboundedDecisions
        (p.loopStops s stops false turns state.reversed.length state.cursor) := by
  induction turns generalizing state with
  | zero => rfl
  | succ left ih =>
    rw [Action.loop_succ, loopStops, LoopStop.unboundedDecisions_append, ← hp, Action.bind_apply,
      unboundedTurn, Action.bind_apply]
    -- of the ways in which the call of the body ends, only a failure is a stop
    rcases p state.cursor s with ⟨journal, (⟨value, after⟩ | failure) | fault | _⟩
    case returned.matched =>
      by_cases hsame : after.samePos state.cursor
      · simp [hsame, Action.raise, Run.after]
      · simp [hsame, Action.pure_apply, Run.after, ih]
    case returned.failed =>
      simp [Action.pure_apply, Run.after, Action.record_bind_apply, Action.stopRecords_record,
        hdebug, Decision.isStop, LoopStop.unboundedDecisions, LoopStop.decision]
    case raised => simp
    case exhausted => simp

/-- No turn of the bounded repetition is on record. -/
theorem boundedLoop (hp : p.Records s stops) (turns : Nat) (state : Collected α) :
    (Action.loop p.boundedTurn (fun state => .returned state.outcome) turns state
        s).journal.stopRecords =
      LoopStop.unboundedDecisions
        (p.loopStops s stops true turns state.reversed.length state.cursor) := by
  induction turns generalizing state with
  | zero => rfl
  | succ left ih =>
    rw [Action.loop_succ, loopStops, LoopStop.unboundedDecisions_append, ← hp, Action.bind_apply,
      boundedTurn, Action.bind_apply]
    rcases p state.cursor s with ⟨journal, (⟨value, after⟩ | failure) | fault | _⟩
    case returned.matched => simp [Action.pure_apply, Run.after, ih]
    case returned.failed => simp [Action.pure_apply, Run.after, LoopStop.unboundedDecisions]
    case raised => simp
    case exhausted => simp

end Records

end Reading

/-! ## Parsers and grammars -/

section Parsers

variable {s : Settings}

theorem Parser.records_reading (hdebug : s.debug = true) {env : ∀ n, Reading (ρ n)}
    {named : ν → Cursor → List LoopStop} (henv : ∀ n, (env n).Records s (named n))
    (p : Parser ν ρ α) : (p.reading env).Records s (p.loopStops env named s) := by
  induction p with
  | endOfInput | fail | pure => exact fun _ => rfl
  | anyUnit =>
    intro c
    obtain ⟨outcome, houtcome⟩ := (Reading.answers_everywhere c).1
    rw [reading, houtcome]
    rfl
  | literal text =>
    intro c
    obtain ⟨outcome, houtcome⟩ := (Reading.answers_everywhere c).2 text
    rw [reading, houtcome]
    rfl
  | convert p f ih => exact ih.convert
  | check expected p accepts ih => exact ih.check
  | mapFailure p f ih => exact ih.mapFailure
  | withExpected p expected ih => exact ih.withExpected
  | bind p next ih ihnext => exact ih.onMatch ihnext
  | inOrder ps ih =>
    have hparts : ∀ part ∈ List.ofFn fun i => ((ps i).reading env, (ps i).loopStops env named s),
        part.1.Records s part.2 := List.forall_mem_ofFn_iff.2 ih
    have hrecords := Reading.Records.inOrder hparts
    rwa [List.map_ofFn] at hrecords
  | orElse first second ihfirst ihsecond => exact ihfirst.orElse ihsecond
  | rewind p ih => exact ih.rewind
  | zeroOrMore p ih => exact fun c => ih.unboundedLoop hdebug s.budget ⟨[], c⟩
  | upTo p count ih => exact fun c => ih.boundedLoop count ⟨[], c⟩
  | ref name => exact henv name
  | custom read =>
    intro c
    simp only [reading, Reading.custom, Action.stopRecords_ofExcept]
    rfl
  | spy name p ih => exact ih.spy

theorem Grammar.records_names (hdebug : s.debug = true) (g : Grammar ν ρ) (depth : Nat) (n : ν) :
    (g.names depth n).Records s (g.loopStops s depth n) := by
  induction depth generalizing n with
  | zero => exact fun _ => rfl
  | succ depth ih => exact Parser.records_reading hdebug ih (g n)

end Parsers

/-- With the debug switch on, the journal of a run has a record of each unbounded repetition that
a failure has stopped, in the order of the stops, with the position, the number of matches and
the message of the failure; and it has no other. The stops of bounded repetitions are the ones
that are not on record. This is for every run, whether it returns or not. -/
theorem Parser.records_unbounded_stops (p : Parser ν ρ α) (g : Grammar ν ρ) (c : Cursor)
    (budget : Nat) :
    let s : Settings := { debug := true, budget }
    let stops := p.loopStopsAt g c s
    let records := (p.runAt g c s).journal.stopRecords
    records = (stops.filter fun stop => !stop.bounded).map LoopStop.decision ∧
      records.length + (stops.filter LoopStop.bounded).length = stops.length := by
  intro s stops records
  have hrecords : records = LoopStop.unboundedDecisions stops :=
    records_reading rfl (g.records_names rfl s.budget) p c
  refine ⟨hrecords, ?_⟩
  rw [hrecords, LoopStop.unboundedDecisions, List.length_map, Nat.add_comm]
  exact (List.length_eq_length_filter_add LoopStop.bounded).symm

/-- A letter, or a digit with a letter behind it: the repetition stops in front of the second
digit, although its body fails behind it. -/
example :
    let letter : Parser Empty (fun _ => Unit) Char := Parser.oneOf "a letter" (· == 'x')
    let item := letter.orElse ((Parser.oneOf "a digit" Text.isDigit).bind fun _ => letter).rewind
    (item.zeroOrMore.reading nofun (Cursor.start #['x', '1', 'x', '2', 'y'])
        { debug := true, budget := 9 }).journal.stopRecords =
      [.stopped 3 2 "a letter; actual: \"y\"; index=4"] := by decide +kernel

/-- Not every stop is on record: of a bounded repetition that is stopped by the unit behind its
first match, there is no record. -/
theorem Parser.not_records_every_stop :
    ¬ ∀ (p : Parser Empty (fun _ => Unit) (List String)) (g : Grammar Empty fun _ => Unit)
        (c : Cursor) (budget : Nat) (outcome : Outcome (List String)),
      (p.runAt g c { debug := true, budget }).ending = .returned outcome →
      (p.runAt g c { debug := true, budget }).journal.stopRecords.length =
        (p.loopStopsAt g c { debug := true, budget }).length := by
  intro hevery
  have hlength := hevery ((literal "a").upTo 3) nofun (Cursor.start #['a', 'b']) 1
    (.matched ["a"] ⟨#['a', 'b'], 1, by decide⟩) (by decide +kernel)
  exact absurd hlength (by decide +kernel)

end Descent
