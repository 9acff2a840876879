-- SUMMARY: Which parsers a choice calls, and which of them gives its answer.
import Descent.Parser.Combinators
import Descent.Proofs.Execution

/-!
# Choices

A parser of a choice settles it, unless it fails in place. The first one that does is the
last one that is called, and the choice ends as it does; what comes in front of it was
called once, in the order of the list and from the same cursor. If there is none, all were
called and the choice fails with its own message.

Nothing is assumed about the parsers. They may move backwards, answer with cursors of
another source, stop with a fault, or not come to an end.
-/

namespace Descent

variable {ν : Type} {ρ : ν → Type} {α : Type}

/-- Whether a run settles a choice at a cursor: it does, unless it fails in place. -/
def Run.settlesAt (run : Run (Outcome α)) (c : Cursor) : Bool :=
  match run.ending with
  | .returned (.failed failure) => !failure.cursor.samePos c
  | _ => true

theorem Run.settlesAt_congr {run run' : Run (Outcome α)} (h : run.ending = run'.ending)
    (c : Cursor) : run.settlesAt c = run'.settlesAt c := by
  simp only [settlesAt, h]

namespace Reading

variable {p : Reading α} {c : Cursor} {s : Settings}

/-- A first alternative that settles the choice is the answer. -/
theorem orElse_of_settles (second : Reading α) (h : (p c s).settlesAt c = true) :
    (p.orElse second c s).ending = (p c s).ending ∧
      (p.orElse second c s).journal.visits = (p c s).journal.visits := by
  by_cases hfailed : ∃ failure, (p c s).ending = .returned (.failed failure)
  · obtain ⟨failure, hend⟩ := hfailed
    have hmoved : ¬ failure.cursor.samePos c := by
      simpa [Run.settlesAt, hend] using h
    rw [run_orElse_commits second (Run.eq_of_ending hend) hmoved, hend]
    simp
  · rw [orElse, run_onFailure_other fun failure hend => hfailed ⟨failure, hend⟩]
    exact ⟨rfl, rfl⟩

/-- After one that does not, the second alternative is. -/
theorem orElse_of_not_settles (second : Reading α) (h : (p c s).settlesAt c = false) :
    (p.orElse second c s).ending = (second c s).ending ∧
      (p.orElse second c s).journal.visits =
        (p c s).journal.visits ++ (second c s).journal.visits := by
  unfold Run.settlesAt at h
  split at h
  · rename_i failure hend
    have hsame : failure.cursor.samePos c := by simpa using h
    rw [run_orElse_falls_back second (Run.eq_of_ending hend) hsame]
    simp [Run.after]
  · cases h

end Reading

namespace Parser

/-- The index of the first parser of a list that settles a choice; the length of the list,
if there is none. -/
def firstSettling (env : ∀ n, Reading (ρ n)) (c : Cursor) (s : Settings)
    (ps : List (Parser ν ρ α)) : Nat :=
  ps.findIdx fun p => (p.reading env c s).settlesAt c

theorem run_choice (env : ∀ n, Reading (ρ n)) (expected : String) (ps : List (Parser ν ρ α))
    (c : Cursor) (s : Settings) :
    ((choice expected ps).reading env c s).ending =
        (match ps[firstSettling env c s ps]? with
        | some p => (p.reading env c s).ending
        | none => .returned (.failed ⟨expected, c⟩)) ∧
      ((choice expected ps).reading env c s).journal.visits =
        (ps.take (firstSettling env c s ps + 1)).flatMap
          fun p => (p.reading env c s).journal.visits := by
  induction ps with
  | nil => exact ⟨rfl, rfl⟩
  | cons p ps ih =>
    cases hsettles : (p.reading env c s).settlesAt c with
    | true =>
      have hfirst : firstSettling env c s (p :: ps) = 0 := by
        simp [firstSettling, List.findIdx_cons, hsettles]
      obtain ⟨hending, hvisits⟩ :=
        Reading.orElse_of_settles ((choice expected ps).reading env) hsettles
      rw [hfirst, List.getElem?_cons_zero, List.take_succ_cons, List.take_zero,
        List.flatMap_singleton]
      exact ⟨hending, hvisits⟩
    | false =>
      have hfirst : firstSettling env c s (p :: ps) = firstSettling env c s ps + 1 := by
        simp [firstSettling, List.findIdx_cons, hsettles]
      obtain ⟨hending, hvisits⟩ :=
        Reading.orElse_of_not_settles ((choice expected ps).reading env) hsettles
      rw [hfirst, List.getElem?_cons_succ, List.take_succ_cons, List.flatMap_cons, ← ih.1, ← ih.2]
      exact ⟨hending, hvisits⟩

/-- A parser with a name under which its calls are written down. -/
def watch (entry : String × Parser ν ρ α) : Parser ν ρ α := entry.2.spy entry.1

/-- Watching the parsers of a list does not change which one settles a choice. -/
theorem firstSettling_watch (env : ∀ n, Reading (ρ n)) (c : Cursor) (s : Settings)
    (entries : List (String × Parser ν ρ α)) :
    firstSettling env c s (entries.map watch) = firstSettling env c s (entries.map Prod.snd) := by
  have hwatch : ∀ entry : String × Parser ν ρ α,
      ((watch entry).reading env c s).settlesAt c = (entry.2.reading env c s).settlesAt c :=
    fun entry => Run.settlesAt_congr (Reading.ending_spy (entry.2.reading env) entry.1 c s) c
  simp only [firstSettling, List.findIdx_map]
  exact congrArg (List.findIdx · entries) (funext hwatch)

/-- The first parser of a list that settles the choice is the answer, whatever it is. The
parsers up to it are called, each of them once, from the same cursor, in the order of the
list. If there is no such parser, all are called, and the choice fails in place. -/
theorem choice_first_settling (env : ∀ n, Reading (ρ n)) (expected : String)
    (entries : List (String × Parser ν ρ α)) (c : Cursor) (s : Settings) :
    let ps := entries.map Prod.snd
    let first := firstSettling env c s ps
    ((choice expected ps).reading env c s).ending =
        (match ps[first]? with
        | some p => (p.reading env c s).ending
        | none => .returned (.failed ⟨expected, c⟩)) ∧
      ((choice expected ps).reading env c s).journal.visits =
        (ps.take (first + 1)).flatMap (fun p => (p.reading env c s).journal.visits) ∧
      ((choice expected (entries.map watch)).reading env c s).journal.visits =
        (entries.take (first + 1)).flatMap fun (name, p) => ⟨.enter, name, c⟩ ::
          ((p.reading env c s).journal.visits ++ lastVisit name (p.reading env c s).ending) := by
  obtain ⟨hending, hvisits⟩ := run_choice env expected (entries.map Prod.snd) c s
  refine ⟨hending, hvisits, ?_⟩
  rw [(run_choice env expected (entries.map watch) c s).2, firstSettling_watch, ← List.map_take,
    List.flatMap_map]
  exact congrArg (List.flatMap · _) (funext fun entry => Reading.visits_spy _ _ _ _)

end Parser

end Descent
