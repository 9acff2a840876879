-- SUMMARY: What the run of a combinator is, once the runs of its parts are known.
import Descent.Proofs.Contract
import Descent.Proofs.InOrder
import Descent.Proofs.Simulation

/-!
# Execution

Contracts say what holds of every run. Here, the run of a combinator is computed from a
known run of its first part, journal and all: each combinator passes most endings of that
part on as they are, and goes on after the others.
-/

namespace Descent

variable {α β : Type}

/-! ## Runs of which the first part is known -/

theorem Journal.visits_flatMap {σ : Type} (states : List σ) (journal : σ → Journal) :
    Journal.visits (states.flatMap journal) = states.flatMap fun state => (journal state).visits :=
  List.filterMap_flatMap

/-- A decision that is written down is no visit. -/
@[simp] theorem Action.visits_record (decision : Decision) (s : Settings) :
    (record decision s).journal.visits = [] := by
  unfold record
  split <;> rfl

theorem Run.eq_of_ending {run : Run α} {ending : Ending α} (h : run.ending = ending) :
    run = ⟨run.journal, ending⟩ := by
  rw [← h]

theorem Action.bind_of_returned {a : Action α} {s : Settings} {result : α}
    (h : (a s).ending = .returned result) (next : α → Action β) :
    (a >>= next) s = (next result s).after (a s).journal := by
  rw [bind_apply, Run.eq_of_ending h]

theorem Action.bind_of_raised {a : Action α} {s : Settings} {fault : Fault}
    (h : (a s).ending = .raised fault) (next : α → Action β) :
    (a >>= next) s = ⟨(a s).journal, .raised fault⟩ := by
  rw [bind_apply, Run.eq_of_ending h]

theorem Action.bind_of_exhausted {a : Action α} {s : Settings} (h : (a s).ending = .exhausted)
    (next : α → Action β) : (a >>= next) s = ⟨(a s).journal, .exhausted⟩ := by
  rw [bind_apply, Run.eq_of_ending h]

theorem Action.record_bind_apply (decision : Decision) (a : Action α) (s : Settings) :
    (record decision >>= fun _ => a) s = (a s).after (record decision s).journal := rfl

namespace Reading

variable {p : Reading α} {c : Cursor} {s : Settings} {journal : Journal}

theorem run_onMatch_matched {value : α} {after : Cursor}
    (h : p c s = ⟨journal, .returned (.matched value after)⟩) (next : α → Reading β) :
    p.onMatch next c s = (next value after s).after journal := by
  simp only [onMatch, Action.bind_apply, h]

theorem run_onMatch_failed {failure : Failure}
    (h : p c s = ⟨journal, .returned (.failed failure)⟩) (next : α → Reading β) :
    p.onMatch next c s = ⟨journal, .returned (.failed failure)⟩ := by
  simp only [onMatch, Action.bind_apply, h, Action.pure_apply, Run.after, Journal.followedBy]

/-- If the first readings of a sequence match and the next one fails, its failure is the answer
of the sequence, and the readings that are left do not run. -/
theorem run_inOrder_failed {ps : List (Reading α)} {index : Nat} {values : List α}
    {after : Cursor} {journal' : Journal} {failure : Failure} (hmember : ps[index]? = some p)
    (hfirst : inOrder (ps.take index) c s = ⟨journal, .returned (.matched values after)⟩)
    (hfail : p after s = ⟨journal', .returned (.failed failure)⟩) :
    inOrder ps c s = ⟨journal ++ journal', .returned (.failed failure)⟩ := by
  have hrest : inOrder (ps.drop index) after s = ⟨journal', .returned (.failed failure)⟩ := by
    rw [List.drop_eq_getElem?_toList_append, hmember, Option.toList_some, List.singleton_append,
      inOrder_cons]
    exact run_onMatch_failed hfail _
  rw [← List.take_append_drop index ps, inOrder_append, run_onMatch_matched hfirst,
    run_onMatch_failed hrest]
  simp [Run.after]

theorem run_onFailure_failed {failure : Failure}
    (h : p c s = ⟨journal, .returned (.failed failure)⟩)
    (next : Failure → Action (Outcome α)) :
    p.onFailure next c s = (next failure s).after journal := by
  simp only [onFailure, Action.bind_apply, h]

/-- What is no failure passes a handler of failures as it is. -/
theorem run_onFailure_other (h : ∀ failure, (p c s).ending ≠ .returned (.failed failure))
    (next : Failure → Action (Outcome α)) : p.onFailure next c s = p c s := by
  simp only [onFailure, Action.bind_apply]
  rcases hrun : p c s with ⟨journal, (⟨value, after⟩ | failure) | fault | _⟩
  · simp only [Action.pure_apply, Run.after, Journal.followedBy]
  · rw [hrun] at h
    exact absurd rfl (h failure)
  · rfl
  · rfl

theorem run_check_failed [Display α] {failure : Failure}
    (h : p c s = ⟨journal, .returned (.failed failure)⟩) (expected : String)
    (accepts : α → Except Fault Bool) :
    p.check expected accepts c s = ⟨journal, .returned (.failed failure)⟩ := by
  rw [check_apply]
  exact run_onMatch_failed h _

theorem run_withExpected_failed {failure : Failure}
    (h : p c s = ⟨journal, .returned (.failed failure)⟩) (expected : String) :
    p.withExpected expected c s =
      ⟨journal, .returned (.failed ⟨expected, failure.cursor⟩)⟩ := by
  rw [withExpected, run_onFailure_failed h]
  rfl

/-- A failure elsewhere is the answer of an alternative. -/
theorem run_orElse_commits {failure : Failure} (second : Reading α)
    (h : p c s = ⟨journal, .returned (.failed failure)⟩) (hmoved : ¬ failure.cursor.samePos c) :
    p.orElse second c s =
      ⟨journal ++ (Action.record (.commit c.pos failure.cursor.pos failure.expected) s).journal,
        .returned (.failed failure)⟩ := by
  rw [orElse, run_onFailure_failed h, if_neg hmoved]
  simp [Action.bind_apply, Action.record, Action.pure_apply, Run.after]

/-- After a failure in place, the second alternative runs. -/
theorem run_orElse_falls_back {failure : Failure} (second : Reading α)
    (h : p c s = ⟨journal, .returned (.failed failure)⟩) (hsame : failure.cursor.samePos c) :
    p.orElse second c s = (second c s).after
      (journal ++ (Action.record (.fallback c.pos failure.expected) s).journal) := by
  rw [orElse, run_onFailure_failed h, if_pos hsame]
  simp [Action.bind_apply, Action.record]

/-- A failure of a watched reading is written down behind its journal. -/
theorem run_spy_failed {failure : Failure}
    (h : p c s = ⟨journal, .returned (.failed failure)⟩) (name : String) :
    p.spy name c s = ⟨.visit ⟨.enter, name, c⟩ :: journal ++
      [.visit ⟨.failed, name, failure.cursor⟩], .returned (.failed failure)⟩ := by
  simp only [spy, Action.bind_apply, Action.visit, Action.pure_apply, h, Run.after,
    Outcome.isMatch, Outcome.cursor, Journal.followedBy_eq]
  rfl

end Reading

/-! ## Watched parsers -/

/-- The visit with which a watched run leaves, once it has an outcome. -/
def Visit.leave (name : String) (outcome : Outcome α) : Visit :=
  ⟨if outcome.isMatch then .matched else .failed, name, outcome.cursor⟩

/-- The visits with which a watched run ends. -/
def lastVisit (name : String) : Ending (Outcome α) → List Visit
  | .returned outcome => [.leave name outcome]
  | .raised _ => []
  | .exhausted => []

namespace Reading

variable (p : Reading α) (name : String) (c : Cursor) (s : Settings)

theorem spy_apply : p.spy name c s = ((p c s).andThen fun outcome =>
    ⟨[.visit (.leave name outcome)], .returned outcome⟩).after [.visit ⟨.enter, name, c⟩] := rfl

theorem ending_spy : (p.spy name c s).ending = (p c s).ending := by
  rw [spy_apply]
  rcases p c s with ⟨journal, outcome | fault | _⟩ <;> rfl

theorem decisions_spy : (p.spy name c s).journal.decisions = (p c s).journal.decisions := by
  rw [spy_apply]
  rcases p c s with ⟨journal, outcome | fault | _⟩ <;>
    simp [Run.andThen, Run.after, Journal.decisions]

theorem visits_spy : (p.spy name c s).journal.visits =
    ⟨.enter, name, c⟩ :: ((p c s).journal.visits ++ lastVisit name (p c s).ending) := by
  rw [spy_apply]
  rcases p c s with ⟨journal, outcome | fault | _⟩ <;>
    simp [Run.andThen, Run.after, Journal.visits, lastVisit]

end Reading

end Descent
