-- SUMMARY: What an unbounded repetition collects, how it ends, and how often it calls its body.
import Descent.Proofs.Execution
import Descent.Proofs.Span

/-!
# Repetitions

The matches of a body form a chain: each begins where the one before it ends, and ends
elsewhere than where it begins. An unbounded repetition goes along the chain from its
start, and stops where the chain does, at the first call that adds no match to it. It
matches in front of that call if the call fails, wherever the failure is reported; it is
refused if the call matches in place; and it stops with the fault of the call.

If matches only lead forward, there are no more links in a chain than units left to read,
so every chain stops.
-/

namespace Descent

variable {ν : Type} {ρ : ν → Type} {α : Type}

namespace Reading

/-- The chain of matches of a reading from one cursor to another: the values, and the
cursors at which the matches begin. -/
inductive Chain (p : Reading α) (s : Settings) : Cursor → List α → List Cursor → Cursor → Prop where
  | refl (c : Cursor) : Chain p s c [] [] c
  | link {c d last : Cursor} {value : α} {values : List α} {starts : List Cursor} :
      (p c s).ending = .returned (.matched value d) → ¬ d.samePos c →
      Chain p s d values starts last → Chain p s c (value :: values) (c :: starts) last

/-- Whether a reading adds no link to a chain at a cursor. -/
def Stops (p : Reading α) (s : Settings) (c : Cursor) : Prop :=
  ∀ value after, (p c s).ending = .returned (.matched value after) → after.samePos c

variable {p : Reading α} {s : Settings} {c last : Cursor} {values : List α}
  {starts : List Cursor}

theorem Chain.length_starts (h : p.Chain s c values starts last) :
    starts.length = values.length := by
  induction h with
  | refl c => rfl
  | link hmatch hmoved h ih => rw [List.length_cons, List.length_cons, ih]

/-- Each link leads forward, so there are not more of them than units in between. -/
theorem Chain.le (hspans : p.Spans False) (h : p.Chain s c values starts last) :
    c ≤ last ∧ c.pos + values.length ≤ last.pos := by
  induction h with
  | refl c => exact ⟨le_refl c, Nat.le_refl _⟩
  | @link c d last value values starts hmatch hmoved h ih =>
    have hcd : c ≤ d := (hspans c).of_returned hmatch
    have hlt := Cursor.pos_lt_of_le hcd hmoved
    refine ⟨hcd.trans ih.1, ?_⟩
    rw [List.length_cons]
    omega

theorem Chain.length_le (hspans : p.Spans False) (h : p.Chain s c values starts last) :
    values.length ≤ c.source.size - c.pos := by
  obtain ⟨⟨hsource, -⟩, hpos⟩ := h.le hspans
  have hlast := last.pos_le
  rw [← hsource] at hlast
  omega

/-- Every chain stops if matches lead forward. -/
theorem exists_chain (hspans : p.Spans False) (s : Settings) (c : Cursor) :
    ∃ values starts last, p.Chain s c values starts last ∧ p.Stops s last := by
  induction hleft : c.source.size - c.pos using Nat.strong_induction_on generalizing c with
  | _ left ih =>
    by_cases hstops : p.Stops s c
    · exact ⟨[], [], c, .refl c, hstops⟩
    · simp only [Stops, not_forall] at hstops
      obtain ⟨value, d, hmatch, hmoved⟩ := hstops
      have hcd : c ≤ d := (hspans c).of_returned hmatch
      have hlt := Cursor.pos_lt_of_le hcd hmoved
      have hless : d.source.size - d.pos < left := by
        have hd := d.pos_le
        rw [← hleft, ← hcd.1] at *
        omega
      obtain ⟨values, starts, last, hchain, hlast⟩ := ih _ hless d rfl
      exact ⟨_, _, last, .link hmatch hmoved hchain, hlast⟩

/-! ## Going along a chain -/

/-- A turn of the repetition at a match that has moved. -/
theorem turn_of_match {d : Cursor} {value : α} (reversed : List α)
    (hmatch : (p c s).ending = .returned (.matched value d)) (hmoved : ¬ d.samePos c) :
    p.unboundedTurn ⟨reversed, c⟩ s =
      ⟨(p c s).journal, .returned (.again ⟨value :: reversed, d⟩)⟩ := by
  rw [unboundedTurn, Action.bind_of_returned hmatch]
  simp only [if_neg hmoved]
  simp [Action.pure_apply, Run.after]

/-- A turn at a match in place stops the repetition. -/
theorem turn_of_match_in_place {d : Cursor} {value : α} (reversed : List α)
    (hmatch : (p c s).ending = .returned (.matched value d)) (hsame : d.samePos c) :
    p.unboundedTurn ⟨reversed, c⟩ s = ⟨(p c s).journal, .raised (.noProgress c.pos)⟩ := by
  rw [unboundedTurn, Action.bind_of_returned hmatch]
  simp only [if_pos hsame]
  simp [Action.raise, Run.after]

/-- A turn of the repetition at a failure is the last one, wherever that is reported. -/
theorem turn_of_failure {failure : Failure} (reversed : List α)
    (hfail : (p c s).ending = .returned (.failed failure)) :
    p.unboundedTurn ⟨reversed, c⟩ s =
      ⟨(p c s).journal ++
        (Action.record (.stopped c.pos reversed.length failure.expected) s).journal,
        .returned (.done (.matched reversed.reverse c))⟩ := by
  rw [unboundedTurn, Action.bind_of_returned hfail]
  simp only [Action.record_bind_apply, Run.after_after]
  simp [Action.pure_apply, Run.after, Collected.outcome]

/-- The loop of the repetition takes one turn for each link of a chain. -/
theorem loop_of_chain (h : p.Chain s c values starts last) (turns : Nat) (reversed : List α) :
    Action.loop p.unboundedTurn (fun _ => .exhausted) (values.length + turns) ⟨reversed, c⟩ s =
      (Action.loop p.unboundedTurn (fun _ => .exhausted) turns
        ⟨values.reverse ++ reversed, last⟩ s).after (starts.flatMap fun d => (p d s).journal) := by
  induction h generalizing reversed with
  | refl c => simp
  | @link c d last value values starts hmatch hmoved h ih =>
    rw [List.length_cons, Nat.succ_add, Action.loop_succ, Action.bind_apply,
      turn_of_match reversed hmatch hmoved]
    simp only [ih, Run.after_after]
    simp

/-- How a repetition ends with a call that adds no link to the chain of its matches. -/
def closing (values : List α) (last : Cursor) : Ending (Outcome α) → Ending (Outcome (List α))
  | .returned (.matched _ _) => .raised (.noProgress last.pos)
  | .returned (.failed _) => .returned (.matched values last)
  | .raised fault => .raised fault
  | .exhausted => .exhausted

theorem closing_ne_failed {ending : Ending (Outcome α)} {failure : Failure} :
    closing values last ending ≠ .returned (.failed failure) := by
  rcases ending with (⟨value, after⟩ | failed) | fault | _ <;> nofun

/-- The loop ends with the turn at the end of the chain. -/
theorem loop_of_stops (h : p.Stops s last) (turns : Nat) (reversed : List α) :
    (Action.loop p.unboundedTurn (fun _ => .exhausted) (turns + 1) ⟨reversed, last⟩ s).ending =
        closing reversed.reverse last (p last s).ending ∧
      (Action.loop p.unboundedTurn (fun _ => .exhausted) (turns + 1) ⟨reversed, last⟩
        s).journal.visits = (p last s).journal.visits := by
  rw [Action.loop_succ, Action.bind_apply]
  cases hend : (p last s).ending with
  | returned outcome =>
    cases outcome with
    | matched value after =>
      rw [turn_of_match_in_place reversed hend (h value after hend)]
      exact ⟨rfl, rfl⟩
    | failed failure =>
      rw [turn_of_failure reversed hend]
      simp [Action.pure_apply, Run.after, closing]
  | raised fault =>
    rw [unboundedTurn, Action.bind_of_raised hend]
    exact ⟨rfl, rfl⟩
  | exhausted =>
    rw [unboundedTurn, Action.bind_of_exhausted hend]
    exact ⟨rfl, rfl⟩

/-- An unbounded repetition collects the values of the chain, and ends with the call at its
end; it calls its body where the links begin, and there. -/
theorem zeroOrMore_of_chain (hchain : p.Chain s c values starts last) (hstops : p.Stops s last)
    (hbudget : values.length < s.budget) :
    (p.zeroOrMore c s).ending = closing values last (p last s).ending ∧
      (p.zeroOrMore c s).journal.visits =
        (starts ++ [last]).flatMap fun d => (p d s).journal.visits := by
  obtain ⟨turns, hturns⟩ := Nat.exists_eq_add_of_lt hbudget
  obtain ⟨hending, hvisits⟩ := loop_of_stops hstops turns values.reverse
  rw [zeroOrMore, hturns, Nat.add_assoc, loop_of_chain hchain, List.append_nil]
  rw [List.reverse_reverse] at hending
  refine ⟨hending, ?_⟩
  rw [List.flatMap_append, List.flatMap_singleton, ← hvisits, ← Journal.visits_flatMap]
  simp [Run.after]

/-- A chain of a reading is one of the reading when it is watched. -/
theorem Chain.spy (name : String) (h : p.Chain s c values starts last) :
    (p.spy name).Chain s c values starts last := by
  induction h with
  | refl c => exact .refl c
  | link hmatch hmoved h ih => exact .link ((ending_spy _ _ _ _).trans hmatch) hmoved ih

theorem Stops.spy (name : String) (h : p.Stops s last) : (p.spy name).Stops s last := by
  intro value after hend
  exact h value after ((ending_spy _ _ _ _).symm.trans hend)

end Reading

namespace Parser

/-- A repetition whose body leads forward comes to the end of the chain of its matches. It
calls its body where the links begin, and there, so not more often than there are units
left to read and once more. It matches with the values of the chain if the last call fails,
wherever that is reported; it is refused if that call matches in place; and a fault of the
call is its own. It never fails. -/
theorem zeroOrMore_exact {env : ∀ n, Reading (ρ n)} {p : Parser ν ρ α}
    (hspans : (p.reading env).Spans False) {c : Cursor} {s : Settings}
    (hbudget : c.source.size - c.pos < s.budget) (name : String) :
    (∃ values starts last, (p.reading env).Chain s c values starts last ∧
      (p.reading env).Stops s last) ∧
    (∀ values starts last, (p.reading env).Chain s c values starts last →
      (p.reading env).Stops s last →
      (p.zeroOrMore.reading env c s).ending =
          Reading.closing values last (p.reading env last s).ending ∧
        (((p.spy name).zeroOrMore).reading env c s).journal.visits =
          (starts ++ [last]).flatMap (fun d => ⟨.enter, name, d⟩ ::
            ((p.reading env d s).journal.visits ++ lastVisit name (p.reading env d s).ending)) ∧
        (starts ++ [last]).length ≤ c.source.size - c.pos + 1) ∧
    ∀ failure, (p.zeroOrMore.reading env c s).ending ≠ .returned (.failed failure) := by
  have hends := Reading.exists_chain hspans s c
  have hturns : ∀ {values starts last}, (p.reading env).Chain s c values starts last →
      values.length < s.budget := fun hchain =>
    Nat.lt_of_le_of_lt (hchain.length_le hspans) hbudget
  refine ⟨hends, fun values starts last hchain hstops => ⟨?_, ?_, ?_⟩, fun failure hfailed => ?_⟩
  · exact (Reading.zeroOrMore_of_chain hchain hstops (hturns hchain)).1
  · rw [← funext fun d => Reading.visits_spy (p.reading env) name d s]
    exact (Reading.zeroOrMore_of_chain (hchain.spy name) (hstops.spy name) (hturns hchain)).2
  · rw [List.length_append, hchain.length_starts]
    exact Nat.succ_le_succ (hchain.length_le hspans)
  · obtain ⟨values, starts, last, hchain, hstops⟩ := hends
    have hending := (Reading.zeroOrMore_of_chain hchain hstops (hturns hchain)).1
    exact Reading.closing_ne_failed (hending.symm.trans hfailed)

/-- A letter and a digit. -/
def entry : Parser Empty (fun _ => Unit) (Tuple [String, Char]) :=
  sequence2 (literal "x") (oneOf "a digit" Text.isDigit)

/-- A cursor of a source with two entries, and a letter without a digit. -/
def entriesAt (pos : Nat) : Cursor := (Cursor.start #['x', '1', 'x', '2', 'x']).skip pos

/-- The last letter is left over, although the third call fails behind it. -/
theorem zeroOrMore_exact_entries :
    (entry.reading nofun (entriesAt 4) { budget := 6 }).ending =
        .returned (.failed ⟨Mismatch.noUnitLeft, entriesAt 5⟩) ∧
      (entry.zeroOrMore.reading nofun (entriesAt 0) { budget := 6 }).ending =
        .returned (.matched [("x", '1', ()), ("x", '2', ())] (entriesAt 4)) ∧
      ((entry.spy "entry").zeroOrMore.reading nofun (entriesAt 0) { budget := 6 }).journal.visits =
        [⟨.enter, "entry", entriesAt 0⟩, ⟨.matched, "entry", entriesAt 2⟩,
          ⟨.enter, "entry", entriesAt 2⟩, ⟨.matched, "entry", entriesAt 4⟩,
          ⟨.enter, "entry", entriesAt 4⟩, ⟨.failed, "entry", entriesAt 5⟩] := by
  have hcustom : entry.Avoids {.custom} := by
    simp [entry, Avoids, sequence2, oneOf, satisfy, satisfyOver, map]
  have hspans : (entry.reading nofun).Spans False :=
    spans_reading (Set.mem_singleton _) False.elim (fun n => n.elim) hcustom
  have hfail : (entry.reading nofun (entriesAt 4) { budget := 6 }).ending =
      .returned (.failed ⟨Mismatch.noUnitLeft, entriesAt 5⟩) := by decide +kernel
  have hchain : (entry.reading nofun).Chain { budget := 6 } (entriesAt 0)
      [("x", '1', ()), ("x", '2', ())] [entriesAt 0, entriesAt 2] (entriesAt 4) :=
    .link (d := entriesAt 2) (by decide +kernel) (by decide +kernel) <|
      .link (d := entriesAt 4) (by decide +kernel) (by decide +kernel) (.refl _)
  have hstops : (entry.reading nofun).Stops { budget := 6 } (entriesAt 4) := by
    intro value after hmatch
    rw [hfail] at hmatch
    cases hmatch
  obtain ⟨hending, hvisits, -⟩ :=
    (zeroOrMore_exact hspans (by decide +kernel) "entry").2.1 _ _ _ hchain hstops
  rw [hfail] at hending
  exact ⟨hfail, hending, hvisits.trans (by decide +kernel)⟩

end Parser

end Descent
