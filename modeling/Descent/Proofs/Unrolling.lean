-- SUMMARY: The repetitions as recursions on their first turn, and how they compare.
import Descent.Proofs.Ending
import Descent.Proofs.Repetition

/-!
# Unrolling repetitions

Both repetitions are loops that collect values. How they end is a recursion on the first
turn: a repetition that goes on ends as the repetition from the next cursor does, with one
value more in front. By these equations a repetition is compared with another way to
write it down, or with the other kind of repetition.

A bounded repetition ends with the bound, an unbounded one with a match in place. As long
as neither happens they go along the same chain of matches.
-/

namespace Descent

variable {ν : Type} {ρ : ν → Type} {α β : Type}

/-- A later cursor of a source has not more units left to read. -/
theorem Cursor.size_sub_pos_le {c d : Cursor} (h : c ≤ d) :
    d.source.size - d.pos ≤ c.source.size - c.pos := by
  rw [h.1]
  exact Nat.sub_le_sub_left h.2 _

namespace Reading

variable {p : Reading α} {s : Settings} {c last : Cursor} {values : List α}
  {starts : List Cursor}

/-! ## The unbounded repetition -/

theorem mapValue_closing (value : α) (values : List α) (last : Cursor)
    (ending : Ending (Outcome α)) :
    (closing values last ending).mapValue (value :: ·) = closing (value :: values) last ending := by
  rcases ending with (⟨matched, after⟩ | failure) | fault | _ <;> rfl

theorem eq_exhausted_of_closing {ending : Ending (Outcome α)}
    (h : closing values last ending = .exhausted) : ending = .exhausted := by
  rcases ending with (⟨value, after⟩ | failure) | fault | _
  · cases h
  · cases h
  · cases h
  · rfl

theorem closing_of_chain (hspans : p.Spans False) (hchain : p.Chain s c values starts last)
    (hstops : p.Stops s last) (hbudget : c.source.size - c.pos < s.budget) :
    (p.zeroOrMore c s).ending = closing values last (p last s).ending :=
  (zeroOrMore_of_chain hchain hstops (Nat.lt_of_le_of_lt (hchain.length_le hspans) hbudget)).1

theorem exists_closing (hspans : p.Spans False) (hbudget : c.source.size - c.pos < s.budget) :
    ∃ values last, c ≤ last ∧
      (p.zeroOrMore c s).ending = closing values last (p last s).ending := by
  obtain ⟨values, starts, last, hchain, hstops⟩ := exists_chain hspans s c
  exact ⟨values, last, (hchain.le hspans).1, closing_of_chain hspans hchain hstops hbudget⟩

/-- A repetition whose body leads forward is its first call, and the repetition from
there if that call has moved. -/
theorem ending_zeroOrMore (hspans : p.Spans False) (hbudget : c.source.size - c.pos < s.budget) :
    (p.zeroOrMore c s).ending = (p c s).ending.proceed
      (fun value after =>
        if after.samePos c then .raised (.noProgress c.pos)
        else (p.zeroOrMore after s).ending.mapValue (value :: ·))
      fun _ => .returned (.matched [] c) := by
  obtain ⟨values, starts, last, hchain, hstops⟩ := exists_chain hspans s c
  rw [closing_of_chain hspans hchain hstops hbudget]
  cases hchain with
  | refl =>
    cases hend : (p c s).ending with
    | returned outcome =>
      cases outcome with
      | matched value after => simp [closing, hstops value after hend]
      | failed failure => rfl
    | raised fault => rfl
    | exhausted => rfl
  | @link c d last value values starts hmatch hmoved hchain =>
    have hcd : c ≤ d := (hspans c).of_returned hmatch
    have hbudget' := Nat.lt_of_le_of_lt (Cursor.size_sub_pos_le hcd) hbudget
    rw [hmatch, Ending.proceed_matched, if_neg hmoved,
      closing_of_chain hspans hchain hstops hbudget', mapValue_closing]

/-- So the first call need not be checked: if it matches in place, the repetition behind it
is refused there. -/
theorem ending_zeroOrMore_unchecked (hspans : p.Spans False)
    (hbudget : c.source.size - c.pos < s.budget) :
    (p.zeroOrMore c s).ending = (p c s).ending.proceed
      (fun value after => (p.zeroOrMore after s).ending.mapValue (value :: ·))
      fun _ => .returned (.matched [] c) := by
  rw [ending_zeroOrMore hspans hbudget]
  cases hend : (p c s).ending with
  | returned outcome =>
    cases outcome with
    | matched value d =>
      rw [Ending.proceed_matched, Ending.proceed_matched]
      split
      · rename_i hsame
        obtain rfl := Cursor.eq_of_le_of_samePos ((hspans c).of_returned hend) hsame
        rw [ending_zeroOrMore hspans hbudget, hend, Ending.proceed_matched, if_pos hsame,
          Ending.mapValue_raised]
      · rfl
    | failed failure => rfl
  | raised fault => rfl
  | exhausted => rfl

/-- No repetition fails, so no handler of failures is reached after it. -/
theorem ending_zeroOrMore_proceed (p : Reading α) (f : List α → β) (c : Cursor) (s : Settings)
    (failure : Failure → Ending (Outcome β)) :
    ((p.zeroOrMore c s).ending.mapValue f).proceed
      (fun value after => .returned (.matched value after)) failure =
        (p.zeroOrMore c s).ending.mapValue f := by
  have hmeets : p.zeroOrMore.Meets c (fun _ _ => True) (fun _ => False) (fun _ => True) := by
    refine meets_zeroOrMore (fun _ _ => True) trivial fun values d _ s => ?_
    rcases (p d s).ending with (⟨value, after⟩ | reported) | fault | _ <;>
      simp [Ending.Meets, Outcome.Meets]
  have hends := hmeets s
  rcases hend : (p.zeroOrMore c s).ending with (⟨values, after⟩ | reported) | fault | _
  · rfl
  · rw [hend] at hends
    exact absurd hends id
  · rfl
  · rfl

/-! ## The chain of a repetition that has matched -/

/-- The loop of a repetition that matches has gone along a chain to a failure. -/
theorem exists_chain_of_loop {turns : Nat} {reversed : List α} {result : List α}
    (h : (Action.loop p.unboundedTurn (fun _ => .exhausted) turns ⟨reversed, c⟩ s).ending =
      .returned (.matched result last)) :
    ∃ values starts failure, p.Chain s c values starts last ∧
      (p last s).ending = .returned (.failed failure) ∧ result = reversed.reverse ++ values := by
  induction turns generalizing reversed c with
  | zero => cases h
  | succ turns ih =>
    rw [Action.loop_succ, Action.bind_apply] at h
    cases hend : (p c s).ending with
    | returned outcome =>
      cases outcome with
      | matched value d =>
        by_cases hsame : d.samePos c
        · rw [turn_of_match_in_place reversed hend hsame] at h
          cases h
        · rw [turn_of_match reversed hend hsame] at h
          obtain ⟨values, starts, failure, hchain, hfail, hresult⟩ := ih h
          refine ⟨_, _, failure, .link hend hsame hchain, hfail, ?_⟩
          rw [hresult, List.reverse_cons, List.append_assoc, List.singleton_append]
      | failed failure =>
        rw [turn_of_failure reversed hend] at h
        cases h
        exact ⟨[], [], failure, .refl last, hend, (List.append_nil _).symm⟩
    | raised fault =>
      rw [unboundedTurn, Action.bind_of_raised hend] at h
      cases h
    | exhausted =>
      rw [unboundedTurn, Action.bind_of_exhausted hend] at h
      cases h

theorem exists_chain_of_zeroOrMore
    (h : (p.zeroOrMore c s).ending = .returned (.matched values last)) :
    ∃ starts failure, p.Chain s c values starts last ∧
      (p last s).ending = .returned (.failed failure) := by
  obtain ⟨values, starts, failure, hchain, hfail, rfl⟩ := exists_chain_of_loop h
  exact ⟨starts, failure, hchain, hfail⟩

/-- The first links of a chain are a chain. -/
theorem Chain.take (h : p.Chain s c values starts last) (count : Nat) :
    ∃ after, p.Chain s c (values.take count) (starts.take count) after := by
  induction h generalizing count with
  | refl c => exact ⟨c, by simpa using .refl c⟩
  | @link c d last value values starts hmatch hmoved h ih =>
    cases count with
    | zero => exact ⟨c, .refl c⟩
    | succ count =>
      obtain ⟨after, hchain⟩ := ih count
      exact ⟨after, .link hmatch hmoved hchain⟩

/-! ## The bounded repetition -/

theorem ending_upTo_zero (p : Reading α) (c : Cursor) (s : Settings) :
    (p.upTo 0 c s).ending = .returned (.matched [] c) := rfl

theorem ending_boundedLoop_succ (p : Reading α) (turns : Nat) (reversed : List α) (c : Cursor)
    (s : Settings) :
    (Action.loop p.boundedTurn (fun state => .returned state.outcome) (turns + 1) ⟨reversed, c⟩
      s).ending = (p c s).ending.proceed
        (fun value after => (Action.loop p.boundedTurn (fun state => .returned state.outcome) turns
          ⟨value :: reversed, after⟩ s).ending)
        fun _ => .returned (.matched reversed.reverse c) := by
  rw [Action.loop_succ, Action.bind_apply, boundedTurn, Action.bind_apply]
  rcases p c s with ⟨journal, (⟨value, after⟩ | failure) | fault | _⟩ <;> rfl

/-- What a loop has collected stands in front of what it goes on to collect. -/
theorem ending_boundedLoop (p : Reading α) (turns : Nat) (reversed : List α) (c : Cursor)
    (s : Settings) :
    (Action.loop p.boundedTurn (fun state => .returned state.outcome) turns ⟨reversed, c⟩
      s).ending = (p.upTo turns c s).ending.mapValue (reversed.reverse ++ ·) := by
  induction turns generalizing reversed c with
  | zero => simp [ending_upTo_zero, Action.loop_zero, Collected.outcome]
  | succ turns ih =>
    rw [upTo, ending_boundedLoop_succ, ending_boundedLoop_succ]
    cases (p c s).ending with
    | returned outcome =>
      cases outcome with
      | matched value after =>
        simp only [Ending.proceed_matched, ih, Ending.mapValue_mapValue]
        congr 1
        funext values
        simp
      | failed failure => simp
    | raised fault => rfl
    | exhausted => rfl

/-- A bounded repetition is its first call, and the repetition from there with the bound
one less. -/
theorem ending_upTo_succ (p : Reading α) (count : Nat) (c : Cursor) (s : Settings) :
    (p.upTo (count + 1) c s).ending = (p c s).ending.proceed
      (fun value after => (p.upTo count after s).ending.mapValue (value :: ·))
      fun _ => .returned (.matched [] c) := by
  rw [upTo, ending_boundedLoop_succ]
  simp only [ending_boundedLoop]
  rfl

/-- Where the body fails, a bounded repetition matches in place, whatever the bound. -/
theorem ending_upTo_of_failed {failure : Failure}
    (hfail : (p c s).ending = .returned (.failed failure)) (count : Nat) :
    (p.upTo count c s).ending = .returned (.matched [] c) := by
  cases count with
  | zero => rfl
  | succ count => rw [ending_upTo_succ, hfail, Ending.proceed_failed]

/-- A bounded repetition goes along a chain of matches as far as the bound allows. -/
theorem ending_upTo_of_chain (h : p.Chain s c values starts last) (count : Nat) :
    (p.upTo (values.length + count) c s).ending =
      (p.upTo count last s).ending.mapValue (values ++ ·) := by
  induction h with
  | refl c => simp
  | @link c d last value values starts hmatch hmoved h ih =>
    rw [List.length_cons, Nat.succ_add, ending_upTo_succ, hmatch, Ending.proceed_matched, ih,
      Ending.mapValue_mapValue]
    rfl

/-- A bounded repetition is one with a first part of the bound, and then, from where that
has ended, one with the other part. -/
theorem ending_upTo_add (p : Reading α) (m n : Nat) (c : Cursor) (s : Settings) :
    (p.upTo (m + n) c s).ending = (p.upTo m c s).ending.proceed
      (fun values after => (p.upTo n after s).ending.mapValue (values ++ ·))
      fun failure => .returned (.failed failure) := by
  induction m generalizing c with
  | zero => simp [ending_upTo_zero]
  | succ m ih =>
    rw [Nat.succ_add, ending_upTo_succ, ending_upTo_succ]
    cases hend : (p c s).ending with
    | returned outcome =>
      cases outcome with
      | matched value after =>
        simp only [Ending.proceed_matched, ih, Ending.mapValue_proceed, Ending.proceed_mapValue,
          Ending.mapValue_mapValue]
        rfl
      | failed failure =>
        -- The second part calls the body once more, from the same cursor, and fails again.
        simp [ending_upTo_of_failed hend]
    | raised fault => rfl
    | exhausted => rfl

end Reading

namespace Parser

/-- An unbounded repetition whose body leads forward is an optional repetition of at least
one match: both end in the same way, although only one of them checks that the first match
has moved. They run out of budget only if a call of the body does. -/
theorem zeroOrMore_unrolls {env : ∀ n, Reading (ρ n)} {p : Parser ν ρ α}
    (hspans : (p.reading env).Spans False) {c : Cursor} {s : Settings}
    (hbudget : c.source.size - c.pos < s.budget) :
    (p.zeroOrMore.reading env c s).ending =
        ((optional p.oneOrMore.rewind []).reading env c s).ending ∧
      ((p.zeroOrMore.reading env c s).ending = .exhausted →
        ∃ d, c ≤ d ∧ (p.reading env d s).ending = .exhausted) := by
  constructor
  · rw [ending_optional_rewind, ending_oneOrMore, Ending.proceed_proceed]
    refine (Reading.ending_zeroOrMore_unchecked hspans hbudget).trans ?_
    congr
    funext value after
    exact (Reading.ending_zeroOrMore_proceed (p.reading env) (value :: ·) after s _).symm
  · intro hexhausted
    obtain ⟨values, last, hle, hclosing⟩ := Reading.exists_closing hspans hbudget
    exact ⟨last, hle, Reading.eq_exhausted_of_closing (hclosing.symm.trans hexhausted)⟩

/-- The letter `x`, or else a match in place. -/
def letter : Parser Empty (fun _ => Unit) String := (literal "x").orElse (Parser.pure "")

/-- With entries for a body, both end in front of the entry that fails behind its start; with
letters, both are refused where the letters end. -/
theorem zeroOrMore_unrolls_entries :
    (((optional entry.oneOrMore.rewind []).reading nofun (entriesAt 0) { budget := 6 }).ending =
        .returned (.matched [("x", '1', ()), ("x", '2', ())] (entriesAt 4))) ∧
      ((optional letter.oneOrMore.rewind []).reading nofun (entriesAt 0) { budget := 6 }).ending =
        .raised (.noProgress 1) := by
  have hspans : ∀ {α : Type} {p : Parser Empty (fun _ => Unit) α}, p.Avoids {.custom} →
      (p.reading nofun).Spans False := fun hcustom =>
    spans_reading (Set.mem_singleton _) False.elim (fun n => n.elim) hcustom
  have hentry : entry.Avoids {.custom} := by
    simp [entry, Avoids, sequence2, oneOf, satisfy, satisfyOver, map]
  have hletter : letter.Avoids {.custom} := by
    simp [letter, Avoids]
  have hbudget : (entriesAt 0).source.size - (entriesAt 0).pos < 6 := by decide +kernel
  constructor
  · rw [← (zeroOrMore_unrolls (hspans hentry) hbudget).1]
    decide +kernel
  · rw [← (zeroOrMore_unrolls (hspans hletter) hbudget).1]
    decide +kernel

/-- Where an unbounded repetition matches, a bounded one matches with as many of its values
as the bound allows, and ends where the chain of those matches does. So it is the unbounded
one if the bound allows for all of them. -/
theorem upTo_of_zeroOrMore {env : ∀ n, Reading (ρ n)} {p : Parser ν ρ α} {c last : Cursor}
    {s : Settings} {values : List α}
    (h : (p.zeroOrMore.reading env c s).ending = .returned (.matched values last)) (count : Nat) :
    ∃ starts after, (p.reading env).Chain s c (values.take count) starts after ∧
      ((p.upTo count).reading env c s).ending =
        .returned (.matched (values.take count) after) ∧
      (values.length ≤ count →
        ((p.upTo count).reading env c s).ending = (p.zeroOrMore.reading env c s).ending) := by
  obtain ⟨starts, failure, hchain, hfail⟩ := Reading.exists_chain_of_zeroOrMore h
  rcases Nat.lt_or_ge count values.length with hless | hall
  · obtain ⟨after, htake⟩ := hchain.take count
    have hlength : (values.take count).length = count := List.length_take_of_le hless.le
    have hending := Reading.ending_upTo_of_chain htake 0
    rw [hlength, Reading.ending_upTo_zero, Ending.mapValue_matched, List.append_nil] at hending
    exact ⟨_, after, htake, hending, fun hall => absurd hall (Nat.not_le.2 hless)⟩
  · obtain ⟨more, rfl⟩ := Nat.exists_eq_add_of_le hall
    have hending := Reading.ending_upTo_of_chain hchain more
    rw [Reading.ending_upTo_of_failed hfail, Ending.mapValue_matched, List.append_nil] at hending
    rw [List.take_of_length_le hall]
    exact ⟨starts, last, hchain, hending, fun _ => hending.trans h.symm⟩

/-- A bound of one ends behind the first entry, and a bound of nine with the repetition. -/
theorem upTo_of_zeroOrMore_entries :
    ((entry.upTo 1).reading nofun (entriesAt 0) { budget := 6 }).ending =
        .returned (.matched [("x", '1', ())] (entriesAt 2)) ∧
      ((entry.upTo 9).reading nofun (entriesAt 0) { budget := 6 }).ending =
        .returned (.matched [("x", '1', ()), ("x", '2', ())] (entriesAt 4)) := by
  have hrun : (entry.zeroOrMore.reading nofun (entriesAt 0) { budget := 6 }).ending =
      .returned (.matched [("x", '1', ()), ("x", '2', ())] (entriesAt 4)) := by decide +kernel
  have hfirst : (entry.reading nofun (entriesAt 0) { budget := 6 }).ending =
      .returned (.matched ("x", '1', ()) (entriesAt 2)) := by decide +kernel
  obtain ⟨starts, after, hchain, hending, -⟩ := upTo_of_zeroOrMore hrun 1
  obtain ⟨-, -, -, -, hall⟩ := upTo_of_zeroOrMore hrun 9
  refine ⟨?_, (hall (by decide)).trans hrun⟩
  cases hchain with
  | link hmatch hmoved hrest =>
    cases hrest
    rw [hfirst] at hmatch
    cases hmatch
    exact hending

/-- A bounded repetition splits into two, wherever its bound is split: what the second one
collects stands behind what the first one has collected, and if the first one has stopped
early, the second one adds nothing. -/
theorem upTo_splits (env : ∀ n, Reading (ρ n)) (p : Parser ν ρ α) (m n : Nat) (c : Cursor)
    (s : Settings) :
    ((p.upTo (m + n)).reading env c s).ending =
      (((p.upTo m).bind fun values => (p.upTo n).map (values ++ ·)).reading env c s).ending := by
  rw [ending_bind]
  simp only [ending_map]
  exact Reading.ending_upTo_add (p.reading env) m n c s

end Parser

end Descent
