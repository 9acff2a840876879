-- SUMMARY: Text put in front of a source moves the runs behind it, and changes nothing else.
import Descent.Proofs.Contract
import Descent.Proofs.Lockstep
import Descent.Proofs.Simulation
import Descent.Proofs.Span

/-!
# Text put in front

A cursor is moved behind a lead if the lead is put in front of its source and the
cursor stays where it was in the old part. Two readings agree, across a lead, if the
one from any cursor and the other from that cursor behind the lead end in the same
way: with the same value, at cursors that are moved behind the lead as well, and
with failures whose messages are related as the agreement says.

There is one rule for each combinator. What a rule asks for the messages is about
those that the combinator makes itself; it never looks at one that it is given. A
lead may be empty, and then the two readings are compared from the same cursors.

A parser agrees with itself across every lead, with messages that differ in the
positions that they name: it only sees what is not read yet.
-/

namespace Descent

variable {ν : Type} {ρ : ν → Type} {α β : Type} {lead : Source}

/-! ## Cursors behind a lead -/

namespace Cursor

/-- The cursor at the same place after a text is put in front of its source. -/
def behind (lead : Source) (c : Cursor) : Cursor where
  source := lead ++ c.source
  pos := lead.size + c.pos
  pos_le := by
    rw [Array.size_append]
    exact Nat.add_le_add_left c.pos_le _

@[simp] theorem behind_empty (c : Cursor) : c.behind #[] = c :=
  ext Array.empty_append (Nat.zero_add c.pos)

/-- What is not read yet does not know of the lead. -/
@[simp] theorem remaining_behind (c : Cursor) : (c.behind lead).remaining = c.remaining := by
  simp [remaining, behind, List.drop_append]

@[simp] theorem samePos_behind (c d : Cursor) :
    (d.behind lead).samePos (c.behind lead) = d.samePos c := by
  simp [samePos, behind, Bool.beq_eq_decide_eq]

@[simp] theorem atEnd_behind (c : Cursor) : (c.behind lead).atEnd = c.atEnd := by
  simp [atEnd, behind]

@[simp] theorem skip_behind (c : Cursor) (n : Nat) :
    (c.behind lead).skip n = (c.skip n).behind lead := by
  refine ext rfl ?_
  simp only [skip, behind, Array.size_append]
  omega

@[simp] theorem take_behind (c : Cursor) (n : Nat) : (c.behind lead).take n = c.take n := by
  rw [take_eq, take_eq, remaining_behind]

end Cursor

/-! ## Agreement across a lead -/

/-- Two outcomes with one value, or with messages related by `M`, of which the second is
at the cursor of the first behind a lead. -/
inductive Outcome.Agrees (lead : Source) (M : String → String → Prop) :
    Outcome α → Outcome α → Prop where
  | matched (value : α) (after : Cursor) :
      Agrees lead M (.matched value after) (.matched value (after.behind lead))
  | failed {expected expected' : String} (c : Cursor) : M expected expected' →
      Agrees lead M (.failed ⟨expected, c⟩) (.failed ⟨expected', c.behind lead⟩)

/-- Two faults of which the second is the first behind a lead. Only where a repetition
stands still does a fault name a position of the source. -/
inductive Fault.Agrees (lead : Source) : Fault → Fault → Prop where
  | same (fault : Fault) : Agrees lead fault fault
  | noProgress (pos : Nat) : Agrees lead (.noProgress pos) (.noProgress (lead.size + pos))

namespace Reading

/-- Whether a reading from any cursor ends as another one does from that cursor behind
a lead. -/
def Agrees (lead : Source) (M : String → String → Prop) (p p' : Reading α) : Prop :=
  ∀ c, Action.Lockstep (Outcome.Agrees lead M) (Fault.Agrees lead) (p c) (p' (c.behind lead))

variable {M : String → String → Prop} {p p' : Reading α}

/-! ### Going on after a match, and after a failure -/

theorem lockstep_onMatch {next next' : α → Reading β} {c : Cursor} (hp : p.Agrees lead M p')
    (hnext : ∀ value d, Action.Lockstep (Outcome.Agrees lead M) (Fault.Agrees lead)
      (next value d) (next' value (d.behind lead))) :
    Action.Lockstep (Outcome.Agrees lead M) (Fault.Agrees lead)
      (p.onMatch next c) (p'.onMatch next' (c.behind lead)) := by
  refine Action.Lockstep.bind (hp c) fun outcome outcome' houtcome => ?_
  cases houtcome with
  | matched value after => exact hnext value after
  | failed d hmessage => exact Action.lockstep_pure (.failed d hmessage)

theorem lockstep_onFailure {next next' : Failure → Action (Outcome α)} {c : Cursor}
    (hp : p.Agrees lead M p')
    (hnext : ∀ expected expected' d, M expected expected' →
      Action.Lockstep (Outcome.Agrees lead M) (Fault.Agrees lead)
        (next ⟨expected, d⟩) (next' ⟨expected', d.behind lead⟩)) :
    Action.Lockstep (Outcome.Agrees lead M) (Fault.Agrees lead)
      (p.onFailure next c) (p'.onFailure next' (c.behind lead)) := by
  refine Action.Lockstep.bind (hp c) fun outcome outcome' houtcome => ?_
  cases houtcome with
  | matched value after => exact Action.lockstep_pure (.matched value after)
  | failed d hmessage => exact hnext _ _ d hmessage

theorem Agrees.onMatch {next next' : α → Reading β} (hp : p.Agrees lead M p')
    (hnext : ∀ value, (next value).Agrees lead M (next' value)) :
    (p.onMatch next).Agrees lead M (p'.onMatch next') :=
  fun _ => lockstep_onMatch hp fun value d => hnext value d

/-! ### Single units and texts -/

theorem agrees_endOfInput (hM : M Mismatch.inputLeft Mismatch.inputLeft) :
    endOfInput.Agrees lead M endOfInput := by
  intro c
  refine Action.lockstep_pure ?_
  rw [Cursor.atEnd_behind]
  split
  · exact .matched () c
  · exact .failed c hM

theorem agrees_anyUnit (hM : M Mismatch.noUnitLeft Mismatch.noUnitLeft) :
    anyUnit.Agrees lead M anyUnit := by
  intro c
  cases hrest : c.remaining with
  | nil =>
    have hrest' : (c.behind lead).remaining = [] := by rw [Cursor.remaining_behind, hrest]
    rw [anyUnit_fails hrest, anyUnit_fails hrest']
    exact Action.lockstep_pure (.failed c hM)
  | cons unit rest =>
    have hrest' : (c.behind lead).remaining = unit :: rest := by
      rw [Cursor.remaining_behind, hrest]
    rw [anyUnit_matches hrest, anyUnit_matches hrest', Cursor.skip_behind]
    exact Action.lockstep_pure (.matched unit (c.skip 1))

theorem agrees_literal {text : String}
    (hM : ∀ actual (pos : Nat), M (Mismatch.message (Mismatch.expectedText text) actual pos)
      (Mismatch.message (Mismatch.expectedText text) actual (lead.size + pos : Nat))) :
    (literal text).Agrees lead M (literal text) := by
  intro c
  by_cases hstarts : text.toList <+: c.remaining
  · have hstarts' : text.toList <+: (c.behind lead).remaining := by
      rwa [Cursor.remaining_behind]
    rw [literal_matches hstarts, literal_matches hstarts', Cursor.skip_behind]
    exact Action.lockstep_pure (.matched text (c.skip text.length))
  · have hstarts' : ¬ text.toList <+: (c.behind lead).remaining := by
      rwa [Cursor.remaining_behind]
    rw [literal_fails hstarts, literal_fails hstarts', Cursor.take_behind]
    exact Action.lockstep_pure (.failed c (hM _ c.pos))

/-! ### Constant outcomes -/

theorem agrees_fail {expected expected' : String} (hM : M expected expected') :
    (fail expected : Reading α).Agrees lead M (fail expected') :=
  fun c => Action.lockstep_pure (.failed c hM)

theorem agrees_yield (value : α) : (yield value).Agrees lead M (yield value) :=
  fun c => Action.lockstep_pure (.matched value c)

/-! ### Sequences -/

theorem Agrees.inOrder {ps ps' : List (Reading α)} (hps : List.Forall₂ (Agrees lead M) ps ps') :
    (inOrder ps).Agrees lead M (inOrder ps') :=
  inOrder_related (R := Agrees lead M) agrees_yield Agrees.onMatch hps

/-! ### Values and failures -/

theorem Agrees.convert {f : α → Except Fault β} (hp : p.Agrees lead M p') :
    (p.convert f).Agrees lead M (p'.convert f) := by
  refine hp.onMatch fun value d => Action.lockstep_ofExcept_bind .same fun result => ?_
  exact Action.lockstep_pure (.matched result d)

theorem Agrees.check [Display α] {expected expected' : String} {accepts : α → Except Fault Bool}
    (hM : ∀ actual (pos : Nat), M (Mismatch.message expected actual pos)
      (Mismatch.message expected' actual (lead.size + pos : Nat)))
    (hp : p.Agrees lead M p') :
    (p.check expected accepts).Agrees lead M (p'.check expected' accepts) := by
  intro c
  rw [check_apply, check_apply]
  refine lockstep_onMatch hp fun value d => ?_
  refine Action.lockstep_ofExcept_bind .same fun accepted => ?_
  split
  · exact Action.lockstep_pure (.matched value d)
  · refine Action.lockstep_ofExcept_bind .same fun actual => ?_
    exact Action.lockstep_pure (.failed d (hM actual c.pos))

theorem Agrees.withExpected {expected expected' : String} (hM : M expected expected')
    (hp : p.Agrees lead M p') :
    (p.withExpected expected).Agrees lead M (p'.withExpected expected') :=
  fun _ => lockstep_onFailure hp fun _ _ d _ => Action.lockstep_pure (.failed d hM)

/-- The rule of a rewording that only the first reading has. -/
theorem Agrees.withExpected_left {expected : String}
    (hM : ∀ message message', M message message' → M expected message')
    (hp : p.Agrees lead M p') : (p.withExpected expected).Agrees lead M p' := by
  intro c
  rw [← bind_pure (p' (c.behind lead))]
  refine Action.Lockstep.bind (hp c) fun outcome outcome' houtcome => ?_
  cases houtcome with
  | matched value after => exact Action.lockstep_pure (.matched value after)
  | failed d hmessage => exact Action.lockstep_pure (.failed d (hM _ _ hmessage))

/-- The rule of a rewording that only the second reading has. -/
theorem Agrees.withExpected_right {expected : String}
    (hM : ∀ message message', M message message' → M message expected)
    (hp : p.Agrees lead M p') : p.Agrees lead M (p'.withExpected expected) := by
  intro c
  rw [← bind_pure (p c)]
  refine Action.Lockstep.bind (hp c) fun outcome outcome' houtcome => ?_
  cases houtcome with
  | matched value after => exact Action.lockstep_pure (.matched value after)
  | failed d hmessage => exact Action.lockstep_pure (.failed d (hM _ _ hmessage))

/-! ### Alternatives -/

/-- Both failures are in place or both are elsewhere, whatever their messages. -/
theorem Agrees.orElse {second second' : Reading α} (hp : p.Agrees lead M p')
    (hsecond : second.Agrees lead M second') :
    (p.orElse second).Agrees lead M (p'.orElse second') := by
  intro c
  refine lockstep_onFailure hp fun expected expected' d hmessage => ?_
  simp only [Cursor.samePos_behind]
  split
  · exact (hsecond c).after_record
  · exact (Action.lockstep_pure (.failed d hmessage)).after_record

theorem Agrees.rewind (hp : p.Agrees lead M p') : p.rewind.Agrees lead M p'.rewind := by
  intro c
  refine lockstep_onFailure hp fun expected expected' d hmessage => ?_
  simp only [Cursor.samePos_behind]
  split
  · exact Action.lockstep_pure (.failed d hmessage)
  · exact (Action.lockstep_pure (.failed c hmessage)).after_record

/-! ### Repetition -/

/-- The state of a repetition, moved behind a lead. -/
def Collected.behind (lead : Source) (state : Collected α) : Collected α :=
  ⟨state.reversed, state.cursor.behind lead⟩

theorem Collected.outcome_agrees (state : Collected α) :
    Outcome.Agrees lead M state.outcome (state.behind lead).outcome :=
  .matched state.reversed.reverse state.cursor

theorem Agrees.zeroOrMore (hp : p.Agrees lead M p') :
    p.zeroOrMore.Agrees lead M p'.zeroOrMore := by
  intro c s
  refine Action.lockstep_loop (fun state state' => state' = state.behind lead) ?_
    (fun _ _ _ => .exhausted) rfl s
  rintro state _ rfl
  refine Action.Lockstep.bind (hp state.cursor) fun outcome outcome' houtcome => ?_
  cases houtcome with
  | matched value after =>
    simp only [Collected.behind, Cursor.samePos_behind]
    split
    · exact Action.lockstep_raise (.noProgress state.cursor.pos)
    · exact Action.lockstep_pure (.again rfl)
  | failed d hmessage =>
    exact (Action.lockstep_pure (.done state.outcome_agrees)).after_record

theorem Agrees.upTo {count : Nat} (hp : p.Agrees lead M p') :
    (p.upTo count).Agrees lead M (p'.upTo count) := by
  intro c
  refine Action.lockstep_loop (fun state state' => state' = state.behind lead) ?_ ?_ rfl
  · rintro state _ rfl
    refine Action.Lockstep.bind (hp state.cursor) fun outcome outcome' houtcome => ?_
    cases houtcome with
    | matched value after => exact Action.lockstep_pure (.again rfl)
    | failed d hmessage => exact Action.lockstep_pure (.done state.outcome_agrees)
  · rintro state _ rfl
    exact .returned state.outcome_agrees

/-! ### Watched readings -/

theorem Agrees.spy {name : String} (hp : p.Agrees lead M p') :
    (p.spy name).Agrees lead M (p'.spy name) := by
  intro c
  refine Action.Lockstep.after_visit ?_
  refine Action.Lockstep.bind (hp c) fun outcome outcome' houtcome => ?_
  exact (Action.lockstep_pure houtcome).after_visit

end Reading

/-! ## Parsers and grammars behind a lead -/

/-- Two messages that are the same, or reports that differ by `n` in the position that
they name. -/
inductive Mismatch.Moved (n : Nat) : String → String → Prop where
  | same (message : String) : Moved n message message
  | report (expected actual : String) (pos : Nat) :
      Moved n (message expected actual pos) (message expected actual (n + pos : Nat))

/-- A parser agrees with itself if the names do. -/
theorem Parser.agrees_reading {env : ∀ n, Reading (ρ n)}
    (henv : ∀ n, (env n).Agrees lead (Mismatch.Moved lead.size) (env n)) {p : Parser ν ρ α}
    (hp : p.Avoids {.custom, .mapFailure}) :
    (p.reading env).Agrees lead (Mismatch.Moved lead.size) (p.reading env) := by
  induction p with
  | endOfInput => exact Reading.agrees_endOfInput (.same _)
  | anyUnit => exact Reading.agrees_anyUnit (.same _)
  | literal text => exact Reading.agrees_literal fun actual pos => .report _ actual pos
  | fail expected => exact Reading.agrees_fail (.same expected)
  | pure value => exact Reading.agrees_yield value
  | convert p f ih => exact (ih hp).convert
  | check expected p accepts ih =>
    exact (ih hp).check fun actual pos => .report expected actual pos
  | mapFailure p f ih => exact absurd (.inr rfl) hp.1
  | withExpected p expected ih => exact (ih hp).withExpected (.same expected)
  | bind p next ih ihnext => exact (ih hp.1).onMatch fun value => ihnext value (hp.2 value)
  | inOrder ps ih => exact .inOrder (forall₂_ofFn fun i => ih i (hp i))
  | orElse first second ihfirst ihsecond => exact (ihfirst hp.1).orElse (ihsecond hp.2)
  | rewind p ih => exact (ih hp).rewind
  | zeroOrMore p ih => exact (ih hp).zeroOrMore
  | upTo p count ih => exact (ih hp).upTo
  | ref name => exact henv name
  | custom read => exact absurd (.inl rfl) hp
  | spy name p ih => exact (ih hp.2).spy

/-- The names of a grammar agree with themselves at every depth: at depth zero all
are out of budget. -/
theorem Grammar.agrees_names {g : Grammar ν ρ} (hg : ∀ n, (g n).Avoids {.custom, .mapFailure})
    (lead : Source) (depth : Nat) (n : ν) :
    (g.names depth n).Agrees lead (Mismatch.Moved lead.size) (g.names depth n) := by
  induction depth generalizing n with
  | zero => exact fun _ _ => .exhausted
  | succ depth ih => exact Parser.agrees_reading ih (hg n)

namespace Parser

/-- Of two runs that are in lockstep at every budget, one comes to an end if the other
one does. -/
theorem terminates_congr {p p' : Parser ν ρ α} {g g' : Grammar ν ρ}
    {R : Outcome α → Outcome α → Prop} {E : Fault → Fault → Prop} {c c' : Cursor}
    (h : ∀ s, (p.runAt g c s).ending.Lockstep R E (p'.runAt g' c' s).ending) (debug : Bool) :
    p.Terminates g debug c ↔ p'.Terminates g' debug c' := by
  rw [terminates_iff, terminates_iff]
  exact exists_congr fun budget => not_congr (h { debug, budget }).exhausted_iff

/-- A parser only sees what is not read yet. Behind a lead its run ends in the same
way: with the same value, or with a failure whose message names a moved position at
most, each at the cursor behind the lead; with the same fault, but for the position
where a repetition stands still; or not at all. -/
theorem lockstep_behind {p : Parser ν ρ α} {g : Grammar ν ρ}
    (hp : p.Avoids {.custom, .mapFailure}) (hg : ∀ n, (g n).Avoids {.custom, .mapFailure})
    (lead : Source) (c : Cursor) :
    (∀ s, (p.runAt g c s).ending.Lockstep (Outcome.Agrees lead (Mismatch.Moved lead.size))
      (Fault.Agrees lead) (p.runAt g (c.behind lead) s).ending) ∧
    ∀ debug, p.Terminates g debug c ↔ p.Terminates g debug (c.behind lead) := by
  have hlockstep : ∀ s, (p.runAt g c s).ending.Lockstep
      (Outcome.Agrees lead (Mismatch.Moved lead.size)) (Fault.Agrees lead)
      (p.runAt g (c.behind lead) s).ending :=
    fun s => agrees_reading (Grammar.agrees_names hg lead s.budget) hp c s
  exact ⟨hlockstep, terminates_congr hlockstep⟩

/-- Nested brackets and a letter behind them. -/
def nestedThen (letter : Char) : Parser Unit (fun _ => Nat) (Tuple [Nat, Char]) :=
  sequence2 nested (oneOf "a letter" (· == letter))

/-- Behind a lead of brackets, the brackets that follow are matched alike, and the
letter is missed two positions later. -/
theorem lockstep_behind_nested :
    ((nestedThen 'y').runAt (fun _ => nested) ((nestedAt 1).behind #['(', ')'])
        { budget := 7 }).ending =
      .returned (.matched (2, 'y', ()) ((nestedAt 6).behind #['(', ')'])) ∧
    ∃ message, ((nestedThen 'z').runAt (fun _ => nested) ((nestedAt 1).behind #['(', ')'])
        { budget := 7 }).ending =
      .returned (.failed ⟨message, (nestedAt 5).behind #['(', ')']⟩) ∧
      Mismatch.Moved 2 (Mismatch.message "a letter" "y" 5) message := by
  have hnested : nested.Avoids {.custom, .mapFailure} := nested_avoids (by simp)
  have hthen : ∀ letter, (nestedThen letter).Avoids {.custom, .mapFailure} :=
    fun _ => ⟨hnested, fun _ => trivial⟩
  have hmatch : ((nestedThen 'y').runAt (fun _ => nested) (nestedAt 1) { budget := 7 }).ending =
      .returned (.matched (2, 'y', ()) (nestedAt 6)) := rfl
  have hfail : ((nestedThen 'z').runAt (fun _ => nested) (nestedAt 1) { budget := 7 }).ending =
      .returned (.failed ⟨Mismatch.message "a letter" "y" 5, nestedAt 5⟩) := rfl
  constructor
  · obtain ⟨outcome, hrun, houtcome⟩ := ((lockstep_behind (hthen 'y') (fun _ => hnested)
      #['(', ')'] (nestedAt 1)).1 _).of_returned hmatch
    cases houtcome with
    | matched value after => exact hrun
  · obtain ⟨outcome, hrun, houtcome⟩ := ((lockstep_behind (hthen 'z') (fun _ => hnested)
      #['(', ')'] (nestedAt 1)).1 _).of_returned hfail
    cases houtcome with
    | failed d hmessage => exact ⟨_, hrun, hmessage⟩

end Parser

end Descent
