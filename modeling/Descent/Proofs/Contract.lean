-- SUMMARY: Contracts of actions and readings: what holds of every result and every fault.
import Descent.Proofs.Forward

/-!
# Contracts

A contract of an action is a condition on its results and one on its faults; it
is met if they hold however the action ends, for all settings. A run out of
budget meets every contract, so contracts say nothing about whether an action
ends. A contract of a reading from a cursor is given by a condition on matches,
one on failures, and one on faults.

Every combinator has one rule. Read from below, a rule says which contract of
the parts is enough for the whole; an induction over a parser needs nothing else
about the combinators.
-/

namespace Descent

variable {α β σ : Type}

/-- Whether an ending has a property of results or one of faults, whichever it
is about. -/
def Ending.Meets (post : α → Prop) (stop : Fault → Prop) : Ending α → Prop
  | .returned result => post result
  | .raised fault => stop fault
  | .exhausted => True

/-- Whether an outcome has a property of matches or one of failures, whichever it
is about. -/
def Outcome.Meets (match_ : α → Cursor → Prop) (failure : Failure → Prop) : Outcome α → Prop
  | .matched value after => match_ value after
  | .failed reported => failure reported

/-- Whether a turn of a loop has a property of states or one of results,
whichever it is about. -/
def Action.Turn.Meets (again : σ → Prop) (done : β → Prop) : Turn σ β → Prop
  | .again state => again state
  | .done result => done result

/-! ## Actions -/

namespace Action

/-- Whether every run of an action ends as a contract says. -/
def Meets (a : Action α) (post : α → Prop) (stop : Fault → Prop) : Prop :=
  ∀ s, (a s).ending.Meets post stop

variable {post post' : α → Prop} {stop stop' : Fault → Prop}

theorem Meets.mono {a : Action α} (h : a.Meets post stop)
    (hpost : ∀ result, post result → post' result) (hstop : ∀ fault, stop fault → stop' fault) :
    a.Meets post' stop' := by
  intro s
  have hs := h s
  cases hend : (a s).ending with
  | returned result =>
    rw [hend] at hs
    exact hpost result hs
  | raised fault =>
    rw [hend] at hs
    exact hstop fault hs
  | exhausted => trivial

/-- What a contract says of a run that returns. -/
theorem Meets.of_returned {a : Action α} {s : Settings} {result : α} (h : a.Meets post stop)
    (hrun : (a s).ending = .returned result) : post result := by
  have hs := h s
  rw [hrun] at hs
  exact hs

theorem Meets.imp {a : Action α} (h : a.Meets post stop)
    (hpost : ∀ result, post result → post' result) : a.Meets post' stop := h.mono hpost fun _ => id

theorem meets_pure {result : α} (h : post result) :
    (Pure.pure result : Action α).Meets post stop := fun _ => h

theorem meets_raise {fault : Fault} (h : stop fault) : (raise fault : Action α).Meets post stop :=
  fun _ => h

theorem meets_ofExcept {e : Except Fault α} (hok : ∀ result, e = .ok result → post result)
    (herror : ∀ fault, e = .error fault → stop fault) : (ofExcept e).Meets post stop := by
  cases e with
  | ok result => exact meets_pure (hok result rfl)
  | error fault => exact meets_raise (herror fault rfl)

theorem meets_ofExcept_true {e : Except Fault α} :
    (ofExcept e).Meets (fun _ => True) (fun _ => True) :=
  meets_ofExcept (fun _ _ => trivial) (fun _ _ => trivial)

/-- The rule of sequencing: what holds of every result of the first action is all
that the second one is told. -/
theorem Meets.bind {a : Action α} {next : α → Action β} {mid : α → Prop} {post : β → Prop}
    (ha : a.Meets mid stop) (hnext : ∀ result, mid result → (next result).Meets post stop) :
    (a >>= next).Meets post stop := by
  intro s
  have hs := ha s
  rw [bind_apply]
  rcases hrun : a s with ⟨journal, result | fault | _⟩ <;> rw [hrun] at hs
  · exact hnext result hs s
  · exact hs
  · trivial

/-- What is written down before an action is no part of its contract. -/
theorem Meets.after_record {a : Action α} {decision : Decision} (h : a.Meets post stop) :
    (record decision >>= fun _ => a).Meets post stop := h

theorem Meets.after_visit {a : Action α} {mark : Mark} {name : String} {c : Cursor}
    (h : a.Meets post stop) : (visit mark name c >>= fun _ => a).Meets post stop := h

/-- The rule of loops. The invariant is about a state and the number of turns
that are left in it. -/
theorem meets_loop {turn : σ → Action (Turn σ β)} {spent : σ → Ending β} {post : β → Prop}
    (inv : Nat → σ → Prop)
    (hturn : ∀ left state, inv (left + 1) state →
      (turn state).Meets (Turn.Meets (inv left) post) stop)
    (hspent : ∀ state, inv 0 state → (spent state).Meets post stop) {turns : Nat} {state : σ}
    (hinit : inv turns state) : (loop turn spent turns state).Meets post stop := by
  induction turns generalizing state with
  | zero => exact fun _ => hspent state hinit
  | succ left ih =>
    rw [loop_succ]
    refine (hturn left state hinit).bind fun next hnext => ?_
    cases next with
    | again state => exact ih hnext
    | done result => exact meets_pure hnext

end Action

/-! ## Readings -/

namespace Reading

/-- Whether a reading, started at a cursor, ends as a contract says. -/
def Meets (p : Reading α) (c : Cursor) (match_ : α → Cursor → Prop) (failure : Failure → Prop)
    (stop : Fault → Prop) : Prop :=
  (p c).Meets (Outcome.Meets match_ failure) stop

variable {p : Reading α} {c : Cursor} {Q Q' : α → Cursor → Prop} {F F' : Failure → Prop}
  {E E' : Fault → Prop}

theorem Meets.mono (h : p.Meets c Q F E) (hQ : ∀ value after, Q value after → Q' value after)
    (hF : ∀ failure, F failure → F' failure) (hE : ∀ fault, E fault → E' fault) :
    p.Meets c Q' F' E' := by
  refine Action.Meets.mono h (fun outcome houtcome => ?_) hE
  cases outcome with
  | matched value after => exact hQ value after houtcome
  | failed failure => exact hF failure houtcome

theorem Meets.imp (h : p.Meets c Q F E) (hQ : ∀ value after, Q value after → Q' value after)
    (hF : ∀ failure, F failure → F' failure) : p.Meets c Q' F' E := h.mono hQ hF fun _ => id

theorem Meets.imp_match (h : p.Meets c Q F E)
    (hQ : ∀ value after, Q value after → Q' value after) : p.Meets c Q' F E := h.imp hQ fun _ => id

theorem Meets.imp_failure (h : p.Meets c Q F E) (hF : ∀ failure, F failure → F' failure) :
    p.Meets c Q F' E := h.imp (fun _ _ => id) hF

/-- A contract that asks for nothing. -/
theorem meets_true : p.Meets c (fun _ _ => True) (fun _ => True) (fun _ => True) := by
  intro s
  cases (p c s).ending with
  | returned outcome => cases outcome <;> trivial
  | raised fault => trivial
  | exhausted => trivial

/-! ### Going on after a match, and after a failure -/

theorem Meets.onMatch {next : α → Reading β} {R : β → Cursor → Prop}
    (hp : p.Meets c Q F E) (hnext : ∀ value after, Q value after → (next value).Meets after R F E) :
    (p.onMatch next).Meets c R F E := by
  refine Action.Meets.bind hp fun outcome houtcome => ?_
  cases outcome with
  | matched value after => exact hnext value after houtcome
  | failed failure => exact Action.meets_pure houtcome

theorem Meets.onFailure {next : Failure → Action (Outcome α)} (hp : p.Meets c Q F' E)
    (hnext : ∀ failure, F' failure → (next failure).Meets (Outcome.Meets Q F) E) :
    (p.onFailure next).Meets c Q F E := by
  refine Action.Meets.bind hp fun outcome houtcome => ?_
  cases outcome with
  | matched value after => exact Action.meets_pure houtcome
  | failed failure => exact hnext failure houtcome

/-! ### Single units and texts -/

theorem meets_endOfInput {Q : Unit → Cursor → Prop} (hQ : c.atEnd = true → Q () c)
    (hF : c.atEnd = false → F ⟨Mismatch.inputLeft, c⟩) : endOfInput.Meets c Q F E := by
  refine Action.meets_pure ?_
  cases hend : c.atEnd with
  | true => exact hQ hend
  | false => exact hF hend

theorem meets_anyUnit {Q : Char → Cursor → Prop}
    (hQ : ∀ unit rest, c.remaining = unit :: rest → Q unit (c.skip 1))
    (hF : c.remaining = [] → F ⟨Mismatch.noUnitLeft, c⟩) : anyUnit.Meets c Q F E := by
  cases hrest : c.remaining with
  | nil =>
    unfold Meets
    rw [anyUnit_fails hrest]
    exact Action.meets_pure (hF hrest)
  | cons unit rest =>
    unfold Meets
    rw [anyUnit_matches hrest]
    exact Action.meets_pure (hQ unit rest hrest)

theorem meets_literal {text : String} {Q : String → Cursor → Prop}
    (hQ : text.toList <+: c.remaining → Q text (c.skip text.length))
    (hF : ¬ text.toList <+: c.remaining →
      F ⟨Mismatch.message (Mismatch.expectedText text) (c.take text.length) c.pos, c⟩) :
    (literal text).Meets c Q F E := by
  by_cases hstarts : text.toList <+: c.remaining
  · unfold Meets
    rw [literal_matches hstarts]
    exact Action.meets_pure (hQ hstarts)
  · unfold Meets
    rw [literal_fails hstarts]
    exact Action.meets_pure (hF hstarts)

/-! ### Constant outcomes -/

theorem meets_fail {expected : String} (hF : F ⟨expected, c⟩) :
    (fail expected : Reading α).Meets c Q F E := Action.meets_pure hF

theorem meets_yield {value : α} (hQ : Q value c) : (yield value).Meets c Q F E :=
  Action.meets_pure hQ

/-! ### Values and failures -/

theorem Meets.convert {f : α → Except Fault β} {R : β → Cursor → Prop}
    (hp : p.Meets c (fun value after =>
      (Action.ofExcept (f value)).Meets (fun result => R result after) E) F E) :
    (p.convert f).Meets c R F E := by
  refine hp.onMatch fun value after hvalue => ?_
  exact Action.Meets.bind hvalue fun result hresult => Action.meets_pure hresult

/-- A check goes on after a match, as its test of the value says. -/
theorem check_apply [Display α] (expected : String) (p : Reading α)
    (accepts : α → Except Fault Bool) (c : Cursor) :
    p.check expected accepts c = p.onMatch (fun value after =>
      Action.ofExcept (accepts value) >>= fun accepted =>
        if accepted = true then pure (.matched value after)
        else Action.ofExcept (display value) >>= fun actual =>
          pure (.failed ⟨Mismatch.message expected actual c.pos, after⟩)) c := rfl

theorem Meets.check [Display α] {expected : String} {accepts : α → Except Fault Bool}
    (hp : p.Meets c (fun value after => (Action.ofExcept (accepts value)).Meets
      (fun accepted => (accepted = true → Q value after) ∧
        (accepted = false → (Action.ofExcept (display value)).Meets
          (fun actual => F ⟨Mismatch.message expected actual c.pos, after⟩) E)) E) F E) :
    (p.check expected accepts).Meets c Q F E := by
  unfold Reading.Meets
  rw [check_apply]
  refine Meets.onMatch hp fun value after hvalue => ?_
  refine Action.Meets.bind hvalue fun accepted haccepted => ?_
  split
  · rename_i htrue
    exact Action.meets_pure (haccepted.1 htrue)
  · rename_i hfalse
    refine Action.Meets.bind (haccepted.2 (by simpa using hfalse)) fun actual hactual => ?_
    exact Action.meets_pure hactual

theorem Meets.mapFailure {f : Failure → Except Fault Failure}
    (hp : p.Meets c Q (fun failure => (Action.ofExcept (f failure)).Meets F E) E) :
    (p.mapFailure f).Meets c Q F E := by
  refine hp.onFailure fun failure hfailure => ?_
  exact Action.Meets.bind hfailure fun mapped hmapped => Action.meets_pure hmapped

theorem Meets.withExpected {expected : String}
    (hp : p.Meets c Q (fun failure => F ⟨expected, failure.cursor⟩) E) :
    (p.withExpected expected).Meets c Q F E :=
  hp.onFailure fun _ hfailure => Action.meets_pure hfailure

/-! ### Alternatives -/

theorem Meets.orElse {second : Reading α}
    (hp : p.Meets c Q (fun failure =>
      if failure.cursor.samePos c then second.Meets c Q F E else F failure) E) :
    (p.orElse second).Meets c Q F E := by
  refine hp.onFailure fun failure hfailure => ?_
  split at hfailure
  · rename_i hsame
    rw [if_pos hsame]
    exact hfailure.after_record
  · rename_i hmoved
    rw [if_neg hmoved]
    exact Action.Meets.after_record (Action.meets_pure hfailure)

/-- After a failure in place the second reading is tried. -/
theorem Meets.orElse_inPlace {second : Reading α}
    (hp : p.Meets c Q (fun failure => failure.cursor = c ∧ second.Meets c Q F E) E) :
    (p.orElse second).Meets c Q F E := by
  refine Meets.orElse (hp.imp_failure fun failure ⟨hcursor, hsecond⟩ => ?_)
  rw [hcursor, if_pos (Cursor.samePos_self c)]
  exact hsecond

theorem Meets.rewind
    (hp : p.Meets c Q (fun failure =>
      F (if failure.cursor.samePos c then failure else ⟨failure.expected, c⟩)) E) :
    p.rewind.Meets c Q F E := by
  refine hp.onFailure fun failure hfailure => ?_
  split at hfailure
  · rename_i hsame
    rw [if_pos hsame]
    exact Action.meets_pure hfailure
  · rename_i hmoved
    rw [if_neg hmoved]
    exact Action.Meets.after_record (Action.meets_pure hfailure)

/-- A failure that is not before the start is moved there, or is there already. -/
theorem Meets.rewind_of_le
    (hp : p.Meets c Q (fun failure => c ≤ failure.cursor ∧ F ⟨failure.expected, c⟩) E) :
    p.rewind.Meets c Q F E := by
  refine Meets.rewind (hp.imp_failure fun failure ⟨hle, hfailure⟩ => ?_)
  split
  · rename_i hsame
    rwa [← Cursor.eq_of_le_of_samePos hle hsame] at hfailure
  · exact hfailure

/-- A rewound failure is one in place, so the second reading is always tried
after it. -/
theorem Meets.rewind_orElse {second : Reading α}
    (hp : p.Meets c Q (fun _ => second.Meets c Q F E) E) :
    (p.rewind.orElse second).Meets c Q F E := by
  refine Meets.orElse (Meets.rewind (hp.imp_failure fun failure hfailure => ?_))
  have hsame : (if failure.cursor.samePos c then failure
      else ⟨failure.expected, c⟩).cursor.samePos c = true := by
    split
    · assumption
    · exact Cursor.samePos_self c
  rw [if_pos hsame]
  exact hfailure

/-! ### Repetition -/

/-- The rule of the unbounded repetition. The invariant is about the values so
far and the cursor behind them. -/
theorem meets_zeroOrMore {Q : List α → Cursor → Prop} (inv : List α → Cursor → Prop)
    (hinit : inv [] c)
    (hstep : ∀ values d, inv values d → p.Meets d
      (fun value after =>
        if after.samePos d then E (.noProgress d.pos) else inv (values ++ [value]) after)
      (fun _ => Q values d) E) :
    p.zeroOrMore.Meets c Q F E := by
  let invState : Collected α → Prop := fun state => inv state.reversed.reverse state.cursor
  have hturn : ∀ state, invState state →
      (p.unboundedTurn state).Meets (Action.Turn.Meets invState (Outcome.Meets Q F)) E := by
    intro state hinv
    refine Action.Meets.bind (hstep _ _ hinv) fun outcome houtcome => ?_
    cases outcome with
    | matched value after =>
      simp only [Outcome.Meets] at houtcome
      simp only
      split at houtcome
      · rename_i hsame
        rw [if_pos hsame]
        exact Action.meets_raise houtcome
      · rename_i hmoved
        rw [if_neg hmoved]
        exact Action.meets_pure (by simpa [Action.Turn.Meets, invState] using houtcome)
    | failed failure =>
      exact Action.Meets.after_record (Action.meets_pure houtcome)
  intro s
  have hloop : (Action.loop p.unboundedTurn (fun _ => .exhausted) s.budget ⟨[], c⟩).Meets
      (Outcome.Meets Q F) E :=
    Action.meets_loop (fun _ => invState) (fun _ => hturn) (fun _ _ => by trivial) hinit
  exact hloop s

/-- The rule of the bounded repetition. The invariant is about the values so far,
which never are more than the bound, and the cursor behind them. -/
theorem meets_upTo {count : Nat} {Q : List α → Cursor → Prop} (inv : List α → Cursor → Prop)
    (hinit : inv [] c)
    (hstep : ∀ values d, values.length < count → inv values d → p.Meets d
      (fun value after => inv (values ++ [value]) after) (fun _ => Q values d) E)
    (hdone : ∀ values d, values.length = count → inv values d → Q values d) :
    (p.upTo count).Meets c Q F E := by
  refine Action.meets_loop
    (fun left (state : Collected α) => state.reversed.length + left = count ∧
      inv state.reversed.reverse state.cursor) ?_ ?_ ⟨by simp, hinit⟩
  · rintro left state ⟨hleft, hinv⟩
    have hlength : state.reversed.reverse.length < count := by
      rw [List.length_reverse]
      omega
    refine Action.Meets.bind (hstep _ _ hlength hinv) fun outcome houtcome => ?_
    cases outcome with
    | matched value after =>
      have hnext : inv (value :: state.reversed).reverse after := by
        simpa [Outcome.Meets] using houtcome
      refine Action.meets_pure ⟨?_, hnext⟩
      simp only [List.length_cons]
      omega
    | failed failure => exact Action.meets_pure houtcome
  · rintro state ⟨hleft, hinv⟩
    exact hdone _ _ (by rw [List.length_reverse]; omega) hinv

/-! ### Readings given by the user -/

theorem Meets.spy {name : String} (hp : p.Meets c Q F E) : (p.spy name).Meets c Q F E := by
  refine Action.Meets.after_visit ?_
  refine Action.Meets.bind hp fun outcome houtcome => ?_
  exact Action.Meets.after_visit (Action.meets_pure houtcome)

end Reading

end Descent
