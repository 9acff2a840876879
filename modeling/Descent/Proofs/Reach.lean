-- SUMMARY: Runs that return, and where the readings of units, alternatives and repetitions reach.
import Descent.Proofs.Execution
import Descent.Parser.Combinators

/-!
# Reaching a cursor

A contract is met by a run that never ends. Here, runs do return: with a match
that ends at a given cursor, or with a failure, wherever that is reported. The
rules say how the runs of the parts determine the run of the whole, for one and
the same settings.
-/

namespace Descent

variable {α β : Type}

/-- Where an outcome matches to, if it is a match. -/
def Outcome.end? : Outcome α → Option Cursor
  | .matched _ after => some after
  | .failed _ => none

theorem Action.ending_bind {a : Action α} {next : α → Action β} {s : Settings} {result : α}
    (h : (a s).ending = .returned result) : ((a >>= next) s).ending = (next result s).ending := by
  rw [bind_of_returned h]
  rfl

theorem Action.ending_bind_raised {a : Action α} {next : α → Action β} {s : Settings}
    {fault : Fault} (h : (a s).ending = .raised fault) :
    ((a >>= next) s).ending = .raised fault := by
  rw [bind_of_raised h]

namespace Reading

/-- Whether a run returns, with a match that ends at a given cursor, or with a
failure. -/
def Reaches (p : Reading α) (s : Settings) (c : Cursor) (last : Option Cursor) : Prop :=
  ∃ outcome, (p c s).ending = .returned outcome ∧ outcome.end? = last

variable {p : Reading α} {s : Settings} {c d : Cursor} {last : Option Cursor}

theorem Reaches.onMatch {next : α → Reading β} (hp : p.Reaches s c (some d))
    (hnext : ∀ value, (next value).Reaches s d last) : (p.onMatch next).Reaches s c last := by
  obtain ⟨outcome, hrun, hlast⟩ := hp
  cases outcome with
  | matched value after =>
    obtain rfl : after = d := Option.some.inj hlast
    obtain ⟨outcome, hrun', hlast'⟩ := hnext value
    exact ⟨outcome, (Action.ending_bind hrun).trans hrun', hlast'⟩
  | failed failure => cases hlast

theorem Reaches.onMatch_failed {next : α → Reading β} (hp : p.Reaches s c none) :
    (p.onMatch next).Reaches s c none := by
  obtain ⟨outcome, hrun, hlast⟩ := hp
  cases outcome with
  | matched value after => cases hlast
  | failed failure => exact ⟨.failed failure, Action.ending_bind hrun, rfl⟩

theorem Reaches.map {f : α → β} (hp : p.Reaches s c last) :
    (p.convert fun value => .ok (f value)).Reaches s c last := by
  cases last with
  | none => exact hp.onMatch_failed
  | some d => exact hp.onMatch fun value => ⟨.matched (f value) d, rfl, rfl⟩

theorem Reaches.rewind_orElse {q : Reading α} (hp : p.Reaches s c (some d)) :
    (p.rewind.orElse q).Reaches s c (some d) := by
  obtain ⟨outcome, hrun, hlast⟩ := hp
  cases outcome with
  | matched value after =>
    have hrewind : (p.rewind c s).ending = .returned (.matched value after) :=
      Action.ending_bind hrun
    exact ⟨.matched value after, Action.ending_bind hrewind, hlast⟩
  | failed failure => cases hlast

theorem Reaches.of_eq {outcome : Outcome α} (h : p c = pure outcome) :
    p.Reaches s c outcome.end? := by
  refine ⟨outcome, ?_, rfl⟩
  rw [h]
  rfl

/-- A rewound failure is one in place. -/
theorem Reaches.rewind_failed (hp : p.Reaches s c none) : ∃ failure : Failure,
    (p.rewind c s).ending = .returned (.failed failure) ∧ failure.cursor.samePos c = true := by
  obtain ⟨outcome, hrun, hlast⟩ := hp
  cases outcome with
  | matched value after => cases hlast
  | failed failure =>
    by_cases hsame : failure.cursor.samePos c = true
    · refine ⟨failure, (Action.ending_bind hrun).trans ?_, hsame⟩
      simp only [if_pos hsame]
      rfl
    · refine ⟨⟨failure.expected, c⟩, (Action.ending_bind hrun).trans ?_, Cursor.samePos_self c⟩
      simp only [if_neg hsame]
      rfl

theorem Reaches.rewind_orElse_failed {q : Reading α} (hp : p.Reaches s c none)
    (hq : q.Reaches s c last) : (p.rewind.orElse q).Reaches s c last := by
  obtain ⟨failure, hrun, hsame⟩ := hp.rewind_failed
  obtain ⟨outcome, hrun', hlast⟩ := hq
  refine ⟨outcome, (Action.ending_bind hrun).trans ?_, hlast⟩
  simp only [if_pos hsame]
  exact (Action.ending_bind rfl).trans hrun'

/-- A check answers by its test of the value that was matched. -/
theorem ending_check [Display α] {expected actual : String} {accepts : α → Except Fault Bool}
    {value : α} {accepted : Bool} (hp : (p c s).ending = .returned (.matched value d))
    (haccepts : accepts value = .ok accepted) (hactual : display value = .ok actual) :
    (p.check expected accepts c s).ending = .returned (if accepted then .matched value d
      else .failed ⟨Mismatch.message expected actual c.pos, d⟩) := by
  rw [check_apply]
  refine (Action.ending_bind hp).trans ?_
  simp only [haccepts, hactual, Action.ofExcept, pure_bind]
  cases accepted with
  | true => rfl
  | false => rfl

section OneOf

variable {ν : Type} {ρ : ν → Type} {env : ∀ n, Reading (ρ n)} {expected : String}
  {units : Char → Bool} {unit : Char} {rest : List Char}

theorem reaches_oneOf (hc : c.remaining = unit :: rest) (hunit : units unit = true) :
    ((Parser.oneOf expected units : Parser ν ρ Char).reading env).Reaches s c
      (some (c.skip 1)) := by
  have hany : (anyUnit c s).ending = .returned (.matched unit (c.skip 1)) := by
    rw [anyUnit_matches hc]
    rfl
  have hcheck : (check expected anyUnit (fun c => .ok (units c)) c s).ending =
      .returned (.matched unit (c.skip 1)) := by
    rw [ending_check hany rfl rfl, if_pos hunit]
  exact ⟨_, Action.ending_bind hcheck, rfl⟩

theorem reaches_oneOf_other (hc : c.remaining = unit :: rest) (hunit : units unit = false) :
    ((Parser.oneOf expected units : Parser ν ρ Char).reading env).Reaches s c none := by
  have hany : (anyUnit c s).ending = .returned (.matched unit (c.skip 1)) := by
    rw [anyUnit_matches hc]
    rfl
  have hcheck : (check expected anyUnit (fun c => .ok (units c))).Reaches s c none := by
    refine ⟨_, ending_check hany rfl rfl, ?_⟩
    rw [hunit]
    rfl
  obtain ⟨failure, hrun, -⟩ := hcheck.rewind_failed
  exact ⟨.failed failure, hrun, rfl⟩

theorem reaches_oneOf_end (hc : c.remaining = []) :
    ((Parser.oneOf expected units : Parser ν ρ Char).reading env).Reaches s c none := by
  have hany : anyUnit.Reaches s c none := .of_eq (anyUnit_fails hc)
  have hcheck : (check expected anyUnit (fun c => .ok (units c))).Reaches s c none := by
    unfold Reaches
    rw [check_apply]
    exact hany.onMatch_failed
  obtain ⟨failure, hrun, -⟩ := hcheck.rewind_failed
  exact ⟨.failed failure, hrun, rfl⟩

end OneOf

/-- Whether the loop of a repetition with some turns left returns with a match that
ends at a given cursor, whatever it has collected before. -/
def Repeats (p : Reading α) (s : Settings) (turns : Nat) (c : Cursor) (last : Option Cursor) :
    Prop :=
  ∀ values, ∃ outcome, (Action.loop p.unboundedTurn (fun _ => .exhausted) turns
    ⟨values, c⟩ s).ending = .returned outcome ∧ outcome.end? = last

variable {turns : Nat}

theorem Repeats.reaches (h : p.Repeats s s.budget c last) : p.zeroOrMore.Reaches s c last := h []

theorem Reaches.stop (hp : p.Reaches s c none) : p.Repeats s (turns + 1) c (some c) := by
  intro values
  obtain ⟨outcome, hrun, hlast⟩ := hp
  cases outcome with
  | matched value after => cases hlast
  | failed failure =>
    have hturn : (p.unboundedTurn ⟨values, c⟩ s).ending =
        .returned (.done (.matched values.reverse c)) := Action.ending_bind hrun
    refine ⟨.matched values.reverse c, ?_, rfl⟩
    rw [Action.loop_succ]
    exact Action.ending_bind hturn

theorem Reaches.more (hp : p.Reaches s c (some d)) (hmoved : ¬ d.samePos c = true)
    (hrest : p.Repeats s turns d last) : p.Repeats s (turns + 1) c last := by
  intro values
  obtain ⟨outcome, hrun, hlast⟩ := hp
  cases outcome with
  | matched value after =>
    obtain rfl : after = d := Option.some.inj hlast
    have hturn : (p.unboundedTurn ⟨values, c⟩ s).ending =
        .returned (.again ⟨value :: values, after⟩) := by
      refine (Action.ending_bind hrun).trans ?_
      simp only [if_neg hmoved]
      rfl
    obtain ⟨outcome, hrun', hlast'⟩ := hrest (value :: values)
    refine ⟨outcome, ?_, hlast'⟩
    rw [Action.loop_succ]
    exact (Action.ending_bind hturn).trans hrun'
  | failed failure => cases hlast

/-- A repetition whose body matches in place is refused. -/
theorem Reaches.refused (hp : p.Reaches s c (some c)) : ¬ p.Repeats s turns c last := by
  intro hrest
  obtain ⟨outcome, hrun, -⟩ := hrest []
  cases turns with
  | zero => cases hrun
  | succ turns =>
    obtain ⟨body, hbody, hlast⟩ := hp
    cases body with
    | matched value after =>
      obtain rfl : after = c := Option.some.inj hlast
      have hturn : (p.unboundedTurn ⟨[], after⟩ s).ending = .raised (.noProgress after.pos) := by
        refine (Action.ending_bind hbody).trans ?_
        simp only [if_pos (Cursor.samePos_self after)]
        rfl
      rw [Action.loop_succ, Action.ending_bind_raised hturn] at hrun
      cases hrun
    | failed failure => cases hlast

end Reading

end Descent
