-- SUMMARY: Parsers that differ in their wording only accept the same.
import Mathlib.Data.List.Forall2
import Descent.Lexeme.Word
import Descent.Proofs.Lead

/-!
# Rewording

A parser is reworded if other messages are given to its combinators, or if
`Parser.withExpected` is wrapped around other parts of it. Reworded parsers agree,
with any messages, from one and the same cursor: no combinator looks at the message
of a failure, only at its cursor, and wrapping a part keeps that.
-/

namespace Descent

variable {ν : Type} {ρ : ν → Type} {α β : Type}

/-- Two parsers that differ only in messages, and in where failures are reworded. -/
inductive Parser.Rewords : {α : Type} → Parser ν ρ α → Parser ν ρ α → Prop where
  | endOfInput : Rewords .endOfInput .endOfInput
  | anyUnit : Rewords .anyUnit .anyUnit
  | literal (text : String) : Rewords (.literal text) (.literal text)
  | fail {α : Type} (expected expected' : String) :
      Rewords (.fail expected : Parser ν ρ α) (.fail expected')
  | pure {α : Type} (value : α) : Rewords (.pure value) (.pure value)
  | convert {α β : Type} {p p' : Parser ν ρ α} (f : α → Except Fault β) :
      Rewords p p' → Rewords (.convert p f) (.convert p' f)
  | check {α : Type} [Display α] {p p' : Parser ν ρ α} (expected expected' : String)
      (accepts : α → Except Fault Bool) :
      Rewords p p' → Rewords (.check expected p accepts) (.check expected' p' accepts)
  | withExpected_left {α : Type} {p p' : Parser ν ρ α} (expected : String) :
      Rewords p p' → Rewords (.withExpected p expected) p'
  | withExpected_right {α : Type} {p p' : Parser ν ρ α} (expected : String) :
      Rewords p p' → Rewords p (.withExpected p' expected)
  | bind {α β : Type} {p p' : Parser ν ρ α} {next next' : α → Parser ν ρ β} :
      Rewords p p' → (∀ value, Rewords (next value) (next' value)) →
      Rewords (.bind p next) (.bind p' next')
  | inOrder {α : Type} {count : Nat} {ps ps' : Fin count → Parser ν ρ α} :
      (∀ i, Rewords (ps i) (ps' i)) → Rewords (.inOrder ps) (.inOrder ps')
  | orElse {α : Type} {first first' second second' : Parser ν ρ α} :
      Rewords first first' → Rewords second second' →
      Rewords (.orElse first second) (.orElse first' second')
  | rewind {α : Type} {p p' : Parser ν ρ α} : Rewords p p' → Rewords (.rewind p) (.rewind p')
  | zeroOrMore {α : Type} {p p' : Parser ν ρ α} :
      Rewords p p' → Rewords (.zeroOrMore p) (.zeroOrMore p')
  | upTo {α : Type} {p p' : Parser ν ρ α} (count : Nat) :
      Rewords p p' → Rewords (.upTo p count) (.upTo p' count)
  | ref (name : ν) : Rewords (.ref name) (.ref name)
  | spy {α : Type} {p p' : Parser ν ρ α} (name : String) :
      Rewords p p' → Rewords (.spy name p) (.spy name p')

namespace Parser.Rewords

variable {p p' : Parser ν ρ α}

/-! ## Derived rules -/

/-- A parser without user's own functions on cursors and on failures is a rewording
of itself. -/
theorem refl {p : Parser ν ρ α} (hp : p.Avoids {.custom, .mapFailure}) : p.Rewords p := by
  induction p with
  | endOfInput => exact .endOfInput
  | anyUnit => exact .anyUnit
  | literal text => exact .literal text
  | fail expected => exact .fail expected expected
  | pure value => exact .pure value
  | convert p f ih => exact .convert f (ih hp)
  | check expected p accepts ih => exact .check expected expected accepts (ih hp)
  | mapFailure p f ih => exact absurd (.inr rfl) hp.1
  | withExpected p expected ih =>
    exact .withExpected_left expected (.withExpected_right expected (ih hp))
  | bind p next ih ihnext => exact .bind (ih hp.1) fun value => ihnext value (hp.2 value)
  | inOrder ps ih => exact .inOrder fun i => ih i (hp i)
  | orElse first second ihfirst ihsecond => exact .orElse (ihfirst hp.1) (ihsecond hp.2)
  | rewind p ih => exact .rewind (ih hp)
  | zeroOrMore p ih => exact .zeroOrMore (ih hp)
  | upTo p count ih => exact .upTo count (ih hp)
  | ref name => exact .ref name
  | custom read => exact absurd (.inl rfl) hp
  | spy name p ih => exact .spy name (ih hp.2)

theorem map (f : α → β) (hp : p.Rewords p') : (p.map f).Rewords (p'.map f) := .convert _ hp

theorem satisfyOver [Display α] (expected expected' : String) (accepts : α → Except Fault Bool)
    (hp : p.Rewords p') :
    (satisfyOver expected p accepts).Rewords (satisfyOver expected' p' accepts) :=
  .rewind (.check expected expected' accepts hp)

theorem satisfy (expected expected' : String) (accepts : Char → Except Fault Bool) :
    (satisfy expected accepts : Parser ν ρ Char).Rewords (satisfy expected' accepts) :=
  satisfyOver expected expected' accepts .anyUnit

theorem sequenceAll {ps ps' : List (Parser ν ρ α)} (hps : List.Forall₂ Rewords ps ps') :
    (sequenceAll ps).Rewords (sequenceAll ps') := by
  obtain ⟨hlength, hget⟩ := List.forall₂_iff_get.1 hps
  -- equal numbers of parsers, but the types of their indices differ until one is the other
  have hcast : ∀ {m n : Nat} (h : m = n) (qs : Fin m → Parser ν ρ α) (qs' : Fin n → Parser ν ρ α),
      (∀ i, (qs i).Rewords (qs' (i.cast h))) → (Parser.inOrder qs).Rewords (.inOrder qs') := by
    rintro m _ rfl qs qs' h
    exact .inOrder h
  exact hcast hlength _ _ fun i => hget i i.isLt (hlength ▸ i.isLt)

theorem choice {ps ps' : List (Parser ν ρ α)} (expected expected' : String)
    (hps : List.Forall₂ Rewords ps ps') : (choice expected ps).Rewords (choice expected' ps') := by
  induction hps with
  | nil => exact .fail expected expected'
  | cons hp _ ih => exact .orElse hp ih

theorem oneOrMore (hp : p.Rewords p') : p.oneOrMore.Rewords p'.oneOrMore :=
  .bind hp fun _ => map _ (.zeroOrMore hp)

/-- A word may be tested with another message, and may be put together from tests with
other messages. -/
theorem lookup (expected expected' : String) (table : Lexeme.Table α) :
    (Lexeme.lookup expected table : Parser ν ρ α).Rewords (Lexeme.lookup expected' table) := by
  refine choice expected expected' (List.forall₂_same.2 fun p hp => ?_)
  obtain ⟨entry, -, rfl⟩ := List.mem_map.1 hp
  exact map _ (satisfyOver _ _ _ (map _ (oneOrMore (satisfy _ _ _))))

/-! ## Reworded parsers from one cursor -/

/-- Reworded parsers agree, without a lead and with any messages, if the names do. -/
theorem agrees_reading {env env' : ∀ n, Reading (ρ n)}
    (henv : ∀ n, (env n).Agrees #[] (fun _ _ => True) (env' n)) (hp : p.Rewords p') :
    (p.reading env).Agrees #[] (fun _ _ => True) (p'.reading env') := by
  induction hp with
  | endOfInput => exact Reading.agrees_endOfInput trivial
  | anyUnit => exact Reading.agrees_anyUnit trivial
  | literal text => exact Reading.agrees_literal fun _ _ => trivial
  | fail expected expected' => exact Reading.agrees_fail trivial
  | pure value => exact Reading.agrees_yield value
  | convert f _ ih => exact ih.convert
  | check expected expected' accepts _ ih => exact ih.check fun _ _ => trivial
  | withExpected_left expected _ ih => exact ih.withExpected_left fun _ _ _ => trivial
  | withExpected_right expected _ ih => exact ih.withExpected_right fun _ _ _ => trivial
  | bind _ _ ih ihnext => exact ih.onMatch ihnext
  | inOrder _ ih => exact .inOrder (forall₂_ofFn ih)
  | orElse _ _ ihfirst ihsecond => exact ihfirst.orElse ihsecond
  | rewind _ ih => exact ih.rewind
  | zeroOrMore _ ih => exact ih.zeroOrMore
  | upTo count _ ih => exact ih.upTo
  | ref name => exact henv name
  | spy name _ ih => exact ih.spy

end Parser.Rewords

/-- Reworded names agree at every depth: at depth zero all are out of budget. -/
theorem Grammar.agrees_reworded {g g' : Grammar ν ρ} (hg : ∀ n, (g n).Rewords (g' n))
    (depth : Nat) (n : ν) :
    (g.names depth n).Agrees #[] (fun _ _ => True) (g'.names depth n) := by
  induction depth generalizing n with
  | zero => exact fun _ _ => .exhausted
  | succ depth ih => exact (hg n).agrees_reading ih

/-- Two outcomes with equal values and cursors; failures may have any messages. -/
inductive Outcome.Rewords : Outcome α → Outcome α → Prop where
  | matched (value : α) (after : Cursor) : Rewords (.matched value after) (.matched value after)
  | failed (expected expected' : String) (c : Cursor) :
      Rewords (.failed ⟨expected, c⟩) (.failed ⟨expected', c⟩)

theorem Outcome.Agrees.rewords {outcome outcome' : Outcome α}
    (h : outcome.Agrees #[] (fun _ _ => True) outcome') : outcome.Rewords outcome' := by
  cases h with
  | matched value after =>
    rw [Cursor.behind_empty]
    exact .matched value after
  | failed c _ =>
    rw [Cursor.behind_empty]
    exact .failed _ _ c

theorem Fault.Agrees.eq {fault fault' : Fault} (h : fault.Agrees #[] fault') : fault = fault' := by
  cases h with
  | same => rfl
  | noProgress pos => exact congrArg Fault.noProgress (Nat.zero_add pos).symm

namespace Parser

variable {g g' : Grammar ν ρ} {p p' : Parser ν ρ α}

/-- The wording does not decide what is accepted: a reworded parser over a reworded
grammar ends in the same way, with the same value and cursor, with a failure at the
same cursor, with the same fault, or not at all. -/
theorem lockstep_of_rewords (hp : p.Rewords p') (hg : ∀ n, (g n).Rewords (g' n)) (c : Cursor) :
    (∀ s, (p.runAt g c s).ending.Lockstep Outcome.Rewords Eq (p'.runAt g' c s).ending) ∧
    ∀ debug, p.Terminates g debug c ↔ p'.Terminates g' debug c := by
  have hlockstep : ∀ s,
      (p.runAt g c s).ending.Lockstep Outcome.Rewords Eq (p'.runAt g' c s).ending := by
    intro s
    have hagrees := hp.agrees_reading (Grammar.agrees_reworded hg s.budget) c s
    rw [Cursor.behind_empty] at hagrees
    exact hagrees.mono (fun _ _ => Outcome.Agrees.rewords) fun _ _ => Fault.Agrees.eq
  exact ⟨hlockstep, terminates_congr hlockstep⟩

/-- Nested brackets and the name of a unit behind them. -/
def nestedUnit (units : Lexeme.Table Nat) : Parser Unit (fun _ => Nat) (Tuple [Nat, Nat]) :=
  sequence2 nested (Lexeme.lookup "a unit" units)

/-- The brackets with other words for what is missing. -/
def nestedReworded : Parser Unit (fun _ => Nat) Nat :=
  ((sequence3 (oneOf "(" (· == '(')) ((ref ()).withExpected "brackets")
    (oneOf ")" (· == ')'))).map fun (_, depth, _, ()) => depth + 1).rewind.orElse (Parser.pure 0)

/-- The brackets and the unit with other words for what is missing. -/
def nestedUnitReworded (units : Lexeme.Table Nat) : Parser Unit (fun _ => Nat) (Tuple [Nat, Nat]) :=
  (sequence2 nestedReworded (Lexeme.lookup "no unit" units)).withExpected "all"

theorem nested_rewords : nested.Rewords nestedReworded := by
  refine .orElse (.rewind (.map _ ?_)) (.pure 0)
  refine .bind (.bind (.satisfy _ _ _) fun _ => ?_) fun _ => .map _ (.satisfy _ _ _)
  exact .map _ (.withExpected_right _ (.ref ()))

theorem nestedUnit_rewords (units : Lexeme.Table Nat) :
    (nestedUnit units).Rewords (nestedUnitReworded units) :=
  .withExpected_right _ (.bind nested_rewords fun _ => .map _ (.lookup _ _ units))

/-- With other words for all of it, the unit is found and missed as before. -/
theorem lockstep_of_rewords_nested :
    ((nestedUnitReworded [(3, ["x", "y"])]).runAt (fun _ => nestedReworded) (nestedAt 1)
        { budget := 7 }).ending = .returned (.matched (2, 3, ()) (nestedAt 6)) ∧
    ∃ message, ((nestedUnitReworded [(3, ["x"])]).runAt (fun _ => nestedReworded) (nestedAt 1)
        { budget := 7 }).ending = .returned (.failed ⟨message, nestedAt 5⟩) := by
  have hmatch : ((nestedUnit [(3, ["x", "y"])]).runAt (fun _ => nested) (nestedAt 1)
      { budget := 7 }).ending = .returned (.matched (2, 3, ()) (nestedAt 6)) := by decide +kernel
  have hfail : ((nestedUnit [(3, ["x"])]).runAt (fun _ => nested) (nestedAt 1)
      { budget := 7 }).ending = .returned (.failed ⟨"a unit", nestedAt 5⟩) := by decide +kernel
  constructor
  · obtain ⟨outcome, hrun, houtcome⟩ := ((lockstep_of_rewords (nestedUnit_rewords _)
      (fun _ => nested_rewords) (nestedAt 1)).1 _).of_returned hmatch
    cases houtcome with
    | matched value after => exact hrun
  · obtain ⟨outcome, hrun, houtcome⟩ := ((lockstep_of_rewords (nestedUnit_rewords _)
      (fun _ => nested_rewords) (nestedAt 1)).1 _).of_returned hfail
    cases houtcome with
    | failed expected expected' c => exact ⟨_, hrun⟩

end Parser

end Descent
