-- SUMMARY: Where a run may end: matches and failures span from the start cursor onwards.
import Descent.Proofs.Contract
import Descent.Proofs.InOrder

/-!
# Spans

A match ends at a cursor of the same source that is not before the one where its
parser started, and so is the cursor at which a failure is reported, as long as
no function given by the user reports it elsewhere. Failures need a proviso of
their own because a match never depends on where a failure was reported: the
combinators that go on after a failure go on from their own start.
-/

namespace Descent

variable {ν : Type} {ρ : ν → Type} {α β : Type}

namespace Reading

/-- Whether every match of a reading ends at its start or later, and whether,
if `strict` holds, every failure is reported there as well. -/
def Spans (strict : Prop) (p : Reading α) : Prop :=
  ∀ c, p.Meets c (fun _ after => c ≤ after) (fun failure => strict → c ≤ failure.cursor)
    (fun _ => True)

variable {strict : Prop} {p : Reading α}

theorem Spans.onMatch {next : α → Reading β} (hp : p.Spans strict)
    (hnext : ∀ value, (next value).Spans strict) : (p.onMatch next).Spans strict := by
  intro c
  refine Meets.onMatch (hp c) fun value d hcd => ?_
  exact (hnext value d).imp (fun _ _ hde => hcd.trans hde)
    fun _ hfailure hstrict => hcd.trans (hfailure hstrict)

theorem Spans.inOrder {ps : List (Reading α)} (hps : ∀ p ∈ ps, p.Spans strict) :
    (inOrder ps).Spans strict :=
  inOrder_of_forall (P := fun p => p.Spans strict) (fun _ c => meets_yield (le_refl c))
    Spans.onMatch hps

theorem Spans.orElse {first second : Reading α} (hfirst : first.Spans strict)
    (hsecond : second.Spans strict) : (first.orElse second).Spans strict := by
  intro c
  refine Meets.orElse ((hfirst c).imp_failure fun failure hfailure => ?_)
  split
  · exact hsecond c
  · exact hfailure

theorem Spans.rewind (hp : p.Spans strict) : p.rewind.Spans strict := by
  intro c
  refine Meets.rewind ((hp c).imp_failure fun failure hfailure => ?_)
  split
  · exact hfailure
  · exact fun _ => le_refl c

/-- The cursor of a repetition only moves with the matches of its body; a failure
of the body ends it where that attempt started. -/
theorem Spans.zeroOrMore (hp : p.Spans strict) : p.zeroOrMore.Spans strict := by
  intro c
  refine meets_zeroOrMore (fun _ d => c ≤ d) (le_refl c) fun values d hcd => ?_
  refine (hp d).imp (fun value e hde => ?_) fun _ _ => hcd
  split
  · trivial
  · exact hcd.trans hde

/-- A repetition takes another turn only behind the cursor of the last one. -/
theorem Spans.unboundedTurn (hp : p.Spans strict) (state : Collected α) :
    (p.unboundedTurn state).Meets
      (Action.Turn.Meets (fun next => state.cursor ≤ next.cursor ∧
        state.cursor.pos < next.cursor.pos) fun _ => True) (fun _ => True) := by
  refine Action.Meets.bind (hp state.cursor) fun outcome houtcome => ?_
  cases outcome with
  | matched value after =>
    simp only
    split
    · exact Action.meets_raise trivial
    · rename_i hmoved
      exact Action.meets_pure ⟨houtcome, Cursor.pos_lt_of_le houtcome hmoved⟩
  | failed failure => exact Action.Meets.after_record (Action.meets_pure trivial)

theorem Spans.boundedTurn (hp : p.Spans strict) (state : Collected α) :
    (p.boundedTurn state).Meets
      (Action.Turn.Meets (fun next => state.cursor ≤ next.cursor) fun _ => True)
      (fun _ => True) := by
  refine Action.Meets.bind (hp state.cursor) fun outcome houtcome => ?_
  cases outcome with
  | matched value after => exact Action.meets_pure houtcome
  | failed failure => exact Action.meets_pure trivial

theorem Spans.upTo {count : Nat} (hp : p.Spans strict) : (p.upTo count).Spans strict := by
  intro c
  refine meets_upTo (fun _ d => c ≤ d) (le_refl c) (fun values d _ hcd => ?_)
    (fun _ _ _ hcd => hcd)
  exact (hp d).imp (fun _ _ hde => hcd.trans hde) fun _ _ => hcd

end Reading

namespace Parser

variable {excluded : Set (Feature ν)} {strict : Prop}

/-- A parser without user's own functions spans if the names it refers to do. -/
theorem spans_reading {env : ∀ n, Reading (ρ n)} (hcustom : .custom ∈ excluded)
    (hstrict : strict → .mapFailure ∈ excluded)
    (henv : ∀ n, .ref n ∉ excluded → (env n).Spans strict) {p : Parser ν ρ α}
    (hp : p.Avoids excluded) : (p.reading env).Spans strict := by
  induction p with
  | endOfInput => exact fun c => Reading.meets_endOfInput (fun _ => le_refl c) fun _ _ => le_refl c
  | anyUnit =>
    exact fun c => Reading.meets_anyUnit (fun _ _ _ => c.le_skip 1) fun _ _ => le_refl c
  | literal text =>
    exact fun c => Reading.meets_literal (fun _ => c.le_skip _) fun _ _ => le_refl c
  | fail expected => exact fun c => Reading.meets_fail fun _ => le_refl c
  | pure value => exact fun c => Reading.meets_yield (le_refl c)
  | convert p f ih =>
    intro c
    refine Reading.Meets.convert ((ih hp c).imp_match fun value d hcd => ?_)
    exact Action.meets_ofExcept_true.imp fun _ _ => hcd
  | check expected p accepts ih =>
    intro c
    refine Reading.Meets.check ((ih hp c).imp_match fun value d hcd => ?_)
    refine Action.meets_ofExcept_true.imp fun accepted _ => ⟨fun _ => hcd, fun _ => ?_⟩
    exact Action.meets_ofExcept_true.imp fun _ _ _ => hcd
  | mapFailure p f ih =>
    intro c
    refine Reading.Meets.mapFailure ((ih hp.2 c).imp_failure fun failure _ => ?_)
    exact Action.meets_ofExcept_true.imp fun _ _ hs => absurd (hstrict hs) hp.1
  | withExpected p expected ih => exact fun c => (ih hp c).withExpected
  | bind p next ih ihnext => exact (ih hp.1).onMatch fun value => ihnext value (hp.2 value)
  | inOrder ps ih =>
    exact Reading.Spans.inOrder (List.forall_mem_ofFn_iff.2 fun i => ih i (hp i))
  | orElse first second ihfirst ihsecond => exact (ihfirst hp.1).orElse (ihsecond hp.2)
  | rewind p ih => exact (ih hp).rewind
  | zeroOrMore p ih => exact (ih hp).zeroOrMore
  | upTo p count ih => exact (ih hp).upTo
  | ref name => exact henv name hp
  | custom read => exact absurd hcustom hp
  | spy name p ih => exact fun c => (ih hp.2 c).spy

end Parser

/-- The names of a grammar span at every depth: at depth zero no run returns. -/
theorem Grammar.spans_names {g : Grammar ν ρ} {excluded : Set (Feature ν)} {strict : Prop}
    (hcustom : .custom ∈ excluded) (hstrict : strict → .mapFailure ∈ excluded)
    (hg : ∀ n, .ref n ∉ excluded → (g n).Avoids excluded) (depth : Nat) (n : ν)
    (hn : .ref n ∉ excluded) : (g.names depth n).Spans strict := by
  induction depth generalizing n with
  | zero => exact fun _ _ => trivial
  | succ depth ih => exact Parser.spans_reading hcustom hstrict ih (hg n hn)

/-- A parser over a grammar spans. -/
theorem Parser.spans_runAt {g : Grammar ν ρ} {excluded : Set (Feature ν)} {strict : Prop}
    (hcustom : .custom ∈ excluded) (hstrict : strict → .mapFailure ∈ excluded)
    (hg : ∀ n, .ref n ∉ excluded → (g n).Avoids excluded) {p : Parser ν ρ α}
    (hp : p.Avoids excluded) : Reading.Spans strict (p.runAt g) := fun c s =>
  spans_reading hcustom hstrict (Grammar.spans_names hcustom hstrict hg s.budget) hp c s

namespace Parser

/-- A run that matches ends in its source, not before its start; so does a run
that fails, if no failure is mapped by a user's function. -/
theorem span_of_returned {g : Grammar ν ρ} {p : Parser ν ρ α} (hp : p.Avoids {.custom})
    (hg : ∀ n, (g n).Avoids {.custom}) (c : Cursor) (s : Settings) :
    (∀ value after, (p.runAt g c s).ending = .returned (.matched value after) →
      after.source = c.source ∧ c.pos ≤ after.pos ∧ after.pos ≤ c.source.size) ∧
    (p.Avoids {.mapFailure} → (∀ n, (g n).Avoids {.mapFailure}) →
      ∀ failure, (p.runAt g c s).ending = .returned (.failed failure) →
        failure.cursor.source = c.source ∧ c.pos ≤ failure.cursor.pos ∧
          failure.cursor.pos ≤ c.source.size) := by
  have hbounds : ∀ d, c ≤ d → d.source = c.source ∧ c.pos ≤ d.pos ∧ d.pos ≤ c.source.size := by
    rintro d ⟨hsource, hpos⟩
    exact ⟨hsource.symm, hpos, hsource ▸ d.pos_le⟩
  constructor
  · intro value after hrun
    have hspans : Reading.Spans False (p.runAt g) :=
      spans_runAt (Set.mem_singleton _) False.elim (fun n _ => hg n) hp
    have hends := hspans c s
    rw [hrun] at hends
    exact hbounds after hends
  · intro hp' hg' failure hrun
    have hspans : Reading.Spans True (p.runAt g) :=
      spans_runAt (Set.mem_union_left _ (Set.mem_singleton _))
        (fun _ => Set.mem_union_right _ (Set.mem_singleton _))
        (fun n _ => (hg n).union (hg' n)) (hp.union hp')
    have hends := hspans c s
    rw [hrun] at hends
    exact hbounds failure.cursor (hends trivial)

/-- Any number of opening brackets, followed by as many closing ones. -/
def nested : Parser Unit (fun _ => Nat) Nat :=
  ((sequence3 (oneOf "an opening bracket" (· == '(')) (ref ())
    (oneOf "a closing bracket" (· == ')'))).map fun (_, depth, _, ()) => depth + 1).rewind.orElse
    (Parser.pure 0)

theorem nested_avoids {excluded : Set (Feature Unit)} (h : .ref () ∉ excluded) :
    nested.Avoids excluded := by
  simp [nested, Avoids, sequence3, extend, sequence2, oneOf, satisfy, satisfyOver, map, h]

/-- A cursor of the source `x(())y`. -/
def nestedAt (pos : Fin 7) : Cursor where
  source := #['x', '(', '(', ')', ')', 'y']
  pos := pos
  pos_le := Nat.le_of_lt_succ pos.isLt

/-- From the first bracket on, the brackets match; with the end of the source
demanded behind them, that fails at the last unit. -/
theorem span_of_nested :
    ((nested.runAt (fun _ => nested) (nestedAt 1) { budget := 7 }).ending =
        .returned (.matched 2 (nestedAt 5)) ∧ 1 ≤ 5 ∧ 5 ≤ (nestedAt 1).source.size) ∧
    (((sequence2 nested endOfInput).runAt (fun _ => nested) (nestedAt 1) { budget := 7 }).ending =
        .returned (.failed ⟨Mismatch.inputLeft, nestedAt 5⟩) ∧
      1 ≤ 5 ∧ 5 ≤ (nestedAt 1).source.size) := by
  have hcustom : nested.Avoids {.custom} := nested_avoids nofun
  have hmap : nested.Avoids {.mapFailure} := nested_avoids nofun
  have hcustom' : (sequence2 nested endOfInput).Avoids {.custom} := ⟨hcustom, fun _ => trivial⟩
  have hmap' : (sequence2 nested endOfInput).Avoids {.mapFailure} := ⟨hmap, fun _ => trivial⟩
  have hmatch : (nested.runAt (fun _ => nested) (nestedAt 1) { budget := 7 }).ending =
      .returned (.matched 2 (nestedAt 5)) := rfl
  have hfail : ((sequence2 nested endOfInput).runAt (fun _ => nested) (nestedAt 1)
      { budget := 7 }).ending = .returned (.failed ⟨Mismatch.inputLeft, nestedAt 5⟩) := rfl
  refine ⟨⟨hmatch, ?_⟩, ⟨hfail, ?_⟩⟩
  · exact ((span_of_returned hcustom (fun _ => hcustom) _ _).1 _ _ hmatch).2
  · exact ((span_of_returned hcustom' (fun _ => hcustom) _ _).2 hmap' (fun _ => hmap) _ hfail).2

end Parser

end Descent
