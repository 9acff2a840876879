-- SUMMARY: Mapping the values of a whole parser, or those of its parts.
import Descent.Proofs.Sequence

/-!
# Mapping values

No combinator that decides between its parts looks at the values that they match with: it
looks at whether they match, and where. So a function may be mapped over the values of the
whole, or over those of each part. For the repetitions and the sequence of a list it is
mapped over each of the values collected, in the loop or after it.

As for sequences, these are equations between readings: the runs end in the same way and
write the same journal, for all cursors and with the debug switch on or off.
-/

namespace Descent

variable {ν : Type} {ρ : ν → Type} {α β γ σ σ' τ τ' : Type}

/-! ## Actions and loops -/

/-- Maps the result of a run that returns. -/
def Ending.map (f : α → β) : Ending α → Ending β
  | .returned result => .returned (f result)
  | .raised fault => .raised fault
  | .exhausted => .exhausted

namespace Action

theorem map_apply (f : α → β) (a : Action α) (s : Settings) :
    (f <$> a) s = ⟨(a s).journal, (a s).ending.map f⟩ := by
  rw [map_eq_pure_bind, bind_apply]
  rcases a s with ⟨journal, result | fault | _⟩ <;> simp [pure_apply, Run.after, Ending.map]

theorem map_raise (f : α → β) (fault : Fault) : f <$> (raise fault : Action α) = raise fault := rfl

/-- Maps the state of a turn that goes on, and the result of the last one. -/
def Turn.map (f : σ → σ') (g : τ → τ') : Turn σ τ → Turn σ' τ'
  | .again state => .again (f state)
  | .done result => .done (g result)

/-- A loop whose turns are those of another one, with states and results mapped, is that
loop with its result mapped. -/
theorem loop_map {turn : σ → Action (Turn σ τ)} {turn' : σ' → Action (Turn σ' τ')}
    {spent : σ → Ending τ} {spent' : σ' → Ending τ'} {f : σ → σ'} {g : τ → τ'}
    (hturn : ∀ state, turn' (f state) = Turn.map f g <$> turn state)
    (hspent : ∀ state, spent' (f state) = (spent state).map g) (turns : Nat) (state : σ) :
    loop turn' spent' turns (f state) = g <$> loop turn spent turns state := by
  induction turns generalizing state with
  | zero =>
    ext s : 1
    rw [map_apply, loop_zero, loop_zero, hspent]
  | succ turns ih =>
    rw [loop_succ, loop_succ, hturn, bind_map_left, map_bind]
    refine bind_congr fun next => ?_
    cases next with
    | again state => exact ih state
    | done result => exact (map_pure g result).symm

end Action

/-! ## Readings -/

namespace Reading

/-- Maps the value of a match by a function that takes every value. -/
def mapValue (p : Reading α) (f : α → β) : Reading β := fun c => Outcome.map f <$> p c

theorem onMatch_yield_eq (p : Reading α) (f : α → β) :
    (p.onMatch fun value => yield (f value)) = p.mapValue f := by
  funext c
  rw [mapValue, map_eq_pure_bind]
  refine bind_congr fun outcome => ?_
  cases outcome with
  | matched value after => rfl
  | failed failure => rfl

theorem mapValue_yield (value : α) (f : α → β) : (yield value).mapValue f = yield (f value) := by
  funext c
  exact map_pure _ _

theorem mapValue_mapValue (p : Reading α) (f : α → β) (g : β → γ) :
    (p.mapValue f).mapValue g = p.mapValue (g ∘ f) := by
  funext c
  simp only [mapValue, Functor.map_map]
  congr
  funext outcome
  cases outcome with
  | matched value after => rfl
  | failed failure => rfl

theorem mapValue_onMatch (p : Reading α) (next : α → Reading β) (f : β → γ) :
    (p.onMatch next).mapValue f = p.onMatch fun value => (next value).mapValue f := by
  simp only [← onMatch_yield_eq, onMatch_assoc]

theorem onMatch_mapValue (p : Reading α) (f : α → β) (next : β → Reading γ) :
    (p.mapValue f).onMatch next = p.onMatch fun value => next (f value) := by
  simp only [← onMatch_yield_eq, onMatch_assoc, yield_onMatch]

theorem mapValue_fail (expected : String) (f : α → β) :
    (fail expected : Reading α).mapValue f = fail expected := by
  funext c
  exact map_pure _ _

/-- What is done with a failure comes to the same before and after the mapping, up to the
value of a match that it may come to. -/
theorem mapValue_onFailure (p : Reading α) (next : Failure → Action (Outcome α)) (f : α → β)
    (c : Cursor) : (p.onFailure next).mapValue f c =
      (p.mapValue f).onFailure (fun failure => Outcome.map f <$> next failure) c := by
  simp only [mapValue, onFailure, map_bind, bind_map_left]
  refine bind_congr fun outcome => ?_
  cases outcome with
  | matched value after => exact map_pure _ _
  | failed failure => rfl

theorem mapValue_mapFailure (p : Reading α) (g : Failure → Except Fault Failure) (f : α → β) :
    (p.mapFailure g).mapValue f = (p.mapValue f).mapFailure g := by
  funext c
  rw [mapFailure, mapValue_onFailure]
  simp only [map_bind, map_pure, Outcome.map]
  rfl

theorem mapValue_withExpected (p : Reading α) (expected : String) (f : α → β) :
    (p.withExpected expected).mapValue f = (p.mapValue f).withExpected expected := by
  funext c
  rw [withExpected, mapValue_onFailure]
  simp only [map_pure, Outcome.map]
  rfl

theorem mapValue_orElse (p q : Reading α) (f : α → β) :
    (p.orElse q).mapValue f = (p.mapValue f).orElse (q.mapValue f) := by
  funext c
  refine (mapValue_onFailure p _ f c).trans ?_
  unfold orElse
  congr
  funext failure
  split
  · rw [map_bind]
    rfl
  · rw [map_bind]
    rfl

theorem mapValue_rewind (p : Reading α) (f : α → β) :
    p.rewind.mapValue f = (p.mapValue f).rewind := by
  funext c
  refine (mapValue_onFailure p _ f c).trans ?_
  unfold rewind
  congr
  funext failure
  split
  · exact map_pure _ _
  · rw [map_bind]
    rfl

/-! ### Repetitions -/

/-- Maps the values that a repetition has collected. -/
def Collected.map (f : α → β) (state : Collected α) : Collected β :=
  ⟨state.reversed.map f, state.cursor⟩

theorem Collected.cursor_map (f : α → β) (state : Collected α) :
    (state.map f).cursor = state.cursor := rfl

theorem Collected.outcome_map (f : α → β) (state : Collected α) :
    (state.map f).outcome = state.outcome.map (List.map f) := by
  simp [Collected.map, Collected.outcome, Outcome.map]

theorem unboundedTurn_mapValue (p : Reading α) (f : α → β) (state : Collected α) :
    (p.mapValue f).unboundedTurn (state.map f) =
      Action.Turn.map (Collected.map f) (Outcome.map (List.map f)) <$> p.unboundedTurn state := by
  rw [unboundedTurn, unboundedTurn, mapValue, map_bind, bind_map_left, Collected.cursor_map]
  refine bind_congr fun outcome => ?_
  cases outcome with
  | matched value after =>
    -- Mapping keeps the cursors, so both bodies match in place, or neither does.
    by_cases hsame : after.samePos state.cursor
    · simp only [Outcome.map, if_pos hsame, Action.map_raise]
    · simp only [Outcome.map, if_neg hsame, map_pure]
      rfl
  | failed failure =>
    simp only [Outcome.map, map_bind, map_pure, Action.Turn.map, Collected.outcome_map]
    simp only [Collected.map, List.length_map]

theorem boundedTurn_mapValue (p : Reading α) (f : α → β) (state : Collected α) :
    (p.mapValue f).boundedTurn (state.map f) =
      Action.Turn.map (Collected.map f) (Outcome.map (List.map f)) <$> p.boundedTurn state := by
  simp only [boundedTurn, mapValue, map_bind, bind_map_left]
  refine bind_congr fun outcome => ?_
  cases outcome with
  | matched value after => exact (map_pure _ _).symm
  | failed failure => simp only [Outcome.map, map_pure, Action.Turn.map, Collected.outcome_map]

theorem mapValue_zeroOrMore (p : Reading α) (f : α → β) :
    p.zeroOrMore.mapValue (List.map f) = (p.mapValue f).zeroOrMore := by
  funext c
  ext s : 1
  have hspent : ∀ _ : Collected α, (.exhausted : Ending (Outcome (List β))) =
      Ending.map (Outcome.map (List.map f)) .exhausted := fun _ => rfl
  exact (congrFun (Action.loop_map (unboundedTurn_mapValue p f) hspent s.budget ⟨[], c⟩) s).symm

theorem mapValue_upTo (p : Reading α) (count : Nat) (f : α → β) :
    (p.upTo count).mapValue (List.map f) = (p.mapValue f).upTo count := by
  funext c
  have hspent : ∀ state : Collected α, .returned (state.map f).outcome =
      Ending.map (Outcome.map (List.map f)) (.returned state.outcome) := fun state =>
    congrArg Ending.returned (Collected.outcome_map f state)
  exact (Action.loop_map (boundedTurn_mapValue p f) hspent count ⟨[], c⟩).symm

end Reading

/-! ## Parsers -/

namespace Parser

variable {env : ∀ n, Reading (ρ n)}

theorem reading_mapValue (p : Parser ν ρ α) (f : α → β) :
    (p.map f).reading env = (p.reading env).mapValue f := Reading.onMatch_yield_eq _ _

/-- With one value in front of a list, a function is mapped over the value and over the
list. -/
theorem map_cons (p : Parser ν ρ α) {q : Parser ν ρ (List α)} {q' : Parser ν ρ (List β)}
    {f : α → β} (hq : (q.map (List.map f)).reading env = q'.reading env) :
    ((p.bind fun value => q.map (value :: ·)).map (List.map f)).reading env =
      ((p.map f).bind fun value => q'.map (value :: ·)).reading env := by
  simp only [reading_mapValue, reading_bind, Reading.mapValue_onMatch, Reading.onMatch_mapValue,
    ← hq, Reading.mapValue_mapValue]
  rfl

theorem map_orElse (p q : Parser ν ρ α) (f : α → β) :
    ((p.orElse q).map f).reading env = ((p.map f).orElse (q.map f)).reading env := by
  simp only [Parser.reading, reading_mapValue, Reading.mapValue_orElse]

theorem map_choice (expected : String) (ps : List (Parser ν ρ α)) (f : α → β) :
    ((choice expected ps).map f).reading env =
      (choice expected (ps.map fun p => p.map f)).reading env := by
  induction ps with
  | nil => exact (reading_mapValue _ f).trans (Reading.mapValue_fail expected f)
  | cons p ps ih =>
    rw [choice, map_orElse, List.map_cons, choice, Parser.reading, Parser.reading, ih]

theorem map_optional (p : Parser ν ρ α) (default : α) (f : α → β) :
    ((optional p default).map f).reading env = (optional (p.map f) (f default)).reading env := by
  simp only [optional, Parser.reading, reading_mapValue, Reading.mapValue_orElse,
    Reading.mapValue_yield]

theorem map_rewind (p : Parser ν ρ α) (f : α → β) :
    (p.rewind.map f).reading env = (p.map f).rewind.reading env := by
  simp only [Parser.reading, reading_mapValue, Reading.mapValue_rewind]

theorem map_mapFailure (p : Parser ν ρ α) (g : Failure → Except Fault Failure) (f : α → β) :
    ((p.mapFailure g).map f).reading env = ((p.map f).mapFailure g).reading env := by
  simp only [Parser.reading, reading_mapValue, Reading.mapValue_mapFailure]

theorem map_withExpected (p : Parser ν ρ α) (expected : String) (f : α → β) :
    ((p.withExpected expected).map f).reading env =
      ((p.map f).withExpected expected).reading env := by
  simp only [Parser.reading, reading_mapValue, Reading.mapValue_withExpected]

theorem map_zeroOrMore (p : Parser ν ρ α) (f : α → β) :
    (p.zeroOrMore.map (List.map f)).reading env = (p.map f).zeroOrMore.reading env := by
  simp only [Parser.reading, reading_mapValue, Reading.mapValue_zeroOrMore]

theorem map_oneOrMore (p : Parser ν ρ α) (f : α → β) :
    (p.oneOrMore.map (List.map f)).reading env = (p.map f).oneOrMore.reading env :=
  map_cons p (map_zeroOrMore p f)

theorem map_upTo (p : Parser ν ρ α) (count : Nat) (f : α → β) :
    ((p.upTo count).map (List.map f)).reading env = ((p.map f).upTo count).reading env := by
  simp only [Parser.reading, reading_mapValue, Reading.mapValue_upTo]

theorem map_sequenceAll (ps : List (Parser ν ρ α)) (f : α → β) :
    ((sequenceAll ps).map (List.map f)).reading env =
      (sequenceAll (ps.map fun p => p.map f)).reading env := by
  induction ps with
  | nil => exact (reading_mapValue _ _).trans (Reading.mapValue_yield _ _)
  | cons p ps ih =>
    calc ((sequenceAll (p :: ps)).map (List.map f)).reading env
      _ = ((p.bind fun value => (sequenceAll ps).map (value :: ·)).map (List.map f)).reading env := by
        rw [reading_map, reading_map, reading_sequenceAll_cons]
        rfl
      _ = ((p.map f).bind fun value =>
          (sequenceAll (ps.map fun p => p.map f)).map (value :: ·)).reading env := map_cons p ih
      _ = (sequenceAll ((p :: ps).map fun p => p.map f)).reading env :=
        (reading_sequenceAll_cons env (p.map f) _).symm

/-- A bound that is refused is refused with and without the mapping. -/
theorem map_upTo? (p : Parser ν ρ α) (count : Int) (f : α → β) :
    (p.upTo? count).map (fun q => (q.map (List.map f)).reading env) =
      ((p.map f).upTo? count).map fun q => q.reading env := by
  unfold upTo?
  split
  · exact congrArg Except.ok (map_upTo p count.toNat f)
  · split
    · rfl
    · rfl

/-- A function may be mapped over the values of a whole parser or over those of its parts: of
alternatives, of a choice, of an optional parser and its default, of a rewound one, of one
whose failures are mapped or reworded, and, value by value, of the three repetitions and of
the sequence of a list. Both runs end in the same way, with equal faults, and write the same
journal. -/
theorem map_commutes (env : ∀ n, Reading (ρ n)) (p q : Parser ν ρ α) (ps : List (Parser ν ρ α))
    (f : α → β) (expected : String) (default : α) (g : Failure → Except Fault Failure)
    (count : Int) :
    ((p.orElse q).map f).reading env = ((p.map f).orElse (q.map f)).reading env ∧
      ((choice expected ps).map f).reading env =
        (choice expected (ps.map fun x => x.map f)).reading env ∧
      ((optional p default).map f).reading env =
        (optional (p.map f) (f default)).reading env ∧
      (p.rewind.map f).reading env = (p.map f).rewind.reading env ∧
      ((p.mapFailure g).map f).reading env = ((p.map f).mapFailure g).reading env ∧
      ((p.withExpected expected).map f).reading env =
        ((p.map f).withExpected expected).reading env ∧
      (p.zeroOrMore.map (List.map f)).reading env = (p.map f).zeroOrMore.reading env ∧
      (p.oneOrMore.map (List.map f)).reading env = (p.map f).oneOrMore.reading env ∧
      (p.upTo? count).map (fun q => (q.map (List.map f)).reading env) =
        ((p.map f).upTo? count).map (fun q => q.reading env) ∧
      ((sequenceAll ps).map (List.map f)).reading env =
        (sequenceAll (ps.map fun x => x.map f)).reading env :=
  ⟨map_orElse p q f, map_choice expected ps f, map_optional p default f, map_rewind p f,
    map_mapFailure p g f, map_withExpected p expected f, map_zeroOrMore p f, map_oneOrMore p f,
    map_upTo? p count f, map_sequenceAll ps f⟩

end Parser

end Descent
