-- SUMMARY: The loop of a sequence is the recursion along its list.
import Mathlib.Data.List.OfFn
import Mathlib.Data.List.Forall2
import Descent.Parser.Combinators
import Descent.Proofs.Contract
import Descent.Proofs.Feature

/-!
# Sequences as recursions

Going on after a match is associative, and a match in place is neutral for it. So it does not
matter whether the values of a sequence are collected in front of those that are still to come
or put together behind them: the loop that collects them is the recursion that runs the first
parser, then all the others, and then puts the value of the first one in front.
-/

namespace Descent

variable {ν : Type} {ρ : ν → Type} {α β γ : Type}

namespace Reading

/-! ## Going on after a match -/

theorem onMatch_assoc (p : Reading α) (next : α → Reading β) (last : β → Reading γ) :
    (p.onMatch next).onMatch last = p.onMatch fun value => (next value).onMatch last := by
  funext c
  simp only [onMatch, bind_assoc]
  congr
  funext outcome
  cases outcome with
  | matched value after => rfl
  | failed failure => exact pure_bind _ _

theorem yield_onMatch (value : α) (next : α → Reading β) :
    (yield value).onMatch next = next value := by
  funext c
  exact pure_bind _ _

theorem onMatch_yield (p : Reading α) : p.onMatch yield = p := by
  funext c
  refine Eq.trans (bind_congr fun outcome => ?_) (bind_pure (p c))
  cases outcome with
  | matched value after => rfl
  | failed failure => rfl

/-! ## The loop -/

theorem collect_nil (state : Collected α) : collect [] state = pure state.outcome := rfl

/-- The first turn of a sequence, and the turns after it. -/
theorem collect_cons (p : Reading α) (ps : List (Reading α)) (state : Collected α) :
    collect (p :: ps) state = p.onMatch
      (fun value after => collect ps ⟨value :: state.reversed, after⟩) state.cursor := by
  rw [collect, List.length_cons, Action.loop_succ]
  simp only [sequenceTurn, onMatch, bind_assoc]
  congr
  funext outcome
  cases outcome with
  | matched value after => exact pure_bind _ _
  | failed failure => exact pure_bind _ _

/-- What is collected already is in front of the values of the sequence. -/
theorem collect_eq (ps : List (Reading α)) (state : Collected α) :
    collect ps state = (inOrder ps).onMatch
      (fun values => yield (state.reversed.reverse ++ values)) state.cursor := by
  induction ps generalizing state with
  | nil =>
    have hstart : inOrder ([] : List (Reading α)) = yield [] := rfl
    rw [collect_nil, hstart, yield_onMatch, List.append_nil]
    rfl
  | cons p ps ih =>
    -- the loop of the statement and the one that starts with nothing take the same first turn
    have hturn : ∀ state : Collected α, collect (p :: ps) state = p.onMatch
        (fun value => (inOrder ps).onMatch fun values =>
          yield (state.reversed.reverse ++ value :: values)) state.cursor := by
      intro state
      rw [collect_cons]
      simp only [ih, List.reverse_cons, List.append_assoc, List.singleton_append]
    have hstart : inOrder (p :: ps) = p.onMatch fun value =>
        (inOrder ps).onMatch fun values => yield (value :: values) :=
      funext fun c => hturn ⟨[], c⟩
    rw [hturn, hstart, onMatch_assoc]
    simp only [onMatch_assoc, yield_onMatch]

theorem inOrder_nil : inOrder ([] : List (Reading α)) = yield [] := rfl

/-- A sequence is its first reading, and then the sequence of the others. -/
theorem inOrder_cons (p : Reading α) (ps : List (Reading α)) :
    inOrder (p :: ps) = p.onMatch fun value =>
      (inOrder ps).onMatch fun values => yield (value :: values) := by
  funext c
  rw [inOrder, collect_cons]
  simp only [collect_eq]
  rfl

/-- The sequence of a list is that of a first part of it, and then that of the rest. -/
theorem inOrder_append (ps qs : List (Reading α)) :
    inOrder (ps ++ qs) = (inOrder ps).onMatch fun values =>
      (inOrder qs).onMatch fun others => yield (values ++ others) := by
  induction ps with
  | nil =>
    rw [List.nil_append, inOrder_nil, yield_onMatch]
    exact (onMatch_yield _).symm
  | cons p ps ih =>
    rw [List.cons_append, inOrder_cons, inOrder_cons, ih]
    simp only [onMatch_assoc, yield_onMatch, List.cons_append]

/-! ## What carries over to a sequence -/

/-- Two sequences are related if their parts are, for a relation that matches in place and going
on after a match respect. -/
theorem inOrder_related {R : ∀ {β : Type}, Reading β → Reading β → Prop}
    (hyield : ∀ {β : Type} (value : β), R (yield value) (yield value))
    (honMatch : ∀ {β γ : Type} {p p' : Reading β} {next next' : β → Reading γ}, R p p' →
      (∀ value, R (next value) (next' value)) → R (p.onMatch next) (p'.onMatch next'))
    {ps ps' : List (Reading α)} (hps : List.Forall₂ R ps ps') : R (inOrder ps) (inOrder ps') := by
  induction hps with
  | nil => exact hyield []
  | cons hp _ ih =>
    rw [inOrder_cons, inOrder_cons]
    exact honMatch hp fun value => honMatch ih fun values => hyield (value :: values)

/-- A sequence has a property that its parts have, if matches in place have it and going on after
a match keeps it. -/
theorem inOrder_of_forall {P : ∀ {β : Type}, Reading β → Prop}
    (hyield : ∀ {β : Type} (value : β), P (yield value))
    (honMatch : ∀ {β γ : Type} {p : Reading β} {next : β → Reading γ}, P p →
      (∀ value, P (next value)) → P (p.onMatch next))
    {ps : List (Reading α)} (hps : ∀ p ∈ ps, P p) : P (inOrder ps) :=
  inOrder_related (R := fun p _ => P p) hyield honMatch (List.forall₂_same.2 hps)

end Reading

/-! ## Lists given by functions -/

/-- Two lists are related item by item if they are given by related functions. -/
theorem forall₂_ofFn {σ τ : Type} {R : σ → τ → Prop} {count : Nat} {f : Fin count → σ}
    {g : Fin count → τ} (h : ∀ i, R (f i) (g i)) : List.Forall₂ R (List.ofFn f) (List.ofFn g) :=
  List.forall₂_iff_get.2 ⟨by simp, fun i hf hg => by simpa using h ⟨i, by simpa using hf⟩⟩

/-- A list that is related to one given by a function is itself given by a function. -/
theorem exists_ofFn_of_forall₂ {σ τ : Type} {R : σ → τ → Prop} {count : Nat} {f : Fin count → σ}
    {items : List τ} (h : List.Forall₂ R (List.ofFn f) items) :
    ∃ g : Fin count → τ, items = List.ofFn g ∧ ∀ i, R (f i) (g i) := by
  obtain ⟨hlength, hget⟩ := List.forall₂_iff_get.1 h
  obtain rfl : count = items.length := by rwa [List.length_ofFn] at hlength
  exact ⟨items.get, (List.ofFn_get items).symm, fun i => by simpa using hget i (by simp) i.isLt⟩

/-! ## The sequence of a list of parsers -/

namespace Parser

theorem reading_sequenceAll (env : ∀ n, Reading (ρ n)) (ps : List (Parser ν ρ α)) :
    (sequenceAll ps).reading env = Reading.inOrder (ps.map fun p => p.reading env) :=
  congrArg Reading.inOrder (List.ofFn_getElem_eq_map ps fun p => p.reading env)

theorem reading_sequenceAll_nil (env : ∀ n, Reading (ρ n)) :
    (sequenceAll ([] : List (Parser ν ρ α))).reading env = Reading.yield [] := rfl

theorem reading_sequenceAll_cons (env : ∀ n, Reading (ρ n)) (p : Parser ν ρ α)
    (ps : List (Parser ν ρ α)) :
    (sequenceAll (p :: ps)).reading env = (p.reading env).onMatch fun value =>
      ((sequenceAll ps).reading env).onMatch fun values => Reading.yield (value :: values) := by
  rw [reading_sequenceAll, List.map_cons, Reading.inOrder_cons, ← reading_sequenceAll]

section Contracts

variable {env : ∀ n, Reading (ρ n)} {p : Parser ν ρ α} {ps : List (Parser ν ρ α)} {c : Cursor}
  {Q : List α → Cursor → Prop} {F : Failure → Prop} {E : Fault → Prop}

theorem meets_sequenceAll_nil (hQ : Q [] c) :
    ((sequenceAll ([] : List (Parser ν ρ α))).reading env).Meets c Q F E :=
  Reading.meets_yield hQ

theorem meets_sequenceAll_cons
    (hp : (p.reading env).Meets c (fun value d => ((sequenceAll ps).reading env).Meets d
      (fun values after => Q (value :: values) after) F E) F E) :
    ((sequenceAll (p :: ps)).reading env).Meets c Q F E := by
  rw [reading_sequenceAll_cons]
  exact hp.onMatch fun _ _ hps => hps.onMatch fun _ _ hQ => Reading.meets_yield hQ

/-- A sequence that matches has one value for each parser. -/
theorem length_eq_of_sequenceAll {after : Cursor} {s : Settings} {values : List α}
    (hrun : ((sequenceAll ps).reading env c s).ending = .returned (.matched values after)) :
    values.length = ps.length := by
  have hmeets : ((sequenceAll ps).reading env).Meets c (fun values _ => values.length = ps.length)
      (fun _ => True) (fun _ => True) := by
    clear hrun
    induction ps generalizing c with
    | nil => exact meets_sequenceAll_nil rfl
    | cons p ps ih =>
      refine meets_sequenceAll_cons (Reading.meets_true.imp_match fun value d _ => ?_)
      exact ih.imp_match fun values _ hlength => congrArg Nat.succ hlength
  exact hmeets.of_returned hrun

end Contracts

theorem avoids_sequenceAll {excluded : Set (Feature ν)} {ps : List (Parser ν ρ α)} :
    (sequenceAll ps).Avoids excluded ↔ ∀ p ∈ ps, p.Avoids excluded := by
  refine ⟨fun h p hp => ?_, fun h i => h _ (List.getElem_mem _)⟩
  obtain ⟨i, hi, rfl⟩ := List.getElem_of_mem hp
  exact h ⟨i, hi⟩

end Parser

end Descent
