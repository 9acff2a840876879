-- SUMMARY: Nested alternatives, which group in any way, and a first part that alternatives share.
import Descent.Proofs.Choice
import Descent.Proofs.Ending
import Descent.Proofs.Mapping

/-!
# Alternatives

Alternatives start at one cursor, however they are nested, and a failure is one in place
if it is reported there. So each level of a nest judges a failure alike, and the nest comes
to its first parser that settles it, as the flat list does. A failure elsewhere is written
down once for each level that passes it on, so the journals differ; how the run ends and
which calls it makes do not.

If two alternatives begin with the same parser and the first one is rewound, that parser may
be taken out and run once. Then fewer calls are made, but the run ends in the same way.
-/

namespace Descent

variable {ν : Type} {ρ : ν → Type} {α β : Type}

namespace Reading

/-! ## Readings that are alike -/

/-- Whether two readings end in the same way and make the same visits, from every cursor and
with all settings: the same watched parsers are called on the same cursors, in the same order.
The decisions that are written down may differ. -/
def Alike (p q : Reading α) : Prop :=
  ∀ c s, (p c s).ending = (q c s).ending ∧ (p c s).journal.visits = (q c s).journal.visits

namespace Alike

variable {p q r : Reading α}

theorem refl (p : Reading α) : p.Alike p := fun _ _ => ⟨rfl, rfl⟩

theorem trans (hpq : p.Alike q) (hqr : q.Alike r) : p.Alike r := fun c s =>
  ⟨(hpq c s).1.trans (hqr c s).1, (hpq c s).2.trans (hqr c s).2⟩

end Alike

/-! ## Two alternatives -/

section OrElse

variable (p q : Reading α) (c : Cursor) (s : Settings)

theorem ending_orElse_ite : (p.orElse q c s).ending =
    if (p c s).settlesAt c then (p c s).ending else (q c s).ending := by
  cases hsettles : (p c s).settlesAt c with
  | true => exact (orElse_of_settles q hsettles).1
  | false => exact (orElse_of_not_settles q hsettles).1

theorem visits_orElse_ite : (p.orElse q c s).journal.visits =
    (p c s).journal.visits ++ if (p c s).settlesAt c then [] else (q c s).journal.visits := by
  cases hsettles : (p c s).settlesAt c with
  | true => simpa using (orElse_of_settles q hsettles).2
  | false => exact (orElse_of_not_settles q hsettles).2

/-- Two alternatives settle a choice if one of them does. -/
theorem settlesAt_orElse : (p.orElse q c s).settlesAt c =
    ((p c s).settlesAt c || (q c s).settlesAt c) := by
  cases hsettles : (p c s).settlesAt c with
  | true => exact (Run.settlesAt_congr (orElse_of_settles q hsettles).1 c).trans hsettles
  | false => exact Run.settlesAt_congr (orElse_of_not_settles q hsettles).1 c

end OrElse

theorem Alike.orElse {p p' q q' : Reading α} (hp : p.Alike p') (hq : q.Alike q') :
    (p.orElse q).Alike (p'.orElse q') := by
  intro c s
  obtain ⟨hpend, hpvisits⟩ := hp c s
  obtain ⟨hqend, hqvisits⟩ := hq c s
  rw [ending_orElse_ite, ending_orElse_ite, visits_orElse_ite, visits_orElse_ite,
    Run.settlesAt_congr hpend c, hpend, hqend, hpvisits, hqvisits]
  exact ⟨rfl, rfl⟩

theorem orElse_assoc (p q r : Reading α) :
    ((p.orElse q).orElse r).Alike (p.orElse (q.orElse r)) := by
  intro c s
  simp only [ending_orElse_ite, visits_orElse_ite, settlesAt_orElse]
  cases (p c s).settlesAt c with
  | true => simp
  | false => simp

theorem fail_orElse (expected : String) (p : Reading α) : ((fail expected).orElse p).Alike p := by
  intro c s
  have hsame : ((fail expected : Reading α) c s).settlesAt c = false := by
    simp [fail, Action.pure_apply, Run.settlesAt, Cursor.samePos_self]
  exact orElse_of_not_settles p hsame

/-! ## A first part that two alternatives share -/

/-- Alternatives after a match are alternatives that begin with that match, if the first one
is rewound. -/
theorem ending_onMatch_rewind_orElse (p : Reading α) (next last : α → Reading β) (c : Cursor)
    (s : Settings) :
    ((p.onMatch next).rewind.orElse (p.onMatch last) c s).ending =
      (p.onMatch (fun value => (next value).rewind.orElse (last value)) c s).ending := by
  rw [ending_rewind_orElse, ending_onMatch, ending_onMatch, ending_onMatch, Ending.proceed_proceed]
  simp only [ending_rewind_orElse]
  rcases (p c s).ending with (⟨value, after⟩ | failure) | fault | _ <;> rfl

end Reading

namespace Parser

variable {env : ∀ n, Reading (ρ n)}

/-! ## Nested choices -/

/-- A choice in front of a choice is one choice; the message of the first one is lost. -/
theorem choice_orElse_choice (expected expected' : String) (qs rs : List (Parser ν ρ α)) :
    (((choice expected' qs).orElse (choice expected rs)).reading env).Alike
      ((choice expected (qs ++ rs)).reading env) := by
  induction qs with
  | nil => exact Reading.fail_orElse expected' _
  | cons q qs ih => exact (Reading.orElse_assoc _ _ _).trans (.orElse (.refl _) ih)

/-- A choice is a part of another one as the list of its parsers is. -/
theorem choice_flatten (expected expected' : String) (ps qs rs : List (Parser ν ρ α)) :
    ((choice expected (ps ++ [choice expected' qs] ++ rs)).reading env).Alike
      ((choice expected (ps ++ qs ++ rs)).reading env) := by
  induction ps with
  | nil => exact choice_orElse_choice expected expected' qs rs
  | cons p ps ih => exact .orElse (.refl _) ih

/-- Alternatives group in any way, a parser that always fails in place is neutral in front of
them, and a choice among the parsers of another choice may be replaced by its own parsers,
whatever its message. Nothing is assumed about the parsers, so they may be watched ones: both
runs end in the same way, message and all, and make the same calls. -/
theorem alternatives_regroup (env : ∀ n, Reading (ρ n)) (p q r : Parser ν ρ α)
    (ps qs rs : List (Parser ν ρ α)) (expected expected' : String) :
    (((p.orElse q).orElse r).reading env).Alike ((p.orElse (q.orElse r)).reading env) ∧
      (((fail expected).orElse p).reading env).Alike (p.reading env) ∧
      ((choice expected (ps ++ [choice expected' qs] ++ rs)).reading env).Alike
        ((choice expected (ps ++ qs ++ rs)).reading env) :=
  ⟨Reading.orElse_assoc _ _ _, Reading.fail_orElse expected _,
    choice_flatten expected expected' ps qs rs⟩

/-- The journals are not the same: a failure elsewhere is written down on each level. -/
example :
    let far : Parser Empty (fun _ => Unit) Char := anyUnit.bind fun _ => fail "a second unit"
    let journal (p : Parser Empty (fun _ => Unit) Char) :=
      (p.reading nofun (Cursor.start #['a']) { debug := true }).journal
    journal ((far.orElse far).orElse far) = journal (far.orElse (far.orElse far)) ++
      [.decision (.commit 0 1 "a second unit")] := by decide +kernel

/-! ## Left factoring -/

theorem map_rewind_orElse (q r : Parser ν ρ α) (f : α → β) :
    ((q.rewind.orElse r).map f).reading env = ((q.map f).rewind.orElse (r.map f)).reading env := by
  rw [map_orElse, Parser.reading, Parser.reading, map_rewind]

/-- A parser with which two sequences begin may be taken out of them, if the first sequence is
rewound; then only what stands behind that parser is rewound. The runs end in the same way:
with the same match, the same failure at the same cursor, or the same fault. -/
theorem left_factoring (env : ∀ n, Reading (ρ n)) (p : Parser ν ρ α) (q r : Parser ν ρ β)
    (c : Cursor) (s : Settings) :
    (((sequence2 p q).rewind.orElse (sequence2 p r)).reading env c s).ending =
      ((sequence2 p (q.rewind.orElse r)).reading env c s).ending := by
  have hfactored : (sequence2 p (q.rewind.orElse r)).reading env =
      (p.bind fun a =>
        (q.map fun b => (a, b, ())).rewind.orElse (r.map fun b => (a, b, ()))).reading env := by
    simp only [sequence2, reading_bind, map_rewind_orElse]
  rw [hfactored]
  exact Reading.ending_onMatch_rewind_orElse _ _ _ c s

end Parser

end Descent
