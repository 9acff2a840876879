-- SUMMARY: Parsers without names end in the one way that their contract leaves open.
import Descent.Proofs.Munch
import Descent.Proofs.Termination

/-!
# Total contracts

A contract is about the result of a run, and says nothing if there is none. The run
of a parser that refers to no names always has one. So a contract that leaves open a
single ending, proved by the rules of the combinators, is all that there is to say
about a lexeme: it is the ending of every run that has budget enough for its
repetitions.
-/

namespace Descent.Parser

variable {ν : Type} {ρ : ν → Type} {α β γ : Type}

/-! ## Derived combinators -/

section Derived

variable {env : ∀ n, Reading (ρ n)} {p : Parser ν ρ α} {q : Parser ν ρ β} {r : Parser ν ρ γ}
  {c : Cursor} {F : Failure → Prop} {E : Fault → Prop}

theorem meets_map {f : α → β} {Q : β → Cursor → Prop}
    (hp : (p.reading env).Meets c (fun value after => Q (f value) after) F E) :
    ((p.map f).reading env).Meets c Q F E :=
  Reading.Meets.convert (hp.imp_match fun _ _ h => Action.meets_pure h)

theorem meets_sequence2 {Q : Tuple [α, β] → Cursor → Prop}
    (hp : (p.reading env).Meets c (fun a d =>
      (q.reading env).Meets d (fun b e => Q (a, b, ()) e) F E) F E) :
    ((sequence2 p q).reading env).Meets c Q F E :=
  hp.onMatch fun _ _ => meets_map

theorem meets_extend {types : List Type} {p : Parser ν ρ (Tuple types)}
    {Q : Tuple (types ++ [β]) → Cursor → Prop}
    (hp : (p.reading env).Meets c (fun values d =>
      (q.reading env).Meets d (fun value e => Q (values.concat value) e) F E) F E) :
    ((extend p q).reading env).Meets c Q F E :=
  hp.onMatch fun _ _ => meets_map

theorem meets_sequence3 {Q : Tuple [α, β, γ] → Cursor → Prop}
    (hp : (p.reading env).Meets c (fun a d =>
      (q.reading env).Meets d (fun b e =>
        (r.reading env).Meets e (fun x after => Q (a, b, x, ()) after) F E) F E) F E) :
    ((sequence3 p q r).reading env).Meets c Q F E :=
  meets_extend (meets_sequence2 hp)

/-- A literal of a single unit looks at the next unit alone. -/
theorem meets_literal_singleton {unit : Char} {Q : String → Cursor → Prop}
    (hQ : c.current? = some unit → Q (String.singleton unit) (c.skip 1))
    (hF : c.current? ≠ some unit → F ⟨Mismatch.message
      (Mismatch.expectedText (String.singleton unit)) (c.take 1) c.pos, c⟩) :
    ((literal (String.singleton unit) : Parser ν ρ String).reading env).Meets c Q F E := by
  have hstarts : (String.singleton unit).toList <+: c.remaining ↔ c.current? = some unit := by
    rw [Cursor.current?_eq_head?]
    cases c.remaining with
    | nil => simp
    | cons next rest => simp [List.cons_prefix_cons, eq_comm]
  have hlength : (String.singleton unit).length = 1 := String.length_singleton
  refine Reading.meets_literal (fun h => ?_) fun h => ?_ <;> rw [hlength]
  · exact hQ (hstarts.1 h)
  · exact hF (mt hstarts.2 h)

end Derived

/-! ## Known endings -/

variable {g : Grammar ν ρ} {p : Parser ν ρ α} {c : Cursor} {ending : Ending (Outcome α)}

/-- Whether a run ends in the given way, from every budget beyond the size of the
source on. -/
def Ends (p : Parser ν ρ α) (g : Grammar ν ρ) (c : Cursor) (ending : Ending (Outcome α)) : Prop :=
  ∀ s : Settings, c.source.size < s.budget → (p.runAt g c s).ending = ending

/-- A parser that makes use of none of the features comes to an end, so it ends in the
one way that its contract leaves open. -/
theorem ends_of_meets (hp : p.Avoids Set.univ)
    (hmeets : ∀ env, (p.reading env).Meets c
      (fun value after => .returned (.matched value after) = ending)
      (fun failure => .returned (.failed failure) = ending) (fun fault => .raised fault = ending)) :
    p.Ends g c ending := by
  intro s hbudget
  have hforeign : p.Avoids (Feature.foreign ∅) := hp.subset (Set.subset_univ _)
  have hsettles : (p.runAt g c s).Settles False [] :=
    settles_reading hbudget nofun nofun hforeign rfl
  have hended : (p.runAt g c s).ending ≠ .exhausted := hsettles.ending_ne False.elim
  have hends : (p.runAt g c s).ending.Meets (Outcome.Meets _ _) _ := hmeets (g.names s.budget) s
  cases hrun : (p.runAt g c s).ending with
  | returned outcome =>
    rw [hrun] at hends
    cases outcome with
    | matched value after => exact hends
    | failed failure => exact hends
  | raised fault =>
    rw [hrun] at hends
    exact hends
  | exhausted => exact absurd hrun hended

end Descent.Parser
