-- SUMMARY: Whatever the parser of a parsing expression answers is derived.
import Descent.Proofs.Munch
import Descent.Proofs.Peg.Derivation

/-!
# Soundness of parsing expressions

Every answer of the parser of an expression is one that the expression derives.
That is a contract with one rule for each construct. It says nothing about
expressions without a derivation: their parsers never answer, and a contract is
about answers alone.
-/

namespace Descent.Peg

variable {ν φ α : Type} {rules : ν → Peg ν}

/-- Whether an expression consumes the units from one cursor to another one. -/
def Consumes (rules : ν → Peg ν) (e : Peg ν) (c d : Cursor) : Prop :=
  ∃ xs rest, c.remaining = xs ++ rest ∧ d = c.skip xs.length ∧
    Derives rules e (xs ++ rest) (some xs)

theorem Consumes.imp {e e' : Peg ν} {c d : Cursor} (h : Consumes rules e c d)
    (he : ∀ xs, Derives rules e c.remaining (some xs) → Derives rules e' c.remaining (some xs)) :
    Consumes rules e' c d := by
  obtain ⟨xs, rest, hc, hd, hxs⟩ := h
  rw [hc] at he
  exact ⟨xs, rest, hc, hd, he xs hxs⟩

/-- Whether a reading answers only what an expression derives. -/
def Sound (rules : ν → Peg ν) (e : Peg ν) (p : Reading α) : Prop :=
  ∀ c, p.Meets c (fun _ d => Consumes rules e c d) (fun _ => Derives rules e c.remaining none)
    (fun _ => True)

namespace Sound

variable {e first second : Peg ν} {p q : Reading α}

theorem map {β : Type} {f : α → β} (hp : Sound rules e p) :
    Sound rules e (p.convert fun value => .ok (f value)) := by
  intro c
  exact Reading.Meets.convert ((hp c).imp_match fun _ _ h => Action.meets_pure h)

theorem seq {β : Type} {next : α → Reading β} (hp : Sound rules first p)
    (hnext : ∀ value, Sound rules second (next value)) :
    Sound rules (.seq first second) (p.onMatch next) := by
  intro c
  refine ((hp c).imp_failure fun _ h => .seq_first h).onMatch ?_
  rintro value _ ⟨xs, rest, hc, rfl, hxs⟩
  have hrest : (c.skip xs.length).remaining = rest := by simp [hc]
  refine (hnext value _).imp ?_ fun _ h => ?_
  · rintro _ _ ⟨ys, zs, hd, rfl, hys⟩
    rw [hrest] at hd
    subst hd
    exact ⟨xs ++ ys, zs, by simp [hc], by simp, by simpa using hxs.seq hys⟩
  · rw [hc]
    rw [hrest] at h
    exact .seq_second hxs h

theorem choice (hp : Sound rules first p) (hq : Sound rules second q) :
    Sound rules (.choice first second) (p.rewind.orElse q) := by
  intro c
  refine Reading.Meets.rewind_orElse ((hp c).imp (fun _ _ h => ?_) fun _ hnone => ?_)
  · exact h.imp fun _ => .choice_first
  · refine (hq c).imp (fun _ _ h => ?_) fun _ h => .choice_second hnone h
    exact h.imp fun _ => .choice_second hnone

theorem option {default : α} (hp : Sound rules e p) :
    Sound rules (.option e) (p.rewind.orElse (Reading.yield default)) := by
  intro c
  refine Reading.Meets.rewind_orElse ((hp c).imp (fun _ _ h => ?_) fun _ hnone => ?_)
  · exact h.imp fun _ => .option_some
  · exact Reading.meets_yield ⟨[], c.remaining, rfl, by simp, .option_none hnone⟩

/-- The invariant says what is derived from the start once it is known what is
derived from the cursor of the next turn on. -/
theorem star (hp : Sound rules e p) : Sound rules (.star e) p.zeroOrMore := by
  intro c
  refine Reading.meets_zeroOrMore (fun _ d => ∃ xs, c.remaining = xs ++ d.remaining ∧
    d = c.skip xs.length ∧ ∀ ys zs, d.remaining = ys ++ zs →
      Derives rules (.star e) (ys ++ zs) (some ys) →
        Derives rules (.star e) (xs ++ (ys ++ zs)) (some (xs ++ ys)))
    ⟨[], rfl, by simp, fun _ _ _ h => h⟩ ?_
  rintro _ d ⟨xs, hc, hd, hmore⟩
  refine (hp d).imp ?_ fun _ hnone => ?_
  · rintro _ _ ⟨ys, rest, hys, rfl, hder⟩
    split
    · trivial
    · have hrest : (d.skip ys.length).remaining = rest := by simp [hys]
      refine ⟨xs ++ ys, by rw [hc, hys, hrest, List.append_assoc], by simp [hd], ?_⟩
      rintro us vs huv hstar
      rw [hrest] at huv
      subst huv
      have hboth := hder.star_more hstar
      simpa using hmore (ys ++ us) vs (by simp [hys]) (by simpa using hboth)
  · refine ⟨xs, d.remaining, hc, hd, ?_⟩
    simpa using hmore [] d.remaining rfl (.star_stop hnone)

/-- The reading of an expression is sound if those of the nonterminals are. -/
theorem reading {env : ν → Reading (Value φ)} (henv : ∀ n, Sound rules (.ref n) (env n))
    (e : Peg ν) : Sound rules e (e.toParser.reading env) := by
  induction e with
  | empty => exact fun c => Reading.meets_yield ⟨[], c.remaining, rfl, by simp, .empty⟩
  | anyUnit =>
    refine map fun c => Reading.meets_anyUnit (fun unit rest hc => ?_) fun hc => ?_
    · exact ⟨[unit], rest, hc, rfl, .anyUnit⟩
    · exact hc ▸ .anyUnit_end
  | oneOf expected units =>
    refine map fun c => Parser.meets_oneOf (fun unit rest hc hunit => ?_) fun _ _ hstop => ?_
    · exact ⟨[unit], rest, hc, rfl, .oneOf hunit⟩
    · cases hc : c.remaining with
      | nil => exact .oneOf_end
      | cons unit rest =>
        refine .oneOf_other ?_
        cases hunit : units unit with
        | false => rfl
        | true => simp [hc, hunit] at hstop
  | literal text nonempty =>
    refine map fun c => Reading.meets_literal (fun hstarts => ?_) .literal_other
    obtain ⟨rest, hc⟩ := hstarts
    exact ⟨text.toList, rest, hc.symm, by rw [String.length_toList], .literal⟩
  | seq first second ihfirst ihsecond => exact map (ihfirst.seq fun _ => map ihsecond)
  | choice first second ihfirst ihsecond => exact ihfirst.choice ihsecond
  | option e ih => exact ih.option
  | star e ih => exact map ih.star
  | ref name => exact henv name

/-- What a nonterminal means is sound at every depth: at depth zero nothing is
answered. -/
theorem names (rules : ν → Peg ν) (depth : Nat) (n : ν) :
    Sound rules (.ref n) ((grammar rules).names depth n : Reading (Value φ)) := by
  induction depth generalizing n with
  | zero => exact fun _ _ => trivial
  | succ depth ih =>
    intro c
    refine (reading ih (rules n) c).imp (fun _ _ h => ?_) fun _ => .ref
    exact h.imp fun _ => .ref

end Sound

end Descent.Peg
