-- SUMMARY: The parser of a parsing expression answers exactly what the expression derives.
import Descent.Grammar
import Descent.Proofs.Reach
import Descent.Proofs.Peg.Soundness

/-!
# Adequacy of parsing expressions

Whatever is derived is answered, by induction on the derivation: each part of a
derivation needs some depth and some budget, and so the whole does. Together with
soundness, the parser of an expression answers exactly what the expression
derives. Where it derives nothing, the parser never answers: it goes on without
end, or a repetition is refused because its body consumes nothing.
-/

namespace Descent

variable {ν φ : Type}

namespace Peg

/-! ## Enough depth and budget -/

/-- Whether something holds for all depths and settings with enough of both depth
and budget. -/
def Eventually (P : Nat → Settings → Prop) : Prop :=
  ∃ bound, ∀ depth s, bound ≤ depth → bound ≤ s.budget → P depth s

namespace Eventually

variable {P P' : Nat → Settings → Prop}

theorem of_forall (h : ∀ depth s, P depth s) : Eventually P := ⟨0, fun depth s _ _ => h depth s⟩

theorem mono (h : Eventually P) (hP : ∀ depth s, P depth s → P' depth s) : Eventually P' := by
  obtain ⟨bound, hbound⟩ := h
  exact ⟨bound, fun depth s hdepth hbudget => hP depth s (hbound depth s hdepth hbudget)⟩

theorem and (h : Eventually P) (h' : Eventually P') :
    Eventually fun depth s => P depth s ∧ P' depth s := by
  obtain ⟨bound, hbound⟩ := h
  obtain ⟨bound', hbound'⟩ := h'
  have hle := Nat.le_max_left bound bound'
  have hle' := Nat.le_max_right bound bound'
  refine ⟨max bound bound', fun depth s hdepth hbudget => ⟨?_, ?_⟩⟩
  · exact hbound depth s (Nat.le_trans hle hdepth) (Nat.le_trans hle hbudget)
  · exact hbound' depth s (Nat.le_trans hle' hdepth) (Nat.le_trans hle' hbudget)

theorem budget (bound : Nat) : Eventually fun _ s => bound ≤ s.budget := ⟨bound, fun _ _ _ h => h⟩

end Eventually

variable {rules : ν → Peg ν} {e first second : Peg ν} {c d : Cursor} {last : Option Cursor}

variable (φ) in
/-- The reading of an expression with nonterminals down to a depth. -/
def readingAt (rules : ν → Peg ν) (e : Peg ν) (depth : Nat) : Reading (Value φ) :=
  e.toParser.reading ((grammar rules).names depth)

variable (φ) in
/-- Whether the runs of an expression return, all in the same way. -/
def Answers (rules : ν → Peg ν) (e : Peg ν) (c : Cursor) (last : Option Cursor) : Prop :=
  Eventually fun depth s => (readingAt φ rules e depth).Reaches s c last

variable (φ) in
/-- Whether the runs of an expression return, all in the same way; those of the
loop of a repetition, from some number of turns on. -/
def Holds (rules : ν → Peg ν) : Peg ν → Cursor → Option Cursor → Prop
  | .star e, c, last => ∃ bound, Eventually fun depth s =>
    ∀ turns, bound ≤ turns → (readingAt φ rules e depth).Repeats s turns c last
  | e, c, last => Answers φ rules e c last

theorem Holds.answers (h : Holds φ rules e c last) : Answers φ rules e c last := by
  cases e with
  | star e =>
    obtain ⟨bound, hloop⟩ := h
    refine (hloop.and (.budget bound)).mono fun depth s h => ?_
    exact (h.1 s.budget h.2).reaches.map
  | _ => exact h

theorem Answers.seq (hfirst : Answers φ rules first c (some d))
    (hsecond : Answers φ rules second d last) : Answers φ rules (.seq first second) c last :=
  (Eventually.and hfirst hsecond).mono fun _ _ h => (h.1.onMatch fun _ => h.2.map).map

theorem Answers.seq_first (hfirst : Answers φ rules first c none) :
    Answers φ rules (.seq first second) c none :=
  Eventually.mono hfirst fun _ _ h => h.onMatch_failed.map

theorem Answers.choice_first (hfirst : Answers φ rules first c (some d)) :
    Answers φ rules (.choice first second) c (some d) :=
  Eventually.mono hfirst fun _ _ h => h.rewind_orElse

theorem Answers.choice_second (hfirst : Answers φ rules first c none)
    (hsecond : Answers φ rules second c last) : Answers φ rules (.choice first second) c last :=
  (Eventually.and hfirst hsecond).mono fun _ _ h => h.1.rewind_orElse_failed h.2

theorem Answers.option_some (h : Answers φ rules e c (some d)) :
    Answers φ rules (.option e) c (some d) :=
  Eventually.mono h fun _ _ h => h.rewind_orElse

theorem Answers.option_none (h : Answers φ rules e c none) :
    Answers φ rules (.option e) c (some c) :=
  Eventually.mono h fun _ _ h => h.rewind_orElse_failed ⟨.matched .nothing c, rfl, rfl⟩

theorem Answers.ref {n : ν} (h : Answers φ rules (rules n) c last) :
    Answers φ rules (.ref n) c last := by
  obtain ⟨bound, h⟩ := h
  refine ⟨bound + 1, fun depth s hdepth hbudget => ?_⟩
  cases depth with
  | zero => exact absurd hdepth (Nat.not_succ_le_zero bound)
  | succ depth => exact h depth s (Nat.le_of_succ_le_succ hdepth) (Nat.le_of_succ_le hbudget)

theorem Answers.star_stop (h : Answers φ rules e c none) :
    Holds φ rules (.star e) c (some c) := by
  refine ⟨1, Eventually.mono h fun depth s h turns hturns => ?_⟩
  obtain ⟨turns, rfl⟩ := Nat.exists_eq_add_of_le' hturns
  exact h.stop

/-- If the body consumed nothing, the repetition from there on, which is the same
one, would be refused. -/
theorem Answers.star_more (hle : c ≤ d) (he : Answers φ rules e c (some d))
    (hstar : Holds φ rules (.star e) d last) : Holds φ rules (.star e) c last := by
  obtain ⟨bound, hloop⟩ := hstar
  have hboth := Eventually.and he hloop
  have hmoved : ¬ d.samePos c = true := by
    intro hsame
    obtain rfl : d = c := Cursor.eq_of_le_of_samePos hle hsame
    obtain ⟨enough, h⟩ := hboth
    obtain ⟨hbody, hrest⟩ := h enough { budget := enough } (Nat.le_refl _) (Nat.le_refl _)
    exact hbody.refused (hrest bound (Nat.le_refl _))
  refine ⟨bound + 1, hboth.mono fun depth s h turns hturns => ?_⟩
  cases turns with
  | zero => exact absurd hturns (Nat.not_succ_le_zero bound)
  | succ turns => exact h.1.more hmoved (h.2 turns (Nat.le_of_succ_le_succ hturns))

variable (φ) in
/-- The induction on derivations. A repetition is put together turn by turn, so it
takes the statement about its loop. -/
theorem Derives.holds {input : List Char} {result : Option (List Char)}
    (h : Derives rules e input result) (c : Cursor) (hc : c.remaining = input) :
    Holds φ rules e c (result.map fun xs => c.skip xs.length) := by
  induction h generalizing c with
  | empty => exact .of_forall fun _ _ => ⟨.matched .nothing c, rfl, by simp [Outcome.end?]⟩
  | anyUnit =>
    exact .of_forall fun _ _ => (Reading.Reaches.of_eq (Reading.anyUnit_matches hc)).map
  | anyUnit_end =>
    exact .of_forall fun _ _ => (Reading.Reaches.of_eq (Reading.anyUnit_fails hc)).map
  | oneOf hunit => exact .of_forall fun _ _ => (Reading.reaches_oneOf hc hunit).map
  | oneOf_other hunit => exact .of_forall fun _ _ => (Reading.reaches_oneOf_other hc hunit).map
  | oneOf_end => exact .of_forall fun _ _ => (Reading.reaches_oneOf_end hc).map
  | @literal text _ rest =>
    have hstarts : text.toList <+: c.remaining := ⟨rest, hc.symm⟩
    have hmatches := Reading.literal_matches hstarts
    rw [← String.length_toList] at hmatches
    exact .of_forall fun _ _ => (Reading.Reaches.of_eq hmatches).map
  | literal_other hother =>
    exact .of_forall fun _ _ => (Reading.Reaches.of_eq (Reading.literal_fails (hc ▸ hother))).map
  | @seq first second xs ys rest _ _ ihfirst ihsecond =>
    have hrest : (c.skip xs.length).remaining = ys ++ rest := by simp [hc]
    have hsecond : Answers φ rules second (c.skip xs.length)
        (some ((c.skip xs.length).skip ys.length)) := (ihsecond _ hrest).answers
    rw [Cursor.skip_skip, ← List.length_append] at hsecond
    exact (ihfirst c hc).answers.seq hsecond
  | seq_first _ ih => exact (ih c hc).answers.seq_first
  | @seq_second first second xs rest _ _ ihfirst ihsecond =>
    have hrest : (c.skip xs.length).remaining = rest := by simp [hc]
    exact (ihfirst c hc).answers.seq (ihsecond _ hrest).answers
  | choice_first _ ih => exact (ih c hc).answers.choice_first
  | choice_second _ _ ihfirst ihsecond =>
    exact (ihfirst c hc).answers.choice_second (ihsecond c hc).answers
  | option_some _ ih => exact (ih c hc).answers.option_some
  | option_none _ ih =>
    rw [Option.map_some, List.length_nil, c.skip_zero]
    exact (ih c hc).answers.option_none
  | @star_more e xs ys rest _ _ ih ihstar =>
    have hrest : (c.skip xs.length).remaining = ys ++ rest := by simp [hc]
    have hstar : Holds φ rules (.star e) (c.skip xs.length)
        (some ((c.skip xs.length).skip ys.length)) := ihstar _ hrest
    rw [Cursor.skip_skip, ← List.length_append] at hstar
    exact (ih c hc).answers.star_more (c.le_skip _) hstar
  | star_stop _ ih =>
    rw [Option.map_some, List.length_nil, c.skip_zero]
    exact (ih c hc).answers.star_stop
  | ref _ ih => exact (ih c hc).answers.ref

variable (φ) in
/-- Whatever is derived is answered within some budget. -/
theorem Derives.exists_run {result : Option (List Char)} (h : Derives rules e c.remaining result)
    (debug : Bool) : ∃ budget, Reading.Reaches
      ((e.toParser : Parser ν (fun _ => Value φ) (Value φ)).runAt (grammar rules))
      { debug, budget } c (result.map fun xs => c.skip xs.length) := by
  obtain ⟨bound, hbound⟩ := (h.holds φ c rfl).answers
  exact ⟨bound, hbound bound { debug, budget := bound } (Nat.le_refl _) (Nat.le_refl _)⟩

/-! ## Adequacy -/

/-- The units between two positions are the first ones behind the first position. -/
theorem extract_eq_take (c : Cursor) (j : Nat) :
    c.source.toList.extract c.pos j = c.remaining.take (j - c.pos) := by
  rw [List.extract_eq_take_drop]
  rfl

variable (φ) in
/-- The parser of an expression matches up to a position, given enough budget,
exactly if the expression consumes the units up to there, and fails exactly if the
expression fails. -/
theorem runs_iff_derives (rules : ν → Peg ν) (e : Peg ν) (c : Cursor) (debug : Bool) :
    (∀ j, (∃ budget value d,
        ((e.toParser : Parser ν (fun _ => Value φ) (Value φ)).runAt (grammar rules) c
          { debug, budget }).ending = .returned (.matched value d) ∧
        d.source = c.source ∧ d.pos = j) ↔
      c.pos ≤ j ∧ j ≤ c.source.size ∧
        Derives rules e c.remaining (some (c.source.toList.extract c.pos j))) ∧
    ((∃ budget failure,
        ((e.toParser : Parser ν (fun _ => Value φ) (Value φ)).runAt (grammar rules) c
          { debug, budget }).ending = .returned (.failed failure)) ↔
      Derives rules e c.remaining none) := by
  have hsound : ∀ budget, Sound rules e (readingAt φ rules e budget) := fun budget =>
    Sound.reading (Sound.names rules budget) e
  refine ⟨fun j => ⟨?_, ?_⟩, ?_, ?_⟩
  · rintro ⟨budget, value, d, hrun, -, rfl⟩
    obtain ⟨xs, rest, hc, rfl, hder⟩ : Consumes rules e c d :=
      (hsound budget c).of_returned hrun
    have hpos := Cursor.pos_skip_of_starts ⟨rest, hc.symm⟩
    refine ⟨(c.le_skip _).2, (c.skip _).pos_le, ?_⟩
    rw [extract_eq_take, hpos, Nat.add_sub_cancel_left, hc, List.take_left]
    exact hder
  · rintro ⟨hle, hsize, hder⟩
    rw [extract_eq_take] at hder
    have hlength : (c.remaining.take (j - c.pos)).length = j - c.pos := by
      rw [List.length_take, Cursor.length_remaining]
      omega
    obtain ⟨budget, outcome, hrun, hlast⟩ := hder.exists_run φ debug
    cases outcome with
    | matched value d =>
      obtain rfl : d = c.skip (c.remaining.take (j - c.pos)).length := Option.some.inj hlast
      refine ⟨budget, value, _, hrun, rfl, ?_⟩
      rw [Cursor.pos_skip_of_starts (List.take_prefix _ _), hlength]
      omega
    | failed failure => cases hlast
  · rintro ⟨budget, failure, hrun⟩
    exact (hsound budget c).of_returned hrun
  · intro hder
    obtain ⟨budget, outcome, hrun, hlast⟩ := hder.exists_run φ debug
    cases outcome with
    | matched value d => cases hlast
    | failed failure => exact ⟨budget, failure, hrun⟩

end Peg

end Descent
