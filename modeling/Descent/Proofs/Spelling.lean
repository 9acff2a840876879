-- SUMMARY: A text is matched as a whole exactly where it is matched unit by unit.
import Descent.Proofs.Total

/-!
# Spelling out

A text may be compared with the source as a whole, or by one test for each of its units. Both
ways match at the same cursors, with the same text, and end at the same cursor. Where they
fail, the tests have come as far as the first unit that is not there, so they have to go back
to fail in place, as the comparison does; and they report that unit, while the comparison
reports as much of the source as the text is long.
-/

namespace Descent.Parser

variable {ν : Type} {ρ : ν → Type} {expected : Char → String} {units : List Char} {c : Cursor}

/-- A test for each unit of a text, in order, and back to the start if one fails. -/
def spelledOut (expected : Char → String) (text : String) : Parser ν ρ String :=
  ((sequenceAll (text.toList.map fun unit => oneOf (expected unit) (· == unit))).map
    String.ofList).rewind

/-! ## The first unit that is not there -/

/-- What the first test reports that fails, if there is one. -/
def firstMissing? (expected : Char → String) : List Char → Cursor → Option String
  | [], _ => none
  | unit :: units, c =>
    if c.current? = some unit then firstMissing? expected units (c.skip 1)
    else some (missingUnit (expected unit) c)

/-- No unit is missing exactly where the source goes on with all of them. -/
theorem firstMissing?_eq_none_iff : firstMissing? expected units c = none ↔ units <+: c.remaining := by
  induction units generalizing c with
  | nil => simp [firstMissing?]
  | cons unit units ih =>
    rw [firstMissing?]
    by_cases hcurrent : c.current? = some unit
    · obtain ⟨rest, hrest⟩ := Cursor.current?_eq_some_iff.1 hcurrent
      rw [if_pos hcurrent, ih, Cursor.remaining_skip, hrest, List.cons_prefix_cons]
      simp
    · rw [if_neg hcurrent]
      refine iff_of_false nofun fun ⟨rest, hrest⟩ => hcurrent ?_
      exact Cursor.current?_eq_some_iff.2 ⟨units ++ rest, hrest.symm⟩

section Contracts

variable {env : ∀ n, Reading (ρ n)} {F : Failure → Prop} {E : Fault → Prop}

/-- The tests read all units, or stop at the first one that is not there. -/
theorem meets_units {Q : List Char → Cursor → Prop}
    (hQ : firstMissing? expected units c = none → Q units (c.skip units.length))
    (hF : ∀ message d, firstMissing? expected units c = some message → c ≤ d → F ⟨message, d⟩) :
    ((sequenceAll (units.map fun unit => oneOf (expected unit) (· == unit)) :
      Parser ν ρ (List Char)).reading env).Meets c Q F E := by
  induction units generalizing c Q with
  | nil => exact meets_sequenceAll_nil (by simpa using hQ rfl)
  | cons unit units ih =>
    rw [firstMissing?] at hQ hF
    rw [List.map_cons]
    refine meets_sequenceAll_cons (meets_oneOf_missing ?_ ?_)
    · intro next rest hrest hnext
      obtain rfl : next = unit := beq_iff_eq.1 hnext
      have hcurrent : c.current? = some next := Cursor.current?_eq_some_iff.2 ⟨rest, hrest⟩
      rw [if_pos hcurrent] at hQ hF
      refine ih (fun hnone => ?_) fun message d hmessage hd => ?_
      · have hread := hQ hnone
        rwa [List.length_cons, Nat.add_comm, ← Cursor.skip_skip] at hread
      · exact hF message d hmessage ((c.le_skip 1).trans hd)
    · intro hstop
      have hcurrent : c.current? ≠ some unit := by
        intro hcurrent
        obtain ⟨rest, hrest⟩ := Cursor.current?_eq_some_iff.1 hcurrent
        simp [hrest] at hstop
      rw [if_neg hcurrent] at hF
      exact hF _ c rfl (le_refl c)

theorem meets_spelledOut {text : String} {Q : String → Cursor → Prop}
    (hQ : firstMissing? expected text.toList c = none → Q text (c.skip text.length))
    (hF : ∀ message, firstMissing? expected text.toList c = some message → F ⟨message, c⟩) :
    ((spelledOut expected text : Parser ν ρ String).reading env).Meets c Q F E := by
  refine Reading.Meets.rewind_of_le (meets_map (meets_units (fun hnone => ?_) ?_))
  · rw [String.ofList_toList, String.length_toList]
    exact hQ hnone
  · exact fun message d hsome hd => ⟨hd, hF message hsome⟩

end Contracts

theorem spelledOut_avoids {excluded : Set (Feature ν)} {text : String} :
    (spelledOut expected text : Parser ν ρ String).Avoids excluded := by
  refine avoids_sequenceAll.2 fun p hp => ?_
  obtain ⟨unit, -, rfl⟩ := List.mem_map.1 hp
  trivial

theorem ends_spelledOut (expected : Char → String) (text : String) (g : Grammar ν ρ) (c : Cursor) :
    (spelledOut expected text : Parser ν ρ String).Ends g c (.returned
      (match firstMissing? expected text.toList c with
      | none => .matched text (c.skip text.length)
      | some message => .failed ⟨message, c⟩)) := by
  refine ends_of_meets spelledOut_avoids fun env => meets_spelledOut (fun hnone => ?_) ?_
  · rw [hnone]
  · intro message hsome
    rw [hsome]

/-! ## The whole text -/

/-- The report on a text that is not there quotes it, and what was compared with it. -/
theorem message_expectedText (text actual : String) (pos : Nat) :
    Mismatch.message (Mismatch.expectedText text) actual pos =
      "expected \"" ++ text ++ "\"; actual: \"" ++ actual ++ "\"; index=" ++ toString pos := by
  have hquoted : Mismatch.expectedText text ++ "; actual: \"" =
      "expected \"" ++ text ++ "\"; actual: \"" := by
    simp [Mismatch.expectedText, toString, String.append_assoc]
  rw [Mismatch.message_eq, hquoted]
  rfl

theorem ends_literal (text : String) (g : Grammar ν ρ) (c : Cursor) :
    (literal text : Parser ν ρ String).Ends g c (.returned
      (if text.toList <+: c.remaining then .matched text (c.skip text.length)
      else .failed ⟨"expected \"" ++ text ++ "\"; actual: \"" ++ c.take text.length ++
        "\"; index=" ++ toString c.pos, c⟩)) := by
  refine ends_of_meets trivial fun env => Reading.meets_literal (fun hstarts => ?_) fun hother => ?_
  · rw [if_pos hstarts]
  · rw [if_neg hother, message_expectedText]

/-- What is compared with a text is as much of the rest of the source as the text is long, or
all of it if that is less. -/
theorem take_starts (c : Cursor) (n : Nat) :
    (c.take n).toList <+: c.remaining ∧ (c.take n).length = min n c.remaining.length := by
  rw [← String.length_toList, c.take_eq, String.toList_ofList]
  exact ⟨List.take_prefix _ _, List.length_take⟩

/-- A text is matched as a whole exactly where it is matched unit by unit. Where the source
goes on with it, both ways match with the text, and the cursor is behind it. Everywhere else
both fail in place, and the report on the whole text quotes the part of the source that was
compared with it, which is another text. -/
theorem literal_spelled_out (expected : Char → String) (text : String) (g : Grammar ν ρ)
    (c : Cursor) :
    (text.toList <+: c.remaining ∧ ∃ after, c.advance text.length = .ok after ∧
      (literal text : Parser ν ρ String).Ends g c (.returned (.matched text after)) ∧
      (spelledOut expected text : Parser ν ρ String).Ends g c (.returned (.matched text after))) ∨
    (¬ text.toList <+: c.remaining ∧ ∃ part message, part.toList <+: c.remaining ∧
      part.length = min text.length c.remaining.length ∧ part ≠ text ∧
      (literal text : Parser ν ρ String).Ends g c (.returned (.failed ⟨"expected \"" ++ text ++
        "\"; actual: \"" ++ part ++ "\"; index=" ++ toString c.pos, c⟩)) ∧
      (spelledOut expected text : Parser ν ρ String).Ends g c
        (.returned (.failed ⟨message, c⟩))) := by
  have hwhole : (literal text : Parser ν ρ String).Ends g c _ := ends_literal text g c
  have hunits : (spelledOut expected text : Parser ν ρ String).Ends g c _ :=
    ends_spelledOut expected text g c
  by_cases hstarts : text.toList <+: c.remaining
  · rw [if_pos hstarts] at hwhole
    rw [firstMissing?_eq_none_iff.2 hstarts] at hunits
    refine .inl ⟨hstarts, _, ?_, hwhole, hunits⟩
    simpa only [String.length_toList] using Cursor.advance_eq_skip hstarts
  · obtain ⟨message, hmessage⟩ : ∃ message, firstMissing? expected text.toList c = some message :=
      Option.ne_none_iff_exists'.1 (mt firstMissing?_eq_none_iff.1 hstarts)
    rw [if_neg hstarts] at hwhole
    rw [hmessage] at hunits
    obtain ⟨hpart, hlength⟩ := take_starts c text.length
    exact .inr ⟨hstarts, _, message, hpart, hlength, mt (c.take_length_eq_iff text).1 hstarts,
      hwhole, hunits⟩

end Descent.Parser
