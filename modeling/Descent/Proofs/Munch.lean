-- SUMMARY: Runs of units of one class: what a single test and its repetition read.
import Descent.Proofs.Contract
import Descent.Parser.Combinators

/-!
# Runs of units

A test of a single unit reads the next unit if it is of a class. Repeated, it
reads the longest run of such units: the repetition neither stops inside of the
run nor reads on behind it.
-/

namespace Descent.Parser

variable {ν : Type} {ρ : ν → Type} {env : ∀ n, Reading (ρ n)} {expected : String}
  {units : Char → Bool} {c : Cursor} {F : Failure → Prop} {E : Fault → Prop}

/-- What is behind a run of units does not add to it if it does not go on with one. -/
theorem takeWhile_append_of_head {run rest : List Char} (hrun : ∀ unit ∈ run, units unit = true)
    (hrest : ∀ unit ∈ rest.head?, units unit = false) : (run ++ rest).takeWhile units = run := by
  have hnone : rest.takeWhile units = [] := by
    cases rest with
    | nil => rfl
    | cons unit rest => simp [hrest unit rfl]
  rw [List.takeWhile_append_of_pos hrun, hnone, List.append_nil]

/-- Behind the longest run of units of a class there is a unit of none, or nothing. -/
theorem exists_takeWhile_append (units : Char → Bool) (text : List Char) :
    ∃ rest, text.takeWhile units ++ rest = text ∧ ∀ unit ∈ rest.head?, units unit = false := by
  refine ⟨text.dropWhile units, List.takeWhile_append_dropWhile, fun unit hunit => ?_⟩
  have hstop := List.head?_dropWhile_not units text
  rw [Option.mem_def.1 hunit] at hstop
  simpa using hstop

/-- What a test of a single unit reports at a cursor where it fails: that no unit is
left, or which one is there. -/
def missingUnit (expected : String) (c : Cursor) : String :=
  match c.current? with
  | none => Mismatch.noUnitLeft
  | some unit => Mismatch.message expected (String.singleton unit) c.pos

theorem missingUnit_eq (expected : String) (c : Cursor) :
    missingUnit expected c =
      match c.current? with
      | none => "expected unit; end of input"
      | some unit => expected ++ "; actual: \"" ++ String.singleton unit ++ "\"; index=" ++
          toString c.pos := by
  unfold missingUnit
  cases c.current? with
  | none => rfl
  | some unit => exact Mismatch.message_eq expected (String.singleton unit) c.pos

theorem meets_oneOf_missing {Q : Char → Cursor → Prop}
    (hQ : ∀ unit rest, c.remaining = unit :: rest → units unit = true → Q unit (c.skip 1))
    (hF : c.remaining.takeWhile units = [] → F ⟨missingUnit expected c, c⟩) :
    ((oneOf expected units : Parser ν ρ Char).reading env).Meets c Q F E := by
  refine Reading.Meets.rewind_of_le (Reading.Meets.check (Reading.meets_anyUnit ?_ ?_))
  · intro unit rest hrest
    refine Action.meets_pure ⟨fun htrue => hQ unit rest hrest htrue, fun hfalse => ?_⟩
    have hcurrent : c.current? = some unit := Cursor.current?_eq_some_iff.2 ⟨rest, hrest⟩
    refine Action.meets_pure ⟨c.le_skip 1, ?_⟩
    simpa only [missingUnit, hcurrent] using hF (by simp [hrest, hfalse])
  · intro hrest
    have hcurrent : c.current? = none := by simp [Cursor.current?_eq_head?, hrest]
    refine ⟨le_refl c, ?_⟩
    simpa only [missingUnit, hcurrent] using hF (by simp [hrest])

theorem meets_oneOf {Q : Char → Cursor → Prop}
    (hQ : ∀ unit rest, c.remaining = unit :: rest → units unit = true → Q unit (c.skip 1))
    (hF : ∀ failure, failure.cursor = c → c.remaining.takeWhile units = [] → F failure) :
    ((oneOf expected units : Parser ν ρ Char).reading env).Meets c Q F E :=
  meets_oneOf_missing hQ (hF _ rfl)

theorem meets_zeroOrMore_oneOf {Q : List Char → Cursor → Prop}
    (hQ : Q (c.remaining.takeWhile units) (c.skip (c.remaining.takeWhile units).length)) :
    ((oneOf expected units : Parser ν ρ Char).zeroOrMore.reading env).Meets c Q F E := by
  refine Reading.meets_zeroOrMore (fun values d => (∀ unit ∈ values, units unit = true) ∧
    c.remaining = values ++ d.remaining ∧ d = c.skip values.length) ⟨by simp, rfl, by simp⟩ ?_
  rintro values d ⟨hvalues, hsplit, rfl⟩
  refine meets_oneOf ?_ ?_
  · intro unit rest hrest hunit
    have hmoved : ¬ ((c.skip values.length).skip 1).samePos (c.skip values.length) = true := by
      rw [Cursor.samePos_skip_iff, hrest]
      simp
    rw [if_neg hmoved]
    refine ⟨?_, ?_, by simp⟩
    · intro other hother
      rcases List.mem_append.1 hother with hmem | hmem
      · exact hvalues other hmem
      · exact List.mem_singleton.1 hmem ▸ hunit
    · rw [hsplit, Cursor.remaining_skip (c.skip values.length), hrest]
      simp
  · intro failure _ hstop
    have hrun : c.remaining.takeWhile units = values := by
      rw [hsplit, List.takeWhile_append_of_pos hvalues, hstop, List.append_nil]
    rw [hrun] at hQ
    exact hQ

theorem meets_oneOrMore_oneOf_missing {Q : List Char → Cursor → Prop}
    (hQ : c.remaining.takeWhile units ≠ [] →
      Q (c.remaining.takeWhile units) (c.skip (c.remaining.takeWhile units).length))
    (hF : c.remaining.takeWhile units = [] → F ⟨missingUnit expected c, c⟩) :
    ((oneOf expected units : Parser ν ρ Char).oneOrMore.reading env).Meets c Q F E := by
  refine Reading.Meets.onMatch (meets_oneOf_missing (fun unit rest hrest hunit => ?_) hF)
    fun _ _ h => h
  refine Reading.Meets.convert (meets_zeroOrMore_oneOf (Action.meets_pure ?_))
  have hrun : c.remaining.takeWhile units = unit :: (c.skip 1).remaining.takeWhile units := by
    simp [hrest, hunit]
  rw [hrun, List.length_cons, Nat.add_comm, ← Cursor.skip_skip] at hQ
  exact hQ nofun

theorem meets_oneOrMore_oneOf {Q : List Char → Cursor → Prop}
    (hQ : c.remaining.takeWhile units ≠ [] →
      Q (c.remaining.takeWhile units) (c.skip (c.remaining.takeWhile units).length))
    (hF : ∀ failure, failure.cursor = c → c.remaining.takeWhile units = [] → F failure) :
    ((oneOf expected units : Parser ν ρ Char).oneOrMore.reading env).Meets c Q F E :=
  meets_oneOrMore_oneOf_missing hQ (hF _ rfl)

end Descent.Parser
