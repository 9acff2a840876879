-- SUMMARY: Words and blanks partition a text into its longest runs of units of one kind.
import Mathlib.Data.List.SplitBy
import Mathlib.Data.List.TakeWhile
import Descent.Proofs.Total
import Descent.Lexeme.Word

/-!
# Words and blanks

A unit is a blank or it is not, so every text is cut into its longest runs of units of one
kind in exactly one way. A word is such a run and so is a text of some blanks: where one
of the two fails, which is in place, the other one matches, as long as a unit is left. So
a repetition of both never matches in place, comes to the end of the source, and collects
those runs.
-/

namespace Descent.Lexeme

open Descent.Parser

variable {ν : Type} {ρ : ν → Type} {kind : Bool} {text run rest : List Char}

/-! ## Runs of one kind -/

/-- Whether a text has units, all of which are blanks, or none of which are. -/
def OfKind (blank : Bool) (run : List Char) : Prop := run ≠ [] ∧ ∀ unit ∈ run, isBlank unit = blank

/-- The longest runs of units of one kind, in order. -/
def runs (text : List Char) : List (List Char) := text.splitBy fun a b => isBlank a == isBlank b

@[simp] theorem runs_nil : runs [] = [] := rfl

@[simp] theorem flatten_runs (text : List Char) : (runs text).flatten = text :=
  List.flatten_splitBy _ text

theorem isChain_kind_iff : (run.IsChain fun a b => (isBlank a == isBlank b) = true) ↔
    ∀ first ∈ run.head?, ∀ unit ∈ run, isBlank unit = isBlank first := by
  simp only [beq_iff_eq]
  rw [← List.isChain_map (R := Eq) isBlank, List.isChain_eq_iff_eq_replicate]
  simp [List.eq_replicate_iff]

theorem OfKind.isChain (h : OfKind kind run) :
    run.IsChain fun a b => (isBlank a == isBlank b) = true := by
  refine isChain_kind_iff.2 fun first hfirst unit hunit => ?_
  rw [h.2 unit hunit, h.2 first (List.mem_of_mem_head? hfirst)]

theorem OfKind.of_isChain (hne : run ≠ [])
    (h : run.IsChain fun a b => (isBlank a == isBlank b) = true) :
    OfKind (isBlank (run.head hne)) run :=
  ⟨hne, fun unit hunit => isChain_kind_iff.1 h _ (List.head_mem_head? hne) unit hunit⟩

/-- A run is followed by the runs of what is behind it, if that begins with the other kind. -/
theorem runs_append (hrun : OfKind kind run) (hrest : ∀ unit ∈ rest.head?, isBlank unit ≠ kind) :
    runs (run ++ rest) = run :: runs rest := by
  have hcut : ∀ a ∈ run.getLast?, ∀ b ∈ rest.head?, (isBlank a == isBlank b) = false := by
    intro a ha b hb
    rw [hrun.2 a (List.mem_of_mem_getLast? ha), beq_eq_false_iff_ne]
    exact (hrest b hb).symm
  rw [runs, List.splitBy_append hcut, List.splitBy_of_isChain hrun.1 hrun.isChain]
  rfl

theorem OfKind.eq {kind' : Bool} (h : OfKind kind run) (h' : OfKind kind' run) : kind = kind' := by
  obtain ⟨unit, hunit⟩ := List.exists_mem_of_ne_nil run h.1
  rw [← h.2 unit hunit, h'.2 unit hunit]

theorem exists_kind_of_mem (h : run ∈ runs text) : ∃ blank, OfKind blank run :=
  ⟨_, .of_isChain (List.ne_nil_of_mem_splitBy h) (List.isChain_of_mem_splitBy h)⟩

/-- Each run is of the other kind than the one before it. -/
theorem runs_alternate (text : List Char) :
    (runs text).IsChain fun earlier later => ∃ blank, OfKind blank earlier ∧ OfKind (!blank) later := by
  refine (List.isChain_getLast_head_splitBy _ text).imp_of_mem_imp ?_
  rintro earlier later hearlier hlater ⟨hne, hne', hdiffer⟩
  obtain ⟨blank, hkind⟩ := exists_kind_of_mem hearlier
  obtain ⟨blank', hkind'⟩ := exists_kind_of_mem hlater
  have hother : blank' = !blank := by
    rw [hkind.2 _ (List.getLast_mem hne), hkind'.2 _ (List.head_mem hne')] at hdiffer
    exact Bool.eq_not.2 (beq_eq_false_iff_ne.1 hdiffer).symm
  exact ⟨blank, hkind, hother ▸ hkind'⟩

/-- Whether what stands between two texts is a run of one kind that goes on in neither of
them. -/
structure LongestRun (blank : Bool) (before run after : List Char) : Prop where
  kind : OfKind blank run
  begins : ∀ unit ∈ before.getLast?, isBlank unit ≠ blank
  ends : ∀ unit ∈ after.head?, isBlank unit ≠ blank

/-- A run of a text stands in it as a longest run. -/
theorem longestRun_of_runs {blank : Bool} {front back : List (List Char)}
    (hruns : runs text = front ++ run :: back) (hkind : OfKind blank run) :
    LongestRun blank front.flatten run back.flatten := by
  obtain ⟨-, hback, hjoint⟩ := List.isChain_append.1 (hruns ▸ runs_alternate text)
  refine ⟨hkind, fun unit hunit => ?_, fun unit hunit => ?_⟩
  · -- the last unit in front of the run is one of the run before it
    rcases List.eq_nil_or_concat front with rfl | ⟨others, earlier, rfl⟩
    · cases hunit
    · obtain ⟨other, hearlier, hrun⟩ := hjoint earlier (by simp) run rfl
      rw [List.concat_eq_append, List.flatten_concat,
        List.getLast?_append_of_ne_nil _ hearlier.1] at hunit
      rw [hearlier.2 unit (List.mem_of_mem_getLast? hunit), hkind.eq hrun]
      exact (Bool.not_ne_self other).symm
  · cases back with
    | nil => cases hunit
    | cons later others =>
      obtain ⟨other, hrun, hlater⟩ := hback.rel_head? rfl
      rw [List.flatten_cons, List.head?_append_of_ne_nil _ hlater.1] at hunit
      rw [hlater.2 unit (List.mem_of_mem_head? hunit), hkind.eq hrun]
      exact Bool.not_ne_self other

/-- A longest run is a run of the text that it stands in. -/
theorem LongestRun.runs_eq {blank : Bool} {before after : List Char}
    (h : LongestRun blank before run after) :
    runs (before ++ run ++ after) = runs before ++ run :: runs after := by
  have hcut : ∀ a ∈ before.getLast?, ∀ b ∈ (run ++ after).head?,
      (isBlank a == isBlank b) = false := by
    intro a ha b hb
    rw [List.head?_append_of_ne_nil _ h.kind.1] at hb
    rw [h.kind.2 b (List.mem_of_mem_head? hb), beq_eq_false_iff_ne]
    exact h.begins a ha
  rw [← runs_append h.kind h.ends, List.append_assoc]
  exact List.splitBy_append hcut

theorem exists_runs_iff {blank : Bool} {before after : List Char} :
    (∃ front back, runs text = front ++ run :: back ∧ front.flatten = before ∧
        back.flatten = after ∧ OfKind blank run) ↔
      before ++ run ++ after = text ∧ LongestRun blank before run after := by
  constructor
  · rintro ⟨front, back, hruns, rfl, rfl, hkind⟩
    refine ⟨?_, longestRun_of_runs hruns hkind⟩
    rw [← flatten_runs text, hruns]
    simp
  · rintro ⟨rfl, hrun⟩
    exact ⟨runs before, runs after, hrun.runs_eq, flatten_runs before, flatten_runs after, hrun.kind⟩

/-! ## The repetition of words and blanks -/

/-- What is taken from a text as long as the units are of one kind is its first run. -/
theorem runs_takeWhile (hne : (text.takeWhile fun unit => isBlank unit == kind) ≠ []) :
    runs text = (text.takeWhile fun unit => isBlank unit == kind) ::
      runs (text.drop (text.takeWhile fun unit => isBlank unit == kind).length) := by
  obtain ⟨rest, hsplit, hbehind⟩ := exists_takeWhile_append (fun unit => isBlank unit == kind) text
  have hdrop := congrArg (List.drop (text.takeWhile fun unit => isBlank unit == kind).length) hsplit
  rw [List.drop_left] at hdrop
  have hrun : OfKind kind (text.takeWhile fun unit => isBlank unit == kind) :=
    ⟨hne, fun unit hunit => by simpa using List.mem_takeWhile_imp hunit⟩
  rw [← hdrop, ← runs_append hrun (by simpa using hbehind), hsplit]

section Contracts

variable {env : ∀ n, Reading (ρ n)} {c : Cursor} {F : Failure → Prop} {E : Fault → Prop}

theorem meets_run (kind : Bool) {expected : String} {units : Char → Bool} {Q : String → Cursor → Prop}
    (hunits : ∀ unit, units unit = (isBlank unit == kind))
    (hQ : ∀ run, run ≠ [] → runs c.remaining = run :: runs (c.skip run.length).remaining →
      Q (String.ofList run) (c.skip run.length))
    (hF : ∀ failure, failure.cursor = c →
      (c.remaining.takeWhile fun unit => isBlank unit == kind) = [] → F failure) :
    (((oneOf expected units).oneOrMore.map String.ofList : Parser ν ρ String).reading env).Meets c
      Q F E := by
  obtain rfl : units = fun unit => isBlank unit == kind := funext hunits
  refine meets_map (meets_oneOrMore_oneOf (fun hne => hQ _ hne ?_) hF)
  rw [Cursor.remaining_skip]
  exact runs_takeWhile hne

/-- A token is the first run of what is left; there is one as long as a unit is left. -/
theorem meets_token {Q : String → Cursor → Prop}
    (hQ : ∀ run, run ≠ [] → runs c.remaining = run :: runs (c.skip run.length).remaining →
      Q (String.ofList run) (c.skip run.length))
    (hF : ∀ failure, c.remaining = [] → F failure) :
    ((word.orElse someBlanks : Parser ν ρ String).reading env).Meets c Q F E := by
  refine Reading.Meets.orElse_inPlace (meets_run false (by simp) hQ ?_)
  intro failure hcursor hword
  refine ⟨hcursor, meets_run true (by simp) hQ fun failure' _ hblanks => hF failure' ?_⟩
  cases hrest : c.remaining with
  | nil => rfl
  | cons unit rest => cases hunit : isBlank unit <;> simp [hrest, hunit] at hword hblanks

/-- The repetition collects the runs of what is left, and leaves nothing. -/
theorem meets_tokens {Q : List String → Cursor → Prop}
    (hQ : Q ((runs c.remaining).map String.ofList) (c.skip c.remaining.length)) :
    (((word.orElse someBlanks).zeroOrMore : Parser ν ρ (List String)).reading env).Meets c Q F E := by
  -- what has been collected, followed by the runs of what is left, are the runs of the whole
  refine Reading.meets_zeroOrMore (fun values d => ∃ front : List (List Char),
    values = front.map String.ofList ∧ d = c.skip front.flatten.length ∧
      runs c.remaining = front ++ runs d.remaining) ⟨[], rfl, by simp, rfl⟩ ?_
  rintro values d ⟨front, rfl, rfl, hruns⟩
  refine meets_token (fun run hne hrun => ?_) fun failure hend => ?_
  · have hmoved : ¬ ((c.skip front.flatten.length).skip run.length).samePos
        (c.skip front.flatten.length) = true := by
      rw [Cursor.samePos_skip_iff, List.length_eq_zero_iff]
      rintro (hnone | hend)
      · exact hne hnone
      · rw [hend, runs_nil] at hrun
        cases hrun
    rw [if_neg hmoved]
    exact ⟨front ++ [run], by simp, by simp [Nat.add_comm], by rw [hruns, hrun]; simp⟩
  · have hfront : runs c.remaining = front := by rw [hruns, hend, runs_nil, List.append_nil]
    rwa [hfront, ← flatten_runs c.remaining, hfront] at hQ

end Contracts

theorem tokens_avoids {excluded : Set (Feature ν)} :
    ((word.orElse someBlanks).zeroOrMore : Parser ν ρ (List String)).Avoids excluded := by
  simp [word, someBlanks, blank, oneOf, satisfy, satisfyOver, oneOrMore, map, Avoids]

theorem ends_tokens (g : Grammar ν ρ) (c : Cursor) :
    ((word.orElse someBlanks).zeroOrMore : Parser ν ρ (List String)).Ends g c
      (.returned (.matched ((runs c.remaining).map String.ofList) (c.skip c.remaining.length))) :=
  ends_of_meets tokens_avoids fun _ => meets_tokens rfl

theorem join_map_ofList (parts : List (List Char)) :
    String.join (parts.map String.ofList) = String.ofList parts.flatten := by
  induction parts with
  | nil => rfl
  | cons part parts ih => simp [ih]

/-- Words and blanks partition every text. Their repetition matches and ends at the end of the
source; its tokens together are what was left to read. No token is empty, each is a word or
blanks throughout, and never do two of the same kind stand next to each other. So the words
among them are the longest runs of units that are no blanks, and the others those of blanks:
each token is such a run where it stands, and each such run is a token. -/
theorem words_partition (g : Grammar ν ρ) (c : Cursor) :
    ∃ (tokens : List (List Char)) (last : Cursor),
      ((word.orElse someBlanks).zeroOrMore : Parser ν ρ (List String)).Ends g c
        (.returned (.matched (tokens.map String.ofList) last)) ∧
      last.source = c.source ∧ last.pos = c.source.size ∧
      String.join (tokens.map String.ofList) = c.rest ∧
      (∀ token ∈ tokens, ∃ blank, OfKind blank token) ∧
      (tokens.IsChain fun earlier later =>
        ∃ blank, OfKind blank earlier ∧ OfKind (!blank) later) ∧
      ∀ blank before run after,
        (∃ front back, tokens = front ++ run :: back ∧ front.flatten = before ∧
            back.flatten = after ∧ OfKind blank run) ↔
          before ++ run ++ after = c.remaining ∧ LongestRun blank before run after := by
  refine ⟨runs c.remaining, _, ends_tokens g c, rfl, ?_, ?_, fun _ => exists_kind_of_mem,
    runs_alternate _, fun _ _ _ _ => exists_runs_iff⟩
  · have hpos := c.pos_le
    have hlength := c.length_remaining
    simp only [Cursor.skip]
    omega
  · rw [join_map_ofList, flatten_runs, Cursor.rest]

end Descent.Lexeme
