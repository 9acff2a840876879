-- SUMMARY: Quoted texts are read in one scan of the units, which undoes all ways to write them.
import Mathlib.Data.List.Forall2
import Descent.Proofs.Total
import Descent.Lexeme.Quoted

/-!
# Quoting

What is between two quotes is read by a repetition of pieces: an escape with the unit
after it, or else a plain unit. The repetition stops in three cases: at a quote, at an
escape with no unit after it, and at the end of the source. A scan over the units says
the same without alternatives, failures and positions to go back to.

Writing goes the other way. A unit may be written in more than one way, and a text in
any mixture of them. The scan undoes them all, and it never looks behind the closing
quote.
-/

namespace Descent.Lexeme

open Descent.Parser

variable {ν : Type} {ρ : ν → Type} {quote escape : Char} {escapes : Escapes}

/-! ## One scan -/

/-- What a scan has passed over: the texts that the pieces stand for, and how many
units they are. -/
structure Scan where
  pieces : List String
  passed : Nat
  deriving DecidableEq

/-- The scan that passes over nothing. -/
def Scan.stopped : Scan := ⟨[], 0⟩

/-- The scan with one more piece in front. -/
def Scan.after (scan : Scan) (piece : String) (units : Nat) : Scan :=
  ⟨piece :: scan.pieces, units + scan.passed⟩

/-- Scans the inside of a quoted text, up to a quote that closes it, an escape that is
the last unit, or the end. -/
def scan (quote escape : Char) (escapes : Escapes) : List Char → Scan
  | [] => .stopped
  | unit :: rest =>
    if unit = escape then
      match rest with
      | [] => .stopped
      | next :: rest =>
        (scan quote escape escapes rest).after (escapes.replacement next) 2
    else if unit = quote then
      .stopped
    else
      (scan quote escape escapes rest).after (String.singleton unit) 1

@[simp] theorem scan_nil : scan quote escape escapes [] = .stopped := by rw [scan]

@[simp] theorem scan_dangling : scan quote escape escapes [escape] = .stopped := by simp [scan]

@[simp] theorem scan_escape (next : Char) (rest : List Char) :
    scan quote escape escapes (escape :: next :: rest) =
      (scan quote escape escapes rest).after (escapes.replacement next) 2 := by
  simp [scan]

theorem scan_quote (hne : quote ≠ escape) (rest : List Char) :
    scan quote escape escapes (quote :: rest) = .stopped := by
  rw [scan.eq_def]
  exact (if_neg hne).trans (if_pos rfl)

theorem scan_plain {unit : Char} (hquote : unit ≠ quote) (hescape : unit ≠ escape)
    (rest : List Char) : scan quote escape escapes (unit :: rest) =
      (scan quote escape escapes rest).after (String.singleton unit) 1 := by
  rw [scan.eq_def]
  exact (if_neg hescape).trans (if_neg hquote)

/-- A scan stays within the units that it is given. -/
theorem scan_passed_le (units : List Char) :
    (scan quote escape escapes units).passed ≤ units.length := by
  fun_induction scan quote escape escapes units with
  | case1 | case2 | case4 => exact Nat.zero_le _
  | case3 next rest ih =>
    simp only [Scan.after, List.length_cons]
    omega
  | case5 unit rest _ _ ih =>
    simp only [Scan.after, List.length_cons]
    omega

/-! ## The parser scans -/

section Pieces

variable {env : ∀ n, Reading (ρ n)} {c : Cursor} {F : Failure → Prop} {E : Fault → Prop}

/-- An escape needs a unit after it, and is half read where there is none. -/
theorem meets_escapedPiece {Q : String → Cursor → Prop}
    (hQ : ∀ next rest, c.remaining = escape :: next :: rest →
      Q (escapes.replacement next) (c.skip 2))
    (hother : ∀ failure : Failure, c.current? ≠ some escape → failure.cursor = c → F failure)
    (hlast : ∀ failure : Failure, c.remaining = [escape] → failure.cursor = c.skip 1 → F failure) :
    ((escapedPiece escape escapes : Parser ν ρ String).reading env).Meets c Q F E := by
  refine meets_map (meets_sequence2 (meets_literal_singleton (fun hescape => ?_) fun h => ?_))
  · obtain ⟨rest, hrest⟩ := Cursor.current?_eq_some_iff.1 hescape
    have hskip : (c.skip 1).remaining = rest := by simp [hrest]
    refine Reading.meets_anyUnit (fun next rest' hnext => ?_) fun hend => ?_
    · rw [Cursor.skip_skip]
      exact hQ next rest' (by rw [hrest, ← hskip, hnext])
    · exact hlast _ (by rw [hrest, ← hskip, hend]) rfl
  · exact hother _ h rfl

/-- A piece is what the scan begins with; there is none exactly where the scan stops. -/
theorem meets_piece {Q : String → Cursor → Prop}
    (hQ : ∀ piece units, ¬ (c.skip units).samePos c = true →
      scan quote escape escapes c.remaining =
        (scan quote escape escapes (c.skip units).remaining).after piece units →
      Q piece (c.skip units))
    (hF : ∀ failure, scan quote escape escapes c.remaining = .stopped → F failure) :
    (((escapedPiece escape escapes).orElse (plainPiece quote escape) :
      Parser ν ρ String).reading env).Meets c Q F E := by
  have hplain : c.current? ≠ some escape →
      ((plainPiece quote escape : Parser ν ρ String).reading env).Meets c Q F E := by
    intro hescape
    refine meets_map (meets_oneOf (fun unit rest hrest hunit => ?_) fun failure _ hstop => ?_)
    · simp only [Bool.and_eq_true, bne_iff_ne] at hunit
      refine hQ _ 1 (by simp [Cursor.samePos_skip_iff, hrest]) ?_
      rw [hrest, scan_plain hunit.1 hunit.2, Cursor.remaining_skip, hrest]
      rfl
    · refine hF failure ?_
      cases hrest : c.remaining with
      | nil => exact scan_nil
      | cons unit rest =>
        have hne : unit ≠ escape := by simpa [Cursor.current?_eq_head?, hrest] using hescape
        obtain rfl : unit = quote := by
          by_contra hquote
          simp [hrest, hquote, hne] at hstop
        exact scan_quote hne rest
  refine Reading.Meets.orElse (meets_escapedPiece (fun next rest hrest => ?_) ?_ ?_)
  · refine hQ _ 2 (by simp [Cursor.samePos_skip_iff, hrest]) ?_
    rw [hrest, scan_escape, Cursor.remaining_skip, hrest]
    rfl
  · intro failure hescape hcursor
    rw [hcursor, if_pos (Cursor.samePos_self c)]
    exact hplain hescape
  · -- the escape is the last unit: that failure is not in place, so no plain unit is tried
    intro failure hrest hcursor
    have hmoved : ¬ (c.skip 1).samePos c = true := by simp [Cursor.samePos_skip_iff, hrest]
    rw [hcursor, if_neg hmoved]
    exact hF failure (by rw [hrest, scan_dangling])

/-- The repetition collects the pieces of the scan and stops where the scan does. -/
theorem meets_pieces {Q : List String → Cursor → Prop}
    (hQ : Q (scan quote escape escapes c.remaining).pieces
      (c.skip (scan quote escape escapes c.remaining).passed)) :
    ((((escapedPiece escape escapes).orElse (plainPiece quote escape)).zeroOrMore :
      Parser ν ρ (List String)).reading env).Meets c Q F E := by
  -- what has been collected, followed by the scan of what is left, is the whole scan
  refine Reading.meets_zeroOrMore (fun values d => ∃ passed, d = c.skip passed ∧
    scan quote escape escapes c.remaining =
      ⟨values ++ (scan quote escape escapes d.remaining).pieces,
        passed + (scan quote escape escapes d.remaining).passed⟩) ⟨0, by simp, by simp⟩ ?_
  rintro values d ⟨passed, rfl, hscan⟩
  refine meets_piece (fun piece units hmoved hpiece => ?_) fun failure hstopped => ?_
  · rw [if_neg hmoved]
    refine ⟨passed + units, by simp, ?_⟩
    rw [hscan, hpiece]
    simp [Scan.after, Nat.add_assoc]
  · rw [hscan, hstopped] at hQ
    simpa [Scan.stopped] using hQ

/-- A closing quote that is missing is named as such. -/
theorem meets_closingQuote {Q : String → Cursor → Prop}
    (hQ : c.current? = some quote → Q (String.singleton quote) (c.skip 1))
    (hF : c.current? ≠ some quote → F ⟨s!"expected closing quote `{quote}`", c⟩) :
    ((closingQuote quote : Parser ν ρ String).reading env).Meets c Q F E :=
  Reading.Meets.withExpected (meets_literal_singleton hQ hF)

end Pieces

/-- What a quoted text is read as at a cursor: without an opening quote it is none, and
otherwise the scan of what follows decides, by what it stops at. -/
def scanned (quote escape : Char) (escapes : Escapes) (c : Cursor) : Outcome String :=
  let inside := scan quote escape escapes (c.skip 1).remaining
  let stop := c.skip (1 + inside.passed)
  if c.current? = some quote then
    if stop.current? = some quote then
      .matched (String.join inside.pieces) (stop.skip 1)
    else
      .failed ⟨s!"expected closing quote `{quote}`", stop⟩
  else
    .failed ⟨Mismatch.message (Mismatch.expectedText (String.singleton quote)) (c.take 1) c.pos, c⟩

theorem quotedString_avoids {excluded : Set (Feature ν)} :
    (quotedString quote escape escapes : Parser ν ρ String).Avoids excluded := by
  simp [quotedString, escapedPiece, plainPiece, closingQuote, sequence3, extend, sequence2, oneOf,
    satisfy, satisfyOver, map, Avoids]

theorem ends_scanned (g : Grammar ν ρ) (c : Cursor) :
    (quotedString quote escape escapes : Parser ν ρ String).Ends g c
      (.returned (scanned quote escape escapes c)) := by
  refine ends_of_meets quotedString_avoids fun env => ?_
  refine meets_map (meets_sequence3 (meets_literal_singleton (fun hopen => ?_) fun hopen => ?_))
  · refine meets_pieces ?_
    -- written with all its arguments, for the literal would be unfolded to find them
    refine @meets_closingQuote _ _ _ _ _ _ _ _ (fun hclose => ?_) fun hclose => ?_
    · rw [Cursor.skip_skip] at hclose
      simp only [scanned, if_pos hopen, if_pos hclose, Cursor.skip_skip]
    · rw [Cursor.skip_skip] at hclose
      simp only [scanned, if_pos hopen, if_neg hclose, Cursor.skip_skip]
  · simp only [scanned, if_neg hopen]

/-- A quoted text is read in one scan. Without an opening quote nothing is read. Otherwise
the scan goes from the unit behind it to where it stops, and what stands there decides:
a quote closes the text, and all else is reported as what it is not, at that place. -/
theorem quotedString_scans (quote escape : Char) (escapes : Escapes) (g : Grammar ν ρ)
    (c : Cursor) :
    (c.current? ≠ some quote → (quotedString quote escape escapes : Parser ν ρ String).Ends g c
      (.returned (.failed ⟨Mismatch.message (Mismatch.expectedText (String.singleton quote))
        (c.take 1) c.pos, c⟩))) ∧
    (c.current? = some quote → ∃ stop : Cursor, stop.source = c.source ∧
      stop.pos = c.pos + 1 + (scan quote escape escapes (c.skip 1).remaining).passed ∧
      (quotedString quote escape escapes : Parser ν ρ String).Ends g c (.returned
        (if stop.current? = some quote then
          .matched (String.join (scan quote escape escapes (c.skip 1).remaining).pieces)
            (stop.skip 1)
        else
          .failed ⟨s!"expected closing quote `{quote}`", stop⟩))) := by
  have hends : (quotedString quote escape escapes : Parser ν ρ String).Ends g c _ :=
    ends_scanned g c
  unfold scanned at hends
  constructor
  · intro hopen
    rwa [if_neg hopen] at hends
  · intro hopen
    rw [if_pos hopen] at hends
    refine ⟨c.skip (1 + (scan quote escape escapes (c.skip 1).remaining).passed), rfl, ?_, hends⟩
    -- the scan stays within the source, so the cursor behind it does not stop before
    obtain ⟨rest, hrest⟩ : ∃ rest, c.remaining = quote :: rest :=
      List.head?_eq_some_iff.1 (c.current?_eq_head? ▸ hopen)
    have hpassed : (scan quote escape escapes (c.skip 1).remaining).passed ≤
        (c.skip 1).remaining.length := scan_passed_le _
    have hlength := c.length_remaining
    simp only [Cursor.remaining_skip, hrest, List.drop_one, List.tail_cons, List.length_cons]
      at hpassed hlength ⊢
    simp only [Cursor.skip]
    omega

/-- A text that ends in an escape is reported at the escape. -/
theorem quotedString_scans_dangling :
    ((Cursor.start #['|', 'a', '^']).current? = some '|' ∧
      (quotedString '|' '^' [] : Parser Unit (fun _ => Unit) String).Ends
        (fun _ => .pure ()) (Cursor.start #['|', 'a', '^'])
        (.returned (.failed ⟨"expected closing quote `|`", ⟨#['|', 'a', '^'], 2, by decide⟩⟩))) ∧
    ((Cursor.start #['a', '|']).current? ≠ some '|' ∧
      (quotedString '|' '^' [] : Parser Unit (fun _ => Unit) String).Ends
        (fun _ => .pure ()) (Cursor.start #['a', '|'])
        (.returned (.failed ⟨"expected \"|\"; actual: \"a\"; index=0",
          Cursor.start #['a', '|']⟩))) := by
  have hopen : (Cursor.start #['|', 'a', '^']).current? = some '|' := rfl
  have hother : (Cursor.start #['a', '|']).current? ≠ some '|' := by decide
  refine ⟨⟨hopen, ?_⟩, hother, (quotedString_scans '|' '^' [] _ _).1 hother⟩
  obtain ⟨stop, hsource, hpos, hends⟩ :=
    (quotedString_scans '|' '^' [] (fun _ => .pure ()) _).2 hopen
  obtain rfl : stop = ⟨#['|', 'a', '^'], 2, by decide⟩ := Cursor.ext hsource hpos
  exact hends

/-! ## Writing -/

/-- The ways to write a unit between the quotes: as itself, behind an escape if it is a
quote or an escape, or as an escaped unit that it is the replacement of. -/
inductive Spells (quote escape : Char) (escapes : Escapes) : Char → List Char → Prop where
  | plain {unit : Char} : unit ≠ quote → unit ≠ escape → Spells quote escape escapes unit [unit]
  | delimiter {unit : Char} :
      unit = quote ∨ unit = escape → Spells quote escape escapes unit [escape, unit]
  | replaced {unit key : Char} : escapes.lookup key = some (String.singleton unit) →
      Spells quote escape escapes unit [escape, key]

/-- Every text can be written. -/
theorem exists_written (text : List Char) :
    ∃ parts, List.Forall₂ (Spells quote escape escapes) text parts := by
  induction text with
  | nil => exact ⟨[], .nil⟩
  | cons unit text ih =>
    obtain ⟨parts, hparts⟩ := ih
    by_cases hdelimiter : unit = quote ∨ unit = escape
    · exact ⟨_, .cons (.delimiter hdelimiter) hparts⟩
    · rw [not_or] at hdelimiter
      exact ⟨_, .cons (.plain hdelimiter.1 hdelimiter.2) hparts⟩

theorem join_map_singleton (units : List Char) :
    String.join (units.map String.singleton) = String.ofList units := by
  induction units with
  | nil => rfl
  | cons unit rest ih => simp [ih]

section Spelled

variable (hquote : escapes.replacement quote = String.singleton quote)
  (hescape : escapes.replacement escape = String.singleton escape)

include hquote hescape in
theorem Spells.scan_append {unit : Char} {part : List Char}
    (h : Spells quote escape escapes unit part) (rest : List Char) :
    scan quote escape escapes (part ++ rest) =
      (scan quote escape escapes rest).after (String.singleton unit) part.length := by
  cases h with
  | plain hne hne' => exact scan_plain hne hne' rest
  | delimiter hunit =>
    have hreplacement : escapes.replacement unit = String.singleton unit := by
      rcases hunit with rfl | rfl
      · exact hquote
      · exact hescape
    exact hreplacement ▸ scan_escape unit rest
  | replaced hkey =>
    rename_i key
    have hreplacement : escapes.replacement key = String.singleton unit := by
      simp [Escapes.replacement, hkey]
    exact hreplacement ▸ scan_escape key rest

include hquote hescape in
/-- The scan of a written text gives the text back and stops at the closing quote. -/
theorem scan_written (hne : quote ≠ escape) {text : List Char} {parts : List (List Char)}
    (hparts : List.Forall₂ (Spells quote escape escapes) text parts) (after : List Char) :
    scan quote escape escapes (parts.flatten ++ quote :: after) =
      ⟨text.map String.singleton, parts.flatten.length⟩ := by
  induction hparts with
  | nil => exact scan_quote hne after
  | cons hpart _ ih =>
    rw [List.flatten_cons, List.append_assoc, hpart.scan_append hquote hescape, ih]
    simp [Scan.after]

include hquote hescape in
theorem scanned_written (hne : quote ≠ escape) {text : List Char} {parts : List (List Char)}
    (hparts : List.Forall₂ (Spells quote escape escapes) text parts) {after : List Char}
    {c : Cursor} (hc : c.remaining = quote :: (parts.flatten ++ quote :: after)) :
    scanned quote escape escapes c =
      .matched (String.ofList text) (c.skip (parts.flatten.length + 2)) := by
  have hopen : c.current? = some quote := by simp [Cursor.current?_eq_head?, hc]
  have hscan : scan quote escape escapes (c.skip 1).remaining =
      ⟨text.map String.singleton, parts.flatten.length⟩ := by
    rw [Cursor.remaining_skip, hc]
    exact scan_written hquote hescape hne hparts after
  have hclose : (c.skip (1 + parts.flatten.length)).current? = some quote := by
    rw [Cursor.current?_eq_head?, Cursor.remaining_skip, hc, Nat.add_comm, List.drop_succ_cons,
      List.drop_left, List.head?_cons]
  simp only [scanned, hscan, if_pos hopen, if_pos hclose, join_map_singleton, Cursor.skip_skip]
  rw [Nat.add_comm 1]

end Spelled

/-- Every text survives quoting: however its units are written between the quotes, what is
read is the text, and the cursor is behind the closing quote. What stands before the
opening quote and behind the closing one does not matter. -/
theorem quotedString_of_written {quote escape : Char} {escapes : Escapes} (hne : quote ≠ escape)
    (hquote : escapes.replacement quote = String.singleton quote)
    (hescape : escapes.replacement escape = String.singleton escape) {text : List Char}
    {parts : List (List Char)} (hparts : List.Forall₂ (Spells quote escape escapes) text parts)
    (g : Grammar ν ρ) (before after : List Char) :
    (quotedString quote escape escapes : Parser ν ρ String).Ends g
      (.between before ((quote :: parts.flatten ++ [quote]) ++ after))
      (.returned (.matched (String.ofList text)
        (.between (before ++ (quote :: parts.flatten ++ [quote])) after))) := by
  have hremaining : (Cursor.between before
      ((quote :: parts.flatten ++ [quote]) ++ after)).remaining =
        quote :: (parts.flatten ++ quote :: after) := by simp
  have hlength : (quote :: parts.flatten ++ [quote]).length = parts.flatten.length + 2 := by simp
  rw [← Cursor.skip_between, hlength, ← scanned_written hquote hescape hne hparts hremaining]
  exact ends_scanned g _

/-- The text of a tab, a quote, an escape and a plain unit, each written in its way. -/
theorem quotedString_of_mixed :
    (quotedString '|' '^' [('t', "\t")] : Parser Unit (fun _ => Unit) String).Ends
      (fun _ => .pure ()) (.between ['('] ['|', '^', 't', '^', '|', '^', '^', 'a', '|', '|'])
      (.returned (.matched "\t|^a"
        (.between ['(', '|', '^', 't', '^', '|', '^', '^', 'a', '|'] ['|']))) := by
  have hparts : List.Forall₂ (Spells '|' '^' [('t', "\t")]) ['\t', '|', '^', 'a']
      [['^', 't'], ['^', '|'], ['^', '^'], ['a']] :=
    .cons (.replaced rfl) (.cons (.delimiter (.inl rfl)) (.cons (.delimiter (.inr rfl))
      (.cons (.plain (by decide) (by decide)) .nil)))
  exact quotedString_of_written (by decide) rfl rfl hparts _ ['('] ['|']

end Descent.Lexeme
