-- SUMMARY: Words are longest runs of units that are no blanks, and tables are searched for them.
import Descent.Proofs.Total
import Descent.Lexeme.Word

/-!
# Words

The word at a cursor goes up to the next blank or to the end of the source. A given word
is found only where it is all of the word at the cursor; so it is found where its text is
and a blank or the end comes behind it.

A table is a choice between given words. Each of them fails in place where it is not
found, whether the word at the cursor is another one, a longer one, or none. So no
spelling keeps a later one from being tried, and the first spelling that is the word
decides.
-/

namespace Descent.Lexeme

open Descent.Parser

variable {ν : Type} {ρ : ν → Type} {τ : Type} {c : Cursor} {text : String}

/-! ## The word at a cursor -/

/-- The word at a cursor; it is empty in front of a blank and at the end of the source. -/
def wordAt (c : Cursor) : String :=
  String.ofList (c.remaining.takeWhile fun unit => !isBlank unit)

theorem toList_wordAt (c : Cursor) :
    (wordAt c).toList = c.remaining.takeWhile fun unit => !isBlank unit := String.toList_ofList

theorem wordAt_starts (c : Cursor) : (wordAt c).toList <+: c.remaining := by
  rw [toList_wordAt]
  exact List.takeWhile_prefix _

/-- A text without blanks is the word at a cursor exactly if the source goes on with it,
and then with a blank or not at all. -/
theorem wordAt_eq_iff (htext : ∀ unit ∈ text.toList, isBlank unit = false) :
    wordAt c = text ↔ text.toList <+: c.remaining ∧
      ∀ unit ∈ (c.skip text.length).current?, isBlank unit = true := by
  rw [Cursor.current?_eq_head?, Cursor.remaining_skip, ← String.toList_inj, toList_wordAt,
    ← String.length_toList]
  constructor
  · intro hword
    obtain ⟨rest, hrest, hbehind⟩ := exists_takeWhile_append (fun unit => !isBlank unit) c.remaining
    rw [hword] at hrest
    rw [← hrest, List.drop_left]
    exact ⟨List.prefix_append _ _, by simpa using hbehind⟩
  · rintro ⟨⟨rest, hrest⟩, hbehind⟩
    rw [← hrest, List.drop_left] at hbehind
    rw [← hrest]
    exact takeWhile_append_of_head (by simpa using htext) (by simpa using hbehind)

section Contracts

variable {env : ∀ n, Reading (ρ n)} {F : Failure → Prop} {E : Fault → Prop}

theorem meets_word {Q : String → Cursor → Prop}
    (hQ : wordAt c ≠ "" → Q (wordAt c) (c.skip (wordAt c).length))
    (hF : ∀ failure, failure.cursor = c → wordAt c = "" → F failure) :
    ((word : Parser ν ρ String).reading env).Meets c Q F E := by
  have hempty : wordAt c = "" ↔ (c.remaining.takeWhile fun unit => !isBlank unit) = [] := by
    rw [← toList_wordAt, String.toList_eq_nil_iff]
  rw [← String.length_toList, toList_wordAt] at hQ
  refine meets_map (meets_oneOrMore_oneOf (fun hrun => hQ (mt hempty.1 hrun)) ?_)
  exact fun failure hcursor hrun => hF failure hcursor (hempty.2 hrun)

end Contracts

/-! ## The search in a table -/

/-- Whether a spelling is the word that was found. The empty word is none, so the empty
spelling is never found. -/
def isFound (found spelling : String) : Bool := found ≠ "" ∧ found = spelling

theorem isFound_iff {found spelling : String} :
    isFound found spelling = true ↔ found ≠ "" ∧ found = spelling := decide_eq_true_iff

/-- The tag that a table gives to a word: that of the first row in which it is spelled. -/
def Table.tag? (table : Table τ) (found : String) : Option τ :=
  (table.find? fun row => row.2.any (isFound found)).map Prod.fst

/-- Row by row or spelling by spelling, a search comes to the same tag. -/
theorem Table.find?_spellings (table : Table τ) (found : String) :
    (table.spellings.find? fun entry => isFound found entry.2).map Prod.fst = table.tag? found := by
  induction table with
  | nil => rfl
  | cons row table ih =>
    have hrow : (row.2.find? (isFound found)).isSome = row.2.any (isFound found) :=
      List.isSome_find?
    rw [spellings, List.flatMap_cons, List.find?_append, List.find?_map, Option.map_or, ← spellings,
      ih, tag?, tag?, List.find?_cons, ← hrow]
    change (((row.2.find? (isFound found)).map _).map _).or _ = _
    cases row.2.find? (isFound found) with
    | none => rfl
    | some spelling => rfl

section Search

variable {env : ∀ n, Reading (ρ n)} {F : Failure → Prop} {E : Fault → Prop} {expected : String}

/-- A given word is found or not, and where it is not, that is reported in place. -/
theorem meets_wordEquals {Q : String → Cursor → Prop}
    (hQ : isFound (wordAt c) text = true → Q text (c.skip text.length))
    (hF : ∀ failure, failure.cursor = c → ¬ isFound (wordAt c) text = true → F failure) :
    ((wordEquals text : Parser ν ρ String).reading env).Meets c Q F E := by
  refine Reading.Meets.rewind_of_le (Reading.Meets.check (meets_word (fun hword => ?_) ?_))
  · refine Action.meets_pure ⟨fun htrue => ?_, fun hfalse => Action.meets_pure ?_⟩
    · obtain rfl : wordAt c = text := beq_iff_eq.1 htrue
      exact hQ (isFound_iff.2 ⟨hword, rfl⟩)
    · -- the report is behind the other word, and moved back from there
      have hother : wordAt c ≠ text := beq_eq_false_iff_ne.1 hfalse
      exact ⟨c.le_skip _, hF _ rfl fun hfound => hother (isFound_iff.1 hfound).2⟩
  · intro failure hcursor hnone
    exact ⟨hcursor.ge, hF _ rfl fun hfound => (isFound_iff.1 hfound).1 hnone⟩

/-- A choice between given words comes to the first one that is the word at the cursor. -/
theorem meets_choice_wordEquals {Q : τ → Cursor → Prop} (entries : List (τ × String))
    (hQ : ∀ entry, (entries.find? fun entry => isFound (wordAt c) entry.2) = some entry →
      Q entry.1 (c.skip (wordAt c).length))
    (hF : (entries.find? fun entry => isFound (wordAt c) entry.2) = none → F ⟨expected, c⟩) :
    ((choice expected (entries.map fun (tag, spelling) => (wordEquals spelling).map fun _ => tag) :
      Parser ν ρ τ).reading env).Meets c Q F E := by
  induction entries with
  | nil => exact Reading.meets_fail (hF rfl)
  | cons entry entries ih =>
    refine Reading.Meets.orElse_inPlace (meets_map (meets_wordEquals (fun hfound => ?_) ?_))
    · have htag := hQ entry (List.find?_cons_of_pos hfound)
      rwa [(isFound_iff.1 hfound).2] at htag
    · intro failure hcursor hother
      have hrest : ((entry :: entries).find? fun entry => isFound (wordAt c) entry.2) =
          entries.find? fun entry => isFound (wordAt c) entry.2 := List.find?_cons_of_neg hother
      rw [hrest] at hQ hF
      exact ⟨hcursor, ih hQ hF⟩

theorem meets_lookup {table : Table τ} {Q : τ → Cursor → Prop}
    (hQ : ∀ tag, table.tag? (wordAt c) = some tag → Q tag (c.skip (wordAt c).length))
    (hF : table.tag? (wordAt c) = none → F ⟨expected, c⟩) :
    ((lookup expected table : Parser ν ρ τ).reading env).Meets c Q F E := by
  rw [← Table.find?_spellings] at hQ hF
  refine meets_choice_wordEquals table.spellings (fun entry hentry => ?_) fun hnone => ?_
  · exact hQ entry.1 (by rw [hentry]; rfl)
  · exact hF (by rw [hnone]; rfl)

end Search

theorem word_avoids {excluded : Set (Feature ν)} :
    (word : Parser ν ρ String).Avoids excluded := by
  simp [word, oneOf, satisfy, satisfyOver, oneOrMore, map, Avoids]

theorem wordEquals_avoids {excluded : Set (Feature ν)} :
    (wordEquals text : Parser ν ρ String).Avoids excluded := by
  simp [wordEquals, satisfyOver, word_avoids, Avoids]

theorem lookup_avoids {excluded : Set (Feature ν)} {expected : String} {table : Table τ} :
    (lookup expected table : Parser ν ρ τ).Avoids excluded := by
  rw [lookup]
  induction table.spellings with
  | nil => trivial
  | cons entry entries ih => exact ⟨wordEquals_avoids, ih⟩

theorem ends_lookup (expected : String) (table : Table τ) (g : Grammar ν ρ) (c : Cursor) :
    (lookup expected table : Parser ν ρ τ).Ends g c (.returned
      (match table.tag? (wordAt c) with
      | some tag => .matched tag (c.skip (wordAt c).length)
      | none => .failed ⟨expected, c⟩)) := by
  refine ends_of_meets lookup_avoids fun env => meets_lookup (fun tag htag => ?_) fun hnone => ?_
  · rw [htag]
  · rw [hnone]

/-! ## Given words and their texts -/

section Given

variable {g : Grammar ν ρ} {s : Settings} {found : String} {after : Cursor}

theorem wordEquals_matches_iff (hbudget : c.source.size < s.budget) :
    ((wordEquals text : Parser ν ρ String).runAt g c s).ending =
        .returned (.matched found after) ↔
      isFound (wordAt c) text = true ∧ text = found ∧ c.skip text.length = after := by
  constructor
  · intro hend
    have hmeets : ((wordEquals text : Parser ν ρ String).reading (g.names s.budget)).Meets c
        (fun found after =>
          isFound (wordAt c) text = true ∧ text = found ∧ c.skip text.length = after)
        (fun _ => True) (fun _ => True) :=
      meets_wordEquals (fun hfound => ⟨hfound, rfl, rfl⟩) fun _ _ _ => trivial
    exact hmeets.of_returned hend
  · rintro ⟨hfound, rfl, rfl⟩
    have hends : (wordEquals text : Parser ν ρ String).Ends g c
        (.returned (.matched text (c.skip text.length))) :=
      ends_of_meets wordEquals_avoids fun env =>
        meets_wordEquals (fun _ => rfl) fun _ _ hother => absurd hfound hother
    exact hends s hbudget

theorem literal_matches_iff :
    ((literal text : Parser ν ρ String).runAt g c s).ending = .returned (.matched found after) ↔
      text.toList <+: c.remaining ∧ text = found ∧ c.skip text.length = after := by
  change (Reading.literal text c s).ending = _ ↔ _
  by_cases hstarts : text.toList <+: c.remaining
  · simp [Reading.literal_matches hstarts, Action.pure_apply, hstarts]
  · simp [Reading.literal_fails hstarts, Action.pure_apply, hstarts]

end Given

/-- A table is searched for the whole word at the cursor. If that is one of the spellings, the
table matches with the tag of the first of them, and the cursor is behind the word; and
otherwise it fails in place. So a text without blanks is found as a given word exactly where
the text is, and behind it a blank or the end of the source. -/
theorem lookup_finds_word (expected : String) (table : Table τ) (g : Grammar ν ρ) :
    (∀ c : Cursor, ∃ after, c.advance (wordAt c).length = .ok after ∧
      (lookup expected table : Parser ν ρ τ).Ends g c (.returned
        (match table.tag? (wordAt c) with
        | some tag => .matched tag after
        | none => .failed ⟨expected, c⟩))) ∧
    ∀ text : String, text ≠ "" → (∀ unit ∈ text.toList, isBlank unit = false) →
      ∀ (c : Cursor) (s : Settings), c.source.size < s.budget → ∀ found after,
        ((wordEquals text : Parser ν ρ String).runAt g c s).ending =
            .returned (.matched found after) ↔
          ((literal text : Parser ν ρ String).runAt g c s).ending =
              .returned (.matched found after) ∧
            ∀ unit ∈ after.current?, isBlank unit = true := by
  refine ⟨fun c => ⟨c.skip (wordAt c).length, ?_, ends_lookup expected table g c⟩, ?_⟩
  · simpa only [String.length_toList] using Cursor.advance_eq_skip (wordAt_starts c)
  · intro text hne htext c s hbudget found after
    rw [wordEquals_matches_iff hbudget, literal_matches_iff, isFound_iff]
    constructor
    · rintro ⟨⟨-, hword⟩, rfl, rfl⟩
      obtain ⟨hstarts, hbehind⟩ := (wordAt_eq_iff htext).1 hword
      exact ⟨⟨hstarts, rfl, rfl⟩, hbehind⟩
    · rintro ⟨⟨hstarts, rfl, rfl⟩, hbehind⟩
      have hword : wordAt c = text := (wordAt_eq_iff htext).2 ⟨hstarts, hbehind⟩
      exact ⟨⟨hword.trans_ne hne, hword⟩, rfl, rfl⟩

/-- Two measures that share a spelling. -/
def measures : Table String := [("cup", ["cup", "cups"]), ("gram", ["g", "cups"])]

/-- The longer word is found, with the first of its two tags; as a given word it is found in
front of a line feed. -/
theorem lookup_finds_word_measures :
    (lookup "a measure" measures : Parser Unit (fun _ => Unit) String).Ends (fun _ => .pure ())
        (.between ['2', ' '] ['c', 'u', 'p', 's', '\n'])
        (.returned (.matched "cup" (.between ['2', ' ', 'c', 'u', 'p', 's'] ['\n']))) ∧
      ("cups" ≠ "" ∧ ∀ unit ∈ "cups".toList, isBlank unit = false) ∧
      ((wordEquals "cups" : Parser Unit (fun _ => Unit) String).runAt (fun _ => .pure ())
          (.between ['2', ' '] ['c', 'u', 'p', 's', '\n']) { budget := 8 }).ending =
        .returned (.matched "cups" (.between ['2', ' ', 'c', 'u', 'p', 's'] ['\n'])) := by
  obtain ⟨hlookup, hgiven⟩ := lookup_finds_word (ν := Unit) (ρ := fun _ => Unit) "a measure"
    measures fun _ => .pure ()
  have hunits : "cups" ≠ "" ∧ ∀ unit ∈ "cups".toList, isBlank unit = false := by
    simp [isBlank, blankUnits]
  refine ⟨?_, hunits, ?_⟩
  · obtain ⟨after, hafter, hends⟩ := hlookup (.between ['2', ' '] ['c', 'u', 'p', 's', '\n'])
    have hword : wordAt (.between ['2', ' '] ['c', 'u', 'p', 's', '\n']) = "cups" := by decide +kernel
    have htag : measures.tag? "cups" = some "cup" := by decide +kernel
    rw [hword] at hafter hends
    rw [htag] at hends
    cases hafter
    exact hends
  · refine (hgiven "cups" hunits.1 hunits.2 _ _ (by decide) _ _).2 ⟨?_, ?_⟩
    · decide +kernel
    · rintro _ ⟨⟩
      decide

end Descent.Lexeme
