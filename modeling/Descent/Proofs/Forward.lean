-- SUMMARY: The order of the cursors of one source, and the primitive readings along it.
import Mathlib.Order.Basic
import Descent.Reading

/-!
# Going forward

The cursors of one source are ordered by their positions; cursors of different
sources are not comparable. A cursor moves forward by `Cursor.skip`, which stops at the end
of the source, so it needs no check while it runs. The two primitive readings
that move do so by `Cursor.skip` over units that are there: their checked advance
never refuses.
-/

namespace Descent

namespace Cursor

/-! ## The order -/

/-- A cursor is before another one of the same source if its position is. -/
instance : PartialOrder Cursor where
  le c d := c.source = d.source ∧ c.pos ≤ d.pos
  le_refl c := ⟨rfl, Nat.le_refl c.pos⟩
  le_trans _ _ _ hcd hde := ⟨hcd.1.trans hde.1, Nat.le_trans hcd.2 hde.2⟩
  le_antisymm _ _ hcd hdc := ext hcd.1 (Nat.le_antisymm hcd.2 hdc.2)

variable {c d : Cursor}

theorem samePos_iff : d.samePos c = true ↔ d.pos = c.pos := by simp [samePos]

theorem samePos_self (c : Cursor) : c.samePos c = true := samePos_iff.2 rfl

/-- A later cursor at the same offset is the same cursor. -/
theorem eq_of_le_of_samePos (h : c ≤ d) (hs : d.samePos c = true) : d = c :=
  ext h.1.symm (samePos_iff.1 hs)

/-- A later cursor at another offset has left fewer units. -/
theorem pos_lt_of_le (h : c ≤ d) (hs : ¬ d.samePos c = true) : c.pos < d.pos :=
  Nat.lt_of_le_of_ne h.2 fun heq => hs (samePos_iff.2 heq.symm)

/-! ## Skipping units -/

/-- The cursor behind the next `n` units, of fewer at the end of the source. -/
def skip (c : Cursor) (n : Nat) : Cursor where
  source := c.source
  pos := min (c.pos + n) c.source.size
  pos_le := Nat.min_le_right _ _

theorem le_skip (c : Cursor) (n : Nat) : c ≤ c.skip n :=
  ⟨rfl, Nat.le_min.2 ⟨Nat.le_add_right c.pos n, c.pos_le⟩⟩

@[simp] theorem skip_zero (c : Cursor) : c.skip 0 = c := ext rfl (Nat.min_eq_left c.pos_le)

@[simp] theorem skip_skip (c : Cursor) (m n : Nat) : (c.skip m).skip n = c.skip (m + n) := by
  refine ext rfl ?_
  simp only [skip]
  omega

@[simp] theorem remaining_skip (c : Cursor) (n : Nat) :
    (c.skip n).remaining = c.remaining.drop n := by
  simp only [remaining, skip, List.drop_drop]
  rcases Nat.le_total (c.pos + n) c.source.size with h | h
  · rw [Nat.min_eq_left h]
  · have hdrop : c.source.toList.drop (c.pos + n) = [] := List.drop_eq_nil_of_le (by simpa using h)
    have hsize : c.source.toList.drop c.source.size = [] := List.drop_eq_nil_of_le (by simp)
    rw [Nat.min_eq_right h, hdrop, hsize]

theorem current?_eq_some_iff {unit : Char} :
    c.current? = some unit ↔ ∃ rest, c.remaining = unit :: rest := by
  rw [current?_eq_head?, List.head?_eq_some_iff]

theorem length_remaining (c : Cursor) : c.remaining.length = c.source.size - c.pos := by
  simp [remaining]

theorem samePos_skip_iff {n : Nat} :
    (c.skip n).samePos c = true ↔ n = 0 ∨ c.remaining = [] := by
  rw [samePos_iff, ← List.length_eq_zero_iff, length_remaining]
  have hpos := c.pos_le
  simp only [skip]
  omega

/-- The text of the next `n` units is a text of length `n` exactly if the source
goes on with that text. -/
theorem take_length_eq_iff (text : String) :
    c.take text.length = text ↔ text.toList <+: c.remaining := by
  rw [take_eq, List.prefix_iff_eq_take, ← String.toList_inj, String.toList_ofList,
    String.length_toList]
  exact eq_comm

/-- Skipping what the source goes on with does not stop before. -/
theorem pos_skip_of_starts {units : List Char} (h : units <+: c.remaining) :
    (c.skip units.length).pos = c.pos + units.length := by
  have hle := h.length_le
  have hpos := c.pos_le
  rw [length_remaining] at hle
  simp only [skip]
  omega

/-- The checked advance over what the source goes on with is not refused. -/
theorem advance_eq_skip {units : List Char} (h : units <+: c.remaining) :
    c.advance units.length = .ok (c.skip units.length) := by
  have hpos : c.pos + units.length ≤ c.source.size :=
    pos_skip_of_starts h ▸ (c.skip units.length).pos_le
  rw [advance_ofNat hpos]
  exact congrArg _ (ext rfl (pos_skip_of_starts h).symm)

/-! ## Between two texts -/

/-- The cursor between two texts: one that is read, and one that is not. -/
def between (before after : List Char) : Cursor where
  source := (before ++ after).toArray
  pos := before.length
  pos_le := by simp

@[simp] theorem remaining_between (before after : List Char) :
    (between before after).remaining = after := by
  simp [remaining, between]

theorem skip_between (before units after : List Char) :
    (between before (units ++ after)).skip units.length = between (before ++ units) after := by
  refine ext (by simp [skip, between]) ?_
  simp [skip, between]

end Cursor

/-! ## The primitive readings -/

namespace Reading

variable {c : Cursor}

/-- Where a unit is left, one unit is matched. -/
theorem anyUnit_matches {unit : Char} {rest : List Char} (h : c.remaining = unit :: rest) :
    anyUnit c = pure (.matched unit (c.skip 1)) := by
  have hstarts : [unit] <+: c.remaining := ⟨rest, by simp [h]⟩
  have hcurrent : c.current? = some unit := by simp [Cursor.current?_eq_head?, h]
  have hadvance : c.advance 1 = .ok (c.skip 1) := Cursor.advance_eq_skip hstarts
  simp [anyUnit, hcurrent, hadvance, Action.ofExcept]

/-- Where no unit is left, none is matched. -/
theorem anyUnit_fails (h : c.remaining = []) :
    anyUnit c = pure (.failed ⟨Mismatch.noUnitLeft, c⟩) := by
  have hcurrent : c.current? = none := by simp [Cursor.current?_eq_head?, h]
  simp [anyUnit, hcurrent]

/-- Where the source goes on with a text, the text is matched. -/
theorem literal_matches {text : String} (h : text.toList <+: c.remaining) :
    literal text c = pure (.matched text (c.skip text.length)) := by
  have htake : c.take text.length = text := (Cursor.take_length_eq_iff text).2 h
  have hadvance : c.advance text.length = .ok (c.skip text.length) := by
    simpa only [String.length_toList] using Cursor.advance_eq_skip h
  simp [literal, htake, hadvance, Action.ofExcept]

/-- Where the source goes on otherwise, the text is not matched. -/
theorem literal_fails {text : String} (h : ¬ text.toList <+: c.remaining) :
    literal text c = pure (.failed
      ⟨Mismatch.message (Mismatch.expectedText text) (c.take text.length) c.pos, c⟩) := by
  have htake : c.take text.length ≠ text := fun heq => h ((Cursor.take_length_eq_iff text).1 heq)
  simp [literal, htake]

/-- The primitive readings answer at every cursor, so the advance in them is never
refused. -/
theorem answers_everywhere (c : Cursor) : (∃ outcome, anyUnit c = pure outcome) ∧
    ∀ text, ∃ outcome, literal text c = pure outcome := by
  constructor
  · cases hrest : c.remaining with
    | nil => exact ⟨_, anyUnit_fails hrest⟩
    | cons unit rest => exact ⟨_, anyUnit_matches hrest⟩
  · intro text
    by_cases hstarts : text.toList <+: c.remaining
    · exact ⟨_, literal_matches hstarts⟩
    · exact ⟨_, literal_fails hstarts⟩

end Reading

end Descent
