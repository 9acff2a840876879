-- SUMMARY: A line and a column are the place of one position, and places go on as positions do.
import Mathlib.Algebra.GroupWithZero.Nat
import Mathlib.Data.Prod.Lex
import Descent.Proofs.Quotation

/-!
# Places

A position is found again from its place: it is behind the lines before its own, the line
feeds that end them, and the units that the column says. So no two positions of a source
have one place. A later position is not in an earlier line, and in the same line it has a
larger column.
-/

namespace Descent

/-! ## The lines before a position -/

/-- What is in front of a position are the lines before its own, a line feed for each of
them, and what is behind the last line feed. -/
theorem Text.sum_length_splitOn (before after : List Char) :
    ((((before ++ after).splitOn '\n').take (before.count '\n')).map List.length).sum +
      before.count '\n' + (behindFeed before).length = before.length := by
  induction before using feed_induction with
  | flat before hnone => simp [behindFeed_eq_self hnone, List.count_eq_zero_of_not_mem hnone]
  | feed before ih =>
    rw [behindFeed_cons List.mem_cons_self, List.length_cons, ← ih, List.count_cons_self,
      List.cons_append, splitOn_feed, List.take_succ_cons, List.map_cons, List.sum_cons,
      List.length_nil]
    omega
  | more unit before hunit hmem ih =>
    -- the unit is one more of the first line, which is among those before the position
    obtain ⟨k, hk⟩ := Nat.exists_eq_succ_of_ne_zero (List.count_pos_iff.2 hmem).ne'
    rw [behindFeed_cons (List.mem_cons_of_mem unit hmem), List.length_cons, ← ih,
      List.count_cons_of_ne hunit, hk, List.cons_append, splitOn_cons hunit]
    cases hlines : (before ++ after).splitOn '\n' with
    | nil => exact absurd hlines (List.splitOn_ne_nil _ _)
    | cons line others =>
      simp only [List.modifyHead_cons, List.take_succ_cons, List.map_cons, List.sum_cons,
        List.length_cons]
      omega

namespace Cursor

variable {c d : Cursor}

theorem pos_eq_sum (c : Cursor) :
    c.pos = (((c.source.toList.splitOn '\n').take (c.lineColumn.line - 1)).map List.length).sum +
      (c.lineColumn.line - 1) + (c.lineColumn.column - 1) := by
  have hsum := Text.sum_length_splitOn c.before c.remaining
  rw [c.before_append_remaining, c.length_before] at hsum
  rw [c.column_eq]
  exact hsum.symm

/-- The column of a cursor is not beyond the end of its line. -/
theorem column_sub_one_le (c : Cursor) : c.lineColumn.column - 1 ≤ c.line.length := by
  rw [c.column_eq, Nat.add_sub_cancel, line, List.length_append]
  exact Nat.le_add_right _ _

/-! ## The order of places -/

/-- A place in the order of lines, and within a line of columns. -/
def place (c : Cursor) : ℕ ×ₗ ℕ := toLex (c.lineColumn.line, c.lineColumn.column)

theorem line_le_of_pos_le (hsource : c.source = d.source) (hpos : c.pos ≤ d.pos) :
    c.lineColumn.line ≤ d.lineColumn.line := by
  have hbefore : c.before <+: d.before := by
    rw [before, before, hsource]
    exact List.take_prefix_take_left hpos
  exact Nat.succ_le_succ (hbefore.sublist.count_le _)

theorem place_lt_of_pos_lt (hsource : c.source = d.source) (hpos : c.pos < d.pos) :
    c.place < d.place := by
  refine Prod.Lex.toLex_lt_toLex'.2 ⟨line_le_of_pos_le hsource hpos.le, fun hline => ?_⟩
  have hc := c.pos_eq_sum
  have hd := d.pos_eq_sum
  simp only at hline
  rw [hsource, hline] at hc
  have hcolumn : 1 ≤ c.lineColumn.column := Nat.succ_pos _
  simp only
  omega

/-- Cursors of one source are in the order of their places. -/
theorem place_lt_iff (hsource : c.source = d.source) : c.place < d.place ↔ c.pos < d.pos := by
  refine ⟨fun hplace => ?_, place_lt_of_pos_lt hsource⟩
  rcases lt_trichotomy c.pos d.pos with hlt | heq | hgt
  · exact hlt
  · rw [ext hsource heq] at hplace
    exact absurd hplace (lt_irrefl _)
  · exact absurd hplace (place_lt_of_pos_lt hsource.symm hgt).not_gt

theorem eq_of_lineColumn_eq (hsource : c.source = d.source) (hplace : c.lineColumn = d.lineColumn) :
    c = d := by
  refine ext hsource ?_
  rw [c.pos_eq_sum, d.pos_eq_sum, hsource, hplace]

end Cursor

/-! ## Reports -/

/-- The first note of a report is on the position of the report, taken as the end of the
source where it is beyond that, and says nothing else in front of the header. -/
theorem ParseError.make_notes (source : Source) (pos : Nat) (message? : Option String) :
    ∃ error, ParseError.make source pos message? = .ok error ∧
      error.notes = [Note.ofCursor ((Cursor.start source).skip pos) none] := by
  exact ⟨_, ParseError.appendNote_skip _ pos none, rfl⟩

namespace Cursor

/-- The line of a cursor is the number of line feeds before it, counted from one, and its
position is the length of the lines before that one with a line feed each, together with
the column, which is not beyond the end of the line. So places of one source go on as
positions do, and no two of its positions have one place. A report on any position, also
on one beyond the end of the source, begins its note with the position and its place. -/
theorem lineColumn_locates :
    (∀ c : Cursor,
      c.lineColumn.line - 1 = (c.source.toList.take c.pos).count '\n' ∧
      1 ≤ c.lineColumn.line ∧ 1 ≤ c.lineColumn.column ∧
      c.pos =
        (((c.source.toList.splitOn '\n').take (c.lineColumn.line - 1)).map List.length).sum +
          (c.lineColumn.line - 1) + (c.lineColumn.column - 1) ∧
      ∃ line, (c.source.toList.splitOn '\n')[c.lineColumn.line - 1]? = some line ∧
        c.lineColumn.column - 1 ≤ line.length) ∧
    (∀ c d : Cursor, c.source = d.source →
      (c.place < d.place ↔ c.pos < d.pos) ∧ (c.lineColumn = d.lineColumn → c.pos = d.pos)) ∧
    ∀ (source : Source) (pos : Nat) (message? : Option String),
      ∃ (error : ParseError) (note : Note) (c : Cursor),
        ParseError.make source pos message? = .ok error ∧ error.notes = [note] ∧
        c.source = source ∧ c.pos = min pos source.size ∧
        note.header =
          s!"At position {c.pos} (line {c.lineColumn.line}, column {c.lineColumn.column})" ∧
        note.render =
          "\n".intercalate (note.header :: (note.excerpt?.map Excerpt.render).toList) := by
  refine ⟨fun c => ?_, fun c d hsource => ?_, fun source pos message? => ?_⟩
  · exact ⟨rfl, Nat.succ_pos _, Nat.succ_pos _, c.pos_eq_sum, c.line, c.getElem?_splitOn_line,
      c.column_sub_one_le⟩
  · exact ⟨place_lt_iff hsource, fun hplace => congrArg pos (eq_of_lineColumn_eq hsource hplace)⟩
  · obtain ⟨error, hmake, hnotes⟩ := ParseError.make_notes source pos message?
    exact ⟨error, _, _, hmake, hnotes, rfl, pos_start_skip source pos, rfl, rfl⟩

/-- Two lines with an empty one between them. -/
def spaced : Source := Source.ofString "a\n\nbc"

/-- The place of the empty line is behind that of the line feed before it, and a report on a
position beyond the end has the place behind the last unit. -/
theorem lineColumn_locates_spaced :
    ((start spaced).skip 1).place < ((start spaced).skip 2).place ∧
    ∃ error note, ParseError.make spaced 9 none = .ok error ∧ error.notes = [note] ∧
      note.header = "At position 5 (line 3, column 3)" := by
  obtain ⟨-, horder, hreport⟩ := lineColumn_locates
  refine ⟨(horder ((start spaced).skip 1) ((start spaced).skip 2) rfl).1.2 (by decide), ?_⟩
  obtain ⟨error, note, c, hmake, hnotes, hsource, hpos, hheader, -⟩ := hreport spaced 9 none
  obtain rfl : c = ⟨spaced, 5, by decide⟩ := ext hsource hpos
  exact ⟨error, note, hmake, hnotes, hheader.trans (by decide +kernel)⟩

end Cursor

end Descent
