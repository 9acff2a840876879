-- SUMMARY: Where a note has an excerpt, and which part of the source it quotes.
import Descent.Proofs.Excerpt

/-!
# Quotations

The excerpt of a note is a slice of the line that has the number in its header. If only
line feeds end lines before the position, that is the line with the position in it: then
there is an excerpt exactly if the unit at the position belongs to a line, and the
excerpt goes around that unit.

If other units end lines before the line of the position, the numbers go apart: the
header counts line feeds alone, and the excerpt is from a line that comes earlier.
-/

namespace Descent

namespace Excerpt

variable {row : List Char} {column : Nat}

/-- The excerpt of a line is a slice of it, with the unit of the column in it if the line
reaches so far. -/
theorem ofLine_slice (hpos : 0 < column) (hcolumn : column ≤ row.length) :
    ∃ k, (ofLine row column).text = (row.drop k).take width ∧ k < column ∧
      column ≤ k + (ofLine row column).text.length := by
  rcases Nat.lt_or_ge lead column with hfar | hnear
  · refine ⟨column - lead, ?_, ?_, ?_⟩
    · rw [ofLine_far hfar]
    · simp only [lead] at hfar ⊢
      omega
    · rw [ofLine_far hfar, List.length_take, List.length_drop]
      simp only [lead, width] at hfar ⊢
      omega
  · refine ⟨0, ?_, hpos, ?_⟩
    · rw [ofLine_near hnear, List.drop_zero]
    · rw [ofLine_near hnear, List.length_take]
      simp only [lead, width] at hnear ⊢
      omega

theorem ofLine_infix (row : List Char) (column : Nat) : (ofLine row column).text <:+: row := by
  rcases Nat.lt_or_ge lead column with hfar | hnear
  · rw [ofLine_far hfar]
    exact (List.take_prefix _ _).isInfix.trans (List.drop_suffix _ _).isInfix
  · rw [ofLine_near hnear]
    exact (List.take_prefix _ _).isInfix

theorem ofSource?_of_row {source : Source} {place : LineColumn}
    (hrow : (Text.lines source.toList)[place.line - 1]? = some row)
    (hcolumn : place.column ≤ row.length) :
    ofSource? source place = some (ofLine row place.column) := by
  rw [ofSource?, hrow]
  exact if_pos hcolumn

/-- A line is looked up only under a number that there is. -/
theorem ofSource?_eq (source : Source) (place : LineColumn) :
    ofSource? source place =
      if h : place.line - 1 < (Text.lines source.toList).length then
        if place.column ≤ (Text.lines source.toList)[place.line - 1].length then
          some (ofLine (Text.lines source.toList)[place.line - 1] place.column)
        else none
      else none := by
  split
  · rename_i h
    simp only [ofSource?, List.getElem?_eq_getElem h]
    rfl
  · rename_i h
    simp only [ofSource?, List.getElem?_eq_none (Nat.not_lt.1 h)]
    rfl

end Excerpt

namespace Note

variable {message? : Option String} {excerpt : Excerpt}

/-! ## The line that is quoted -/

/-- The number in the header of a note is that of the line with the position in it, counted
between line feeds. An excerpt is never from a later line; and it is from that one, if
only line feeds end the lines before it. -/
theorem excerpt_of_line (error : ParseError) (c : Cursor) (hsource : c.source = error.source)
    (message? : Option String) :
    ∃ note, error.Gains c.pos message? note ∧
      (c.source.toList.splitOn '\n')[note.place.line - 1]? = some c.line ∧
      ∀ excerpt, note.excerpt? = some excerpt →
        (∃ n ≤ note.place.line - 1, ∃ line, (c.source.toList.splitOn '\n')[n]? = some line ∧
          excerpt.text <:+: line) ∧
        (Text.FeedsOnly c.source.toList c.lineStart → excerpt.text <:+: c.line) := by
  have hgains := error.gains c.pos message?
  rw [← hsource, c.start_skip_pos] at hgains
  refine ⟨_, hgains, c.getElem?_splitOn_line, fun excerpt hexcerpt => ?_⟩
  obtain ⟨row, hrow, -, rfl⟩ := Excerpt.ofSource?_eq_some hexcerpt
  have hpart := Excerpt.ofLine_infix row c.lineColumn.column
  refine ⟨?_, fun hfeeds => ?_⟩
  · obtain ⟨n, hn, line, hline, hinfix⟩ := Text.exists_splitOn_of_lines hrow
    exact ⟨n, hn, line, hline, hpart.trans hinfix⟩
  · obtain rfl : row = c.row := Cursor.eq_row hfeeds hrow
    exact hpart.trans c.row_prefix_line.isInfix

/-- A cursor behind a line that ends in both a carriage return and a line feed, in a line with a
tabulation in it. -/
def tabulated : Cursor where
  source := Source.ofString "x\r\nab\x0bcd"
  pos := 4
  pos_le := by decide

/-- A report on the line with the tabulation. -/
def tabulatedReport : ParseError where
  source := tabulated.source
  pos := 0
  message? := none
  notes := []

/-- The excerpt goes up to the tabulation. -/
theorem excerpt_of_line_tabulated :
    ∃ note, tabulatedReport.Gains 4 none note ∧ note.place = ⟨2, 2⟩ ∧
      note.excerpt? = some ⟨"ab".toList, 1⟩ ∧ "ab".toList <:+: tabulated.line := by
  obtain ⟨note, hgains, -, hquotes⟩ := excerpt_of_line tabulatedReport tabulated rfl none
  have hexcerpt : note.excerpt? = some ⟨"ab".toList, 1⟩ := by
    rw [hgains.eq]
    decide +kernel
  refine ⟨note, hgains, ?_, hexcerpt, (hquotes _ hexcerpt).2 (by decide +kernel)⟩
  rw [hgains.place]
  decide +kernel

/-- A carriage return that ends a line by itself, in front of the line of the cursor. -/
def returned : Cursor where
  source := Source.ofString "ab\rcd\nxy"
  pos := 6
  pos_le := by decide

/-- So an excerpt may be from another line than the one in the header: here it is `cd`, and
the line is `xy`. -/
theorem not_excerpt_of_line :
    ¬ ∀ (error : ParseError) (c : Cursor) (message? : Option String) (note : Note)
        (excerpt : Excerpt), c.source = error.source → error.Gains c.pos message? note →
      note.excerpt? = some excerpt → excerpt.text <:+: c.line := by
  intro hquotes
  have hpart := hquotes { source := returned.source, pos := 6, message? := none, notes := [] }
    returned none _ ⟨"cd".toList, 0⟩ rfl (ParseError.gains _ 6 none) (by decide +kernel)
  exact absurd hpart (by decide +kernel)

/-! ## Where there is an excerpt -/

/-- If only line feeds end lines before a cursor, its note has an excerpt exactly if the
next unit is there and ends no line. -/
theorem isSome_excerpt?_iff {c : Cursor} (h : Text.FeedsOnly c.source.toList c.pos) :
    (ofCursor c message?).excerpt?.isSome ↔
      ∃ unit, c.current? = some unit ∧ Text.isLineBreak unit = false := by
  have hstart : Text.FeedsOnly c.source.toList c.lineStart := h.mono (Nat.sub_le _ _)
  rw [← Cursor.column_le_length_row_iff h, Option.isSome_iff_exists]
  constructor
  · rintro ⟨excerpt, hexcerpt⟩
    obtain ⟨row, hrow, hcolumn, -⟩ := Excerpt.ofSource?_eq_some hexcerpt
    obtain rfl : row = c.row := Cursor.eq_row hstart hrow
    exact hcolumn
  · intro hcolumn
    have hne : Text.behindFeed c.before ++ c.remaining ≠ [] := by
      intro hnil
      rw [Cursor.row, hnil, c.column_eq] at hcolumn
      exact absurd hcolumn (Nat.not_succ_le_zero _)
    exact ⟨_, Excerpt.ofSource?_of_row (Cursor.getElem?_lines_row hstart hne) hcolumn⟩

/-- The excerpt is then a slice of the line of the cursor, and goes around that unit. -/
theorem exists_slice {c : Cursor} (h : Text.FeedsOnly c.source.toList c.pos)
    (hexcerpt : (ofCursor c message?).excerpt? = some excerpt) :
    (Text.lines c.source.toList)[c.lineColumn.line - 1]? = some c.row ∧
      ∃ k, excerpt.text = (c.row.drop k).take Excerpt.width ∧ c.lineStart + k ≤ c.pos ∧
        c.pos < c.lineStart + k + excerpt.text.length := by
  obtain ⟨row, hrow, hcolumn, rfl⟩ := Excerpt.ofSource?_eq_some hexcerpt
  obtain rfl : row = c.row := Cursor.eq_row (h.mono (Nat.sub_le _ _)) hrow
  have hpos : 0 < c.lineColumn.column := Nat.succ_pos _
  obtain ⟨k, hslice, hbefore, hbehind⟩ := Excerpt.ofLine_slice hpos hcolumn
  have hstart := c.lineStart_add
  exact ⟨hrow, k, hslice, by omega, by omega⟩

/-- If only line feeds end lines before a position, the note that a report gains on it has an
excerpt exactly if there is a unit at the position that ends no line. The excerpt is a slice of
at most forty units of the line with the position in it, which is the line with the number in
the header, and that slice goes around the position.

Whatever ends lines, no line is looked up under a number that there is not: a position is
refused if it is negative, the number in a header is at least one, and one that is larger
than the number of lines has no excerpt. -/
theorem excerpt_iff_unit (error : ParseError) (message? : Option String) :
    (∀ pos : Nat, Text.FeedsOnly error.source.toList (min pos error.source.size) →
      ∃ note, error.Gains pos message? note ∧
        (note.excerpt?.isSome ↔ ∃ unit, error.source[pos]? = some unit ∧
          Text.isLineBreak unit = false) ∧
        ∀ excerpt, note.excerpt? = some excerpt → ∃ start row k,
          (Text.lines error.source.toList)[note.place.line - 1]? = some row ∧
          Text.LineAt error.source.toList start row ∧
          excerpt.text = (row.drop k).take 40 ∧
          start + k ≤ pos ∧ pos < start + k + excerpt.text.length) ∧
    ∀ pos : Int,
      (pos < 0 ∧
        error.appendNote pos message? = .error (.positionOutside pos error.source.size)) ∨
      ∃ (n : Nat) (note : Note), pos = n ∧ error.Gains n message? note ∧ 1 ≤ note.place.line ∧
        note.excerpt? =
          if h : note.place.line - 1 < (Text.lines error.source.toList).length then
            if note.place.column ≤ (Text.lines error.source.toList)[note.place.line - 1].length then
              some (Excerpt.ofLine (Text.lines error.source.toList)[note.place.line - 1]
                note.place.column)
            else none
          else none := by
  constructor
  · intro pos hfeeds
    have hpos := Cursor.pos_start_skip error.source pos
    rw [← hpos] at hfeeds
    have hunit : (ofCursor ((Cursor.start error.source).skip pos) message?).excerpt?.isSome ↔
        ∃ unit, error.source[pos]? = some unit ∧ Text.isLineBreak unit = false := by
      rw [isSome_excerpt?_iff hfeeds, Cursor.current?_start_skip]
    refine ⟨_, error.gains pos message?, hunit, fun excerpt hexcerpt => ?_⟩
    obtain ⟨unit, hcurrent, -⟩ := hunit.1 (Option.isSome_of_eq_some hexcerpt)
    obtain ⟨hlt, -⟩ := Array.getElem?_eq_some_iff.1 hcurrent
    rw [Nat.min_eq_left hlt.le] at hpos
    obtain ⟨hrow, k, hslice, hbefore, hbehind⟩ := exists_slice hfeeds hexcerpt
    rw [hpos] at hbefore hbehind
    exact ⟨_, _, k, hrow, ((Cursor.start error.source).skip pos).lineAt_row, hslice, hbefore,
      hbehind⟩
  · intro pos
    by_cases hneg : pos < 0
    · exact .inl ⟨hneg, ParseError.appendNote_negative hneg message?⟩
    · obtain ⟨n, rfl⟩ := Int.eq_ofNat_of_zero_le (Int.not_lt.1 hneg)
      exact .inr ⟨n, _, rfl, error.gains n message?, Nat.succ_pos _, Excerpt.ofSource?_eq _ _⟩

/-- There is an excerpt at the letter in front of the tabulation, and none at the
tabulation. -/
theorem excerpt_iff_unit_tabulated :
    (∃ note, tabulatedReport.Gains 4 none note ∧ note.excerpt?.isSome = true ∧
      ∀ excerpt, note.excerpt? = some excerpt → ∃ start, start ≤ 4 ∧
        4 < start + excerpt.text.length) ∧
    ∃ note, tabulatedReport.Gains 5 none note ∧ note.excerpt?.isSome = false := by
  constructor
  · obtain ⟨note, hgains, hsome, hslice⟩ :=
      (excerpt_iff_unit tabulatedReport none).1 4 (by decide +kernel)
    refine ⟨note, hgains, hsome.2 ⟨'b', by decide +kernel, by decide⟩, fun excerpt hexcerpt => ?_⟩
    obtain ⟨start, row, k, -, -, -, hbefore, hbehind⟩ := hslice excerpt hexcerpt
    exact ⟨start + k, hbefore, hbehind⟩
  · obtain ⟨note, hgains, hsome, -⟩ :=
      (excerpt_iff_unit tabulatedReport none).1 5 (by decide +kernel)
    refine ⟨note, hgains, Bool.eq_false_iff.2 fun htrue => ?_⟩
    obtain ⟨unit, hunit, hunbroken⟩ := hsome.1 htrue
    have htabulation : tabulatedReport.source[5]? = some '\x0b' := by decide +kernel
    obtain rfl : unit = '\x0b' := Option.some.inj (hunit.symm.trans htabulation)
    cases hunbroken

end Note

end Descent
