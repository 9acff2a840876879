-- SUMMARY: Where the caret of a note stands under the unit that the note is about.
import Descent.Proofs.Lines
import Descent.Proofs.Report

/-!
# Excerpts

The excerpt of a note is a part of the line of its position, over a caret. In the first
`Excerpt.lead` columns it begins with the line, and the caret is under the unit at the
position. Beyond them it begins one unit too late for that: the unit at the position is
the last one in front of the caret, and in the last column of a line the caret is
behind the excerpt.
-/

namespace Descent

namespace Excerpt

variable {row : List Char} {column : Nat}

theorem ofLine_near (h : column ≤ lead) : ofLine row column = ⟨row.take width, column - 1⟩ :=
  if_pos h

theorem ofLine_far (h : lead < column) :
    ofLine row column = ⟨(row.drop (column - lead)).take width, lead⟩ := if_neg (Nat.not_le.2 h)

/-- In the first columns, the unit of the column is above the caret. -/
theorem getElem?_ofLine_near (h : column ≤ lead) :
    (ofLine row column).text[(ofLine row column).indent]? = row[column - 1]? := by
  have hwidth : column - 1 < width := by
    simp only [lead, width] at h ⊢
    omega
  rw [ofLine_near h, List.getElem?_take_of_lt hwidth]

/-- Beyond them, it is in front of the unit above the caret. -/
theorem getElem?_ofLine_far (h : lead < column) :
    (ofLine row column).text[lead - 1]? = row[column - 1]? := by
  have hwidth : lead - 1 < width := by decide
  have hindex : column - lead + (lead - 1) = column - 1 := by
    simp only [lead] at h ⊢
    omega
  rw [ofLine_far h, List.getElem?_take_of_lt hwidth, List.getElem?_drop, hindex]

/-- An excerpt is one of the line of a place, which reaches to the column there. -/
theorem ofSource?_eq_some {source : Source} {place : LineColumn} {excerpt : Excerpt}
    (h : ofSource? source place = some excerpt) :
    ∃ row, (Text.lines source.toList)[place.line - 1]? = some row ∧
      place.column ≤ row.length ∧ excerpt = ofLine row place.column := by
  obtain ⟨row, hrow, hexcerpt⟩ := Option.bind_eq_some_iff.1 h
  split at hexcerpt
  · rename_i hcolumn
    exact ⟨row, hrow, hcolumn, (Option.some.inj hexcerpt).symm⟩
  · cases hexcerpt

/-- The caret under a cursor, if only line feeds end the lines before it. -/
theorem caret_of_ofSource? {c : Cursor} (hfeeds : Text.FeedsOnly c.source.toList c.pos)
    {excerpt : Excerpt} (h : ofSource? c.source c.lineColumn = some excerpt) :
    (c.lineColumn.column ≤ lead → excerpt.text[excerpt.indent]? = c.current?) ∧
    (lead < c.lineColumn.column →
      excerpt.indent = lead ∧ excerpt.text[excerpt.indent - 1]? = c.current?) := by
  obtain ⟨row, hrow, hcolumn, rfl⟩ := ofSource?_eq_some h
  have hunit : row[c.lineColumn.column - 1]? = c.current? := by
    obtain rfl : row = c.row := Cursor.eq_row (hfeeds.mono (Nat.sub_le _ _)) hrow
    exact Cursor.getElem?_row hcolumn
  constructor
  · intro hnear
    exact (getElem?_ofLine_near hnear).trans hunit
  · intro hfar
    have hindent : (ofLine row c.lineColumn.column).indent = lead :=
      congrArg indent (ofLine_far hfar)
    rw [hindent]
    exact ⟨rfl, (getElem?_ofLine_far hfar).trans hunit⟩

end Excerpt

namespace Note

/-- The unit at the position of a note that a report gains, seen from the caret. In the first
twenty columns it is above the caret; beyond them, it is the unit before that one. This is about
sources whose lines all end in a line feed, which may be behind a carriage return. -/
theorem caret_of_excerpt (error : ParseError) {pos : Nat} (message? : Option String)
    (hfeeds : Text.FeedsOnly error.source.toList error.source.size)
    (hpos : pos < error.source.size) :
    ∃ note, error.Gains pos message? note ∧ ∀ excerpt, note.excerpt? = some excerpt →
      (note.place.column ≤ 20 → excerpt.text[excerpt.indent]? = some error.source[pos]) ∧
      (20 < note.place.column → excerpt.indent = 20 ∧
        excerpt.text[excerpt.indent - 1]? = some error.source[pos]) := by
  refine ⟨_, error.gains pos message?, fun excerpt hexcerpt => ?_⟩
  have hbefore : Text.FeedsOnly error.source.toList pos := fun i hi => hfeeds i (hi.trans hpos)
  rw [Cursor.start_skip_of_le hpos.le] at hexcerpt ⊢
  rw [← Array.getElem?_eq_getElem hpos]
  exact Excerpt.caret_of_ofSource? (c := ⟨error.source, pos, hpos.le⟩) hbefore hexcerpt

/-- A report on the first twenty-one letters, in the second line of a source. -/
def letters : ParseError where
  source := Source.ofString "\r\nabcdefghijklmnopqrstu"
  pos := 0
  message? := some "no letter"
  notes := []

theorem letters_feedsOnly : Text.FeedsOnly letters.source.toList letters.source.size := by decide

/-- The caret is under the twentieth letter, and behind the one after it. -/
theorem caret_of_excerpt_letters :
    (∃ note, letters.Gains 21 none note ∧
      note.excerpt? = some ⟨"abcdefghijklmnopqrstu".toList, 19⟩ ∧
      "abcdefghijklmnopqrstu".toList[19]? = some 't') ∧
    ∃ note, letters.Gains 22 none note ∧
      note.excerpt? = some ⟨"bcdefghijklmnopqrstu".toList, 20⟩ ∧
      "bcdefghijklmnopqrstu".toList[20 - 1]? = some 'u' := by
  constructor
  · have hpos : 21 < letters.source.size := by decide
    obtain ⟨note, hgains, hcaret⟩ := caret_of_excerpt letters none letters_feedsOnly hpos
    have hexcerpt : note.excerpt? = some ⟨"abcdefghijklmnopqrstu".toList, 19⟩ := by
      rw [hgains.eq]
      decide +kernel
    refine ⟨note, hgains, hexcerpt, (hcaret _ hexcerpt).1 ?_⟩
    rw [hgains.place]
    decide +kernel
  · have hpos : 22 < letters.source.size := by decide
    obtain ⟨note, hgains, hcaret⟩ := caret_of_excerpt letters none letters_feedsOnly hpos
    have hexcerpt : note.excerpt? = some ⟨"bcdefghijklmnopqrstu".toList, 20⟩ := by
      rw [hgains.eq]
      decide +kernel
    refine ⟨note, hgains, hexcerpt, ((hcaret _ hexcerpt).2 ?_).2⟩
    rw [hgains.place]
    decide +kernel

/-- So the caret is not always under the unit at the position: here it is behind the
excerpt. -/
theorem not_caret_under_unit :
    ¬ ∀ (error : ParseError) (pos : Nat) (hpos : pos < error.source.size)
        (message? : Option String) (note : Note) (excerpt : Excerpt),
      Text.FeedsOnly error.source.toList error.source.size → error.Gains pos message? note →
      note.excerpt? = some excerpt →
      excerpt.indent < excerpt.text.length ∧
        excerpt.text[excerpt.indent]? = some error.source[pos] := by
  intro hunder
  have hbehind := hunder letters 22 (by decide) none _ ⟨"bcdefghijklmnopqrstu".toList, 20⟩
    letters_feedsOnly (letters.gains 22 none) (by decide +kernel)
  exact absurd hbehind.1 (by decide)

end Note

end Descent
