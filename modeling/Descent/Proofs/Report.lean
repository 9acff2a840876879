-- SUMMARY: What a report gains from a note on a position: one more note, and its text.
import Descent.ParseError
import Descent.Proofs.Forward

/-!
# Notes on reports

A note on a position is appended to the notes that a report has, and nothing else of the
report changes. A new report has such a note on its own position. A position beyond the end
of the source is taken as the end, and a negative one is refused.

The text of a note is what is said in front, if there is something, then position, line and
column, and then the excerpt over the caret, if there is one, each on lines of its own.
-/

namespace Descent

namespace Cursor

variable (source : Source) (pos : Nat)

theorem pos_start_skip : ((start source).skip pos).pos = min pos source.size :=
  congrArg (min · source.size) (Nat.zero_add pos)

theorem current?_start_skip : ((start source).skip pos).current? = source[pos]? := by
  rw [current?_eq_head?, remaining_skip, List.head?_drop]
  simp [remaining, start]

theorem start_skip_of_le {source : Source} {pos : Nat} (h : pos ≤ source.size) :
    (start source).skip pos = ⟨source, pos, h⟩ :=
  ext rfl ((pos_start_skip source pos).trans (Nat.min_eq_left h))

theorem start_skip_pos (c : Cursor) : (start c.source).skip c.pos = c :=
  start_skip_of_le c.pos_le

end Cursor

namespace Note

/-- A position beyond the end of the source is taken as the end. -/
theorem locate_skip (source : Source) (pos : Nat) (message? : Option String) :
    locate source pos message? = .ok (ofCursor ((Cursor.start source).skip pos) message?) := by
  have hskip : (Cursor.start source).skip pos =
      ⟨source, min pos source.size, Nat.min_le_right _ _⟩ :=
    Cursor.ext rfl (Cursor.pos_start_skip source pos)
  have hmin : min (pos : Int) source.size = (min pos source.size : Nat) := by omega
  rw [hskip, locate, hmin, Cursor.locate_ofNat (Nat.min_le_right _ _)]
  rfl

theorem locate_negative {source : Source} {pos : Int} (h : pos < 0) (message? : Option String) :
    locate source pos message? = .error (.positionOutside pos source.size) := by
  have hmin : min pos source.size = pos := by omega
  have houtside : ¬ (0 ≤ pos ∧ pos ≤ source.size) := by omega
  rw [locate, hmin, Cursor.locate, dif_neg houtside]
  rfl

end Note

namespace ParseError

theorem appendNote_skip (error : ParseError) (pos : Nat) (message? : Option String) :
    error.appendNote pos message? = .ok
      { error with notes := error.notes ++
          [Note.ofCursor ((Cursor.start error.source).skip pos) message?] } := by
  rw [appendNote, Note.locate_skip]
  rfl

/-- Whether a note is what a report gains on a position, with a message in front or without
one: the last one of its notes, behind those that it had, and the only one of a new report
on that position. The rest is the text of the note. -/
structure Gains (error : ParseError) (pos : Nat) (message? : Option String) (note : Note) :
    Prop where
  appended : error.appendNote pos message? = .ok { error with notes := error.notes ++ [note] }
  made : message? = none → ∀ text?, make error.source pos text? =
    .ok { source := error.source, pos, message? := text?, notes := [note] }
  place : note.place = ((Cursor.start error.source).skip pos).lineColumn
  render : note.render = "\n".intercalate (message?.toList ++
    s!"At position {min pos error.source.size} (line {note.place.line}, column {note.place.column})"
    :: (note.excerpt?.map fun excerpt => String.ofList excerpt.text ++ "\n" ++
      String.ofList (List.replicate excerpt.indent ' ') ++ "^").toList)

theorem gains (error : ParseError) (pos : Nat) (message? : Option String) :
    error.Gains pos message?
      (Note.ofCursor ((Cursor.start error.source).skip pos) message?) where
  appended := error.appendNote_skip pos message?
  made := by
    rintro rfl text?
    exact appendNote_skip { source := error.source, pos, message? := text?, notes := [] } pos none
  place := rfl
  render := by
    rw [← Cursor.pos_start_skip]
    rfl

/-- The note that a report gains is determined. -/
theorem Gains.eq {error : ParseError} {pos : Nat} {message? : Option String} {note : Note}
    (h : error.Gains pos message? note) :
    note = Note.ofCursor ((Cursor.start error.source).skip pos) message? := by
  have hnotes := h.appended.symm.trans (error.gains pos message?).appended
  simpa using hnotes

theorem appendNote_negative {error : ParseError} {pos : Int} (h : pos < 0)
    (message? : Option String) :
    error.appendNote pos message? = .error (.positionOutside pos error.source.size) := by
  rw [appendNote, Note.locate_negative h]
  rfl

end ParseError

end Descent
