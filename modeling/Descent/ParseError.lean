-- SUMMARY: The report on a failed parse, with notes that show the place in the source.
import Descent.Outcome
import Descent.Text.Lines

/-!
# Parse errors

A failed parse that reaches the caller becomes a report: the source, the
position, the expectation that was not met, and notes. A note has a message of
its own or none, a header with position, line and column, and, where the source
has a line with that column, an excerpt of the line over a caret.

Lines and columns of the header count line feeds alone (`Cursor.lineColumn`);
the excerpt is cut from the lines in the sense of `Text.lines`.
-/

namespace Descent

/-- A part of a line, and how far the caret under it is indented. -/
structure Excerpt where
  text : List Char
  indent : Nat
  deriving DecidableEq

namespace Excerpt

/-- The most columns that an excerpt leaves in front of its caret. -/
def lead : Nat := 20

/-- The most units in an excerpt. -/
def width : Nat := 40

/-- The excerpt of a line at a column: from the start of the line as long as the
caret has room there, and from `lead` columns before the column otherwise. -/
def ofLine (line : List Char) (column : Nat) : Excerpt :=
  if column ≤ lead then
    ⟨line.take width, column - 1⟩
  else
    ⟨(line.drop (column - lead)).take width, lead⟩

/-- The excerpt of a source at a line and column; there is none where the source
has no such line or the line no such column. -/
def ofSource? (source : Source) (place : LineColumn) : Option Excerpt := do
  let line ← (Text.lines source.toList)[place.line - 1]?
  if place.column ≤ line.length then some (ofLine line place.column) else none

/-- The excerpt over its caret. -/
def render (excerpt : Excerpt) : String :=
  String.ofList excerpt.text ++ "\n" ++ String.ofList (List.replicate excerpt.indent ' ') ++ "^"

end Excerpt

/-- A note of a report: a place in the source, and what is said about it. -/
structure Note where
  message? : Option String
  pos : Nat
  place : LineColumn
  excerpt? : Option Excerpt
  deriving DecidableEq

namespace Note

/-- The note on a cursor. -/
def ofCursor (c : Cursor) (message? : Option String) : Note where
  message?
  pos := c.pos
  place := c.lineColumn
  excerpt? := Excerpt.ofSource? c.source c.lineColumn

/-- The note on a position. A position beyond the end of the source is taken as
the end; a negative one is refused. -/
def locate (source : Source) (pos : Int) (message? : Option String) : Except Fault Note := do
  let c ← Cursor.locate source (min pos source.size)
  return ofCursor c message?

theorem locate_ofNat {source : Source} {pos : Nat} (h : pos ≤ source.size)
    {message? : Option String} :
    locate source pos message? = .ok (ofCursor ⟨source, pos, h⟩ message?) := by
  have hmin : min (pos : Int) source.size = pos := by omega
  simp only [locate, hmin, Cursor.locate_ofNat h]
  rfl

/-- Position, line and column in words. -/
def header (note : Note) : String :=
  s!"At position {note.pos} (line {note.place.line}, column {note.place.column})"

/-- Message, header and excerpt, on lines of their own. -/
def render (note : Note) : String :=
  "\n".intercalate (note.message?.toList ++ note.header :: (note.excerpt?.map Excerpt.render).toList)

end Note

/-- The report on a failed parse. -/
structure ParseError where
  source : Source
  pos : Int
  message? : Option String
  notes : List Note
  deriving DecidableEq

namespace ParseError

/-- The report with one more note on a position; refuses a negative one. -/
def appendNote (error : ParseError) (pos : Int) (message? : Option String) :
    Except Fault ParseError := do
  let note ← Note.locate error.source pos message?
  return { error with notes := error.notes ++ [note] }

/-- The report on a position, with a first note on it; refuses a negative one. -/
def make (source : Source) (pos : Int) (message? : Option String) : Except Fault ParseError :=
  appendNote { source, pos, message?, notes := [] } pos none

/-- Appends notes one after another. Says of each why it was refused, if it was,
and which notes the report then has. -/
def appendEach (error : ParseError) :
    List (Int × Option String) → List (Option Fault × List Note)
  | [] => []
  | (pos, message?) :: rest =>
    match error.appendNote pos message? with
    | .ok next => (none, next.notes) :: next.appendEach rest
    | .error fault => (some fault, error.notes) :: error.appendEach rest

end ParseError

/-- The report on a failure. -/
def Failure.error (failure : Failure) : ParseError where
  source := failure.cursor.source
  pos := failure.cursor.pos
  message? := some failure.expected
  notes := [Note.ofCursor failure.cursor none]

/-- A failure is reported as its position and message are. -/
theorem Failure.make_error (failure : Failure) :
    ParseError.make failure.cursor.source failure.cursor.pos (some failure.expected) =
      .ok failure.error := by
  simp only [ParseError.make, ParseError.appendNote, Note.locate_ofNat failure.cursor.pos_le]
  rfl

end Descent
