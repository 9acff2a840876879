-- SUMMARY: Sources, cursors into them, and the line and column of a cursor.
import Descent.Fault

/-!
# Cursors

A cursor is the complete source together with the position of the next unit to
read. The position is never beyond the end of the source: the type carries the
bound, and the two functions that make a cursor from an arbitrary integer,
`Cursor.locate` and `Cursor.advance`, refuse a position that the source does
not have.

Units are code points, and positions, lengths and columns count them. They are
the code points of `Char`, which leaves out the surrogates: a source with a
lone surrogate in it has no counterpart here.
-/

namespace Descent

/-- The complete input, unit by unit. -/
abbrev Source := Array Char

namespace Source

/-- The source with the units of a text. -/
def ofString (text : String) : Source := text.toList.toArray

/-- The text of a source. -/
def text (source : Source) : String := String.ofList source.toList

@[simp] theorem text_ofString (text : String) : (ofString text).text = text := by
  simp [ofString, Source.text]

@[simp] theorem ofString_text (source : Source) : ofString source.text = source := by
  simp [ofString, Source.text]

end Source

/-- A read position: a source and the offset of the next unit to read. -/
structure Cursor where
  source : Source
  pos : Nat := 0
  pos_le : pos ≤ source.size := by omega
  deriving DecidableEq

/-- A line and a column, both counted from one. -/
structure LineColumn where
  line : Nat
  column : Nat
  deriving DecidableEq, Repr

namespace Cursor

theorem ext {c d : Cursor} (hs : c.source = d.source) (hp : c.pos = d.pos) : c = d := by
  cases c; cases d; cases hs; cases hp; rfl

/-- The cursor before the first unit. -/
def start (source : Source) : Cursor := { source }

/-! ## Moving -/

/-- The cursor at a position of a source; refuses positions outside of it. -/
def locate (source : Source) (pos : Int) : Except Fault Cursor :=
  if h : 0 ≤ pos ∧ pos ≤ source.size then
    .ok { source, pos := pos.toNat, pos_le := by omega }
  else
    .error (.positionOutside pos source.size)

/-- The cursor moved by an amount of units, backwards when it is negative. -/
def advance (c : Cursor) (amount : Int) : Except Fault Cursor :=
  locate c.source (c.pos + amount)

theorem locate_ofNat {source : Source} {pos : Nat} (h : pos ≤ source.size) :
    locate source pos = .ok { source, pos, pos_le := h } := by
  have h' : (0 : Int) ≤ pos ∧ (pos : Int) ≤ source.size := by omega
  simp [locate, h']

theorem advance_ofNat {c : Cursor} {n : Nat} (h : c.pos + n ≤ c.source.size) :
    c.advance n = .ok { source := c.source, pos := c.pos + n, pos_le := h } := by
  simpa [advance] using locate_ofNat h

/-! ## Looking -/

/-- Whether two cursors stand at the same offset, whatever their sources. -/
def samePos (c d : Cursor) : Bool := c.pos == d.pos

/-- Whether no unit is left to read. -/
def atEnd (c : Cursor) : Bool := decide (c.source.size ≤ c.pos)

/-- The next unit to read, if there is one. -/
def current? (c : Cursor) : Option Char := c.source[c.pos]?

/-- The text of the next `n` units, of fewer at the end of the source. -/
def take (c : Cursor) (n : Nat) : String :=
  String.ofList (c.source.extract c.pos (c.pos + n)).toList

/-- The units that are not read yet. -/
def remaining (c : Cursor) : List Char := c.source.toList.drop c.pos

/-- The text that is not read yet. -/
def rest (c : Cursor) : String := String.ofList c.remaining

/-- The units that are read already. -/
def before (c : Cursor) : List Char := c.source.toList.take c.pos

/-- One more than the line feeds that are read, and one more than the units
read after the last of them. -/
def lineColumn (c : Cursor) : LineColumn where
  line := c.before.count '\n' + 1
  column := (c.before.reverse.takeWhile (· != '\n')).length + 1

theorem take_eq (c : Cursor) (n : Nat) : c.take n = String.ofList (c.remaining.take n) := by
  simp [take, remaining, List.extract_eq_take_drop]

theorem current?_eq_head? (c : Cursor) : c.current? = c.remaining.head? := by
  simp [current?, remaining, List.head?_drop]

end Cursor

end Descent
