-- SUMMARY: The wording of failures, and how tested values are shown in it.
import Descent.Fault

/-!
# Wording of failures

The parsers that test a unit or a value report what they expected, what they
found and where they started. The shape of that report is one list of pieces,
`Mismatch.format`; `Mismatch.message` fills it in and `Mismatch.pattern` shows
it with the names of its slots.
-/

namespace Descent

/-- Types whose values can be shown in a report. Showing a value may fail. -/
class Display (α : Type) where
  display : α → Except Fault String

export Display (display)

instance : Display Char := ⟨fun c => .ok (String.singleton c)⟩

instance : Display String := ⟨fun s => .ok s⟩

namespace Mismatch

/-- A piece of the report: fixed text or a slot. -/
inductive Piece where
  | text (fixed : String)
  | expected
  | actual
  | index
  deriving DecidableEq

/-- The report names what was expected, then what was found between double
quotes, then the position. -/
def format : List Piece :=
  [.expected, .text "; actual: \"", .actual, .text "\"; index=", .index]

/-- The report on finding `actual` at `index`. -/
def message (expected actual : String) (index : Int) : String :=
  String.join (format.map fun
    | .text fixed => fixed
    | .expected => expected
    | .actual => actual
    | .index => toString index)

/-- The report with its slots named instead of filled. -/
def pattern : String :=
  String.join (format.map fun
    | .text fixed => fixed
    | .expected => "\x7bexpected\x7d"
    | .actual => "\x7bactual\x7d"
    | .index => "\x7bindex\x7d")

theorem message_eq (expected actual : String) (index : Int) :
    message expected actual index =
      expected ++ "; actual: \"" ++ actual ++ "\"; index=" ++ toString index := by
  simp [message, format, String.join]

/-- Reported where input is left but none is expected. -/
def inputLeft : String := "not eof"

/-- Reported where a unit is expected but none is left. -/
def noUnitLeft : String := "expected unit; end of input"

/-- What a literal expects. -/
def expectedText (text : String) : String := s!"expected \"{text}\""

end Mismatch

end Descent
