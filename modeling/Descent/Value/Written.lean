-- SUMMARY: The written form of values, cursors and outcomes.
import Descent.Outcome
import Descent.Mismatch
import Descent.Text.Decimal
import Descent.Text.Quoted
import Descent.Value.Basic

/-!
# Written forms

Every value without functions has a written form from which its kind and its
parts can be told. In reports a text is shown as it is and every other value by
its written form (the instance of `Display`). Integers beyond the limit on
numerals and functions are refused.

The functions on lists of units take the set of visible units beyond ASCII as a
parameter; the ones on strings use `Text.isPrintable`.
-/

namespace Descent

variable {φ : Type}

namespace Value

mutual
/-- The written form of a value. -/
def writtenWith (printable : Char → Bool) : Value φ → List Char
  | .nothing => "None".toList
  | .bool b => (if b then "True" else "False").toList
  | .int n => (Text.writeInteger n).toList
  | .text t => Text.quotedWith printable t.toList
  | .list items => '[' :: writtenItems printable items ++ [']']
  | .tuple [item] => '(' :: writtenWith printable item ++ [',', ')']
  | .tuple items => '(' :: writtenItems printable items ++ [')']
  | .dict entries => '\x7b' :: writtenEntries printable entries ++ ['\x7d']
  | .function _ => "<function>".toList

/-- The written forms of items, with commas between them. -/
def writtenItems (printable : Char → Bool) : List (Value φ) → List Char
  | [] => []
  | [item] => writtenWith printable item
  | item :: items => writtenWith printable item ++ ',' :: ' ' :: writtenItems printable items

/-- The written forms of entries, with commas between them. -/
def writtenEntries (printable : Char → Bool) : List (Value φ × Value φ) → List Char
  | [] => []
  | [(key, value)] => writtenWith printable key ++ ':' :: ' ' :: writtenWith printable value
  | (key, value) :: entries =>
    writtenWith printable key ++ ':' :: ' ' :: writtenWith printable value ++
      ',' :: ' ' :: writtenEntries printable entries
end

mutual
/-- Why a value is not written, if it is not: the first integer in it beyond the
limit, or the first function. -/
def unwritable? : Value φ → Option Fault
  | .int n => if Text.isWritable n then none else some .longInteger
  | .list items => unwritableItems? items
  | .tuple items => unwritableItems? items
  | .dict entries => unwritableEntries? entries
  | .function _ => some .illTyped
  | _ => none

/-- Why the items are not written, if they are not. -/
def unwritableItems? : List (Value φ) → Option Fault
  | [] => none
  | item :: items => (unwritable? item).or (unwritableItems? items)

/-- Why the entries are not written, if they are not. -/
def unwritableEntries? : List (Value φ × Value φ) → Option Fault
  | [] => none
  | (key, value) :: entries =>
    ((unwritable? key).or (unwritable? value)).or (unwritableEntries? entries)
end

/-- The written form of a value, or why it has none. -/
def written (v : Value φ) : Except Fault String :=
  match v.unwritable? with
  | none => .ok (String.ofList (v.writtenWith Text.isPrintable))
  | some fault => .error fault

instance : Display (Value φ) where
  display
    | .text t => .ok t
    | v => v.written

end Value

/-- The written form of a cursor. -/
def Cursor.writtenWith (printable : Char → Bool) (c : Cursor) : List Char :=
  "Cursor(".toList ++ Text.quotedWith printable c.source.toList ++
    ", ".toList ++ (Text.writeInteger c.pos).toList ++ [')']

/-- The written form of a cursor. -/
def Cursor.written (c : Cursor) : String := String.ofList (c.writtenWith Text.isPrintable)

/-- The written form of an outcome. -/
def Outcome.writtenWith (printable : Char → Bool) : Outcome (Value φ) → List Char
  | .matched value c =>
    "Matched(".toList ++ value.writtenWith printable ++ ", ".toList ++
      c.writtenWith printable ++ [')']
  | .failed failure =>
    "NotMatched(".toList ++ Text.quotedWith printable failure.expected.toList ++ ", ".toList ++
      failure.cursor.writtenWith printable ++ [')']

/-- Why an outcome is not written, if it is not. -/
def Outcome.unwritable? : Outcome (Value φ) → Option Fault
  | .matched value _ => value.unwritable?
  | .failed _ => none

/-- The written form of an outcome, or why it has none. -/
def Outcome.written (outcome : Outcome (Value φ)) : Except Fault String :=
  match outcome.unwritable? with
  | none => .ok (String.ofList (outcome.writtenWith Text.isPrintable))
  | some fault => .error fault

end Descent
