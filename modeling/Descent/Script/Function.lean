-- SUMMARY: Functions and predicates on items, and functions on failures, as data.
import Descent.Cursor
import Descent.Outcome
import Descent.Text.Integer
import Descent.Value.Operations
import Descent.Value.Written

/-!
# Functions of scripts

The functions, predicates and failure functions that a script may name. Each is
a piece of data with one function that says what it does. Since functions are
data, they may stand in values like everything else: an `Item`, which is what a
scripted parser produces, is a value with functions in it. A function that is
given an item of a kind it does not take stops with `Fault.illTyped`.
-/

namespace Descent.Script

/-! ## Functions -/

/-- A function from items to items. -/
inductive Function where
  | id
  | const (v : Value Function)
  /-- Reads an integer in free form. -/
  | integer
  /-- Joins texts. -/
  | join
  /-- Shows a value as it is shown in reports. -/
  | shown
  /-- Shows the written form of a value. -/
  | written
  | size
  | negate
  | plus (n : Int)
  | times (n : Int)
  /-- A pair of the value and itself. -/
  | pair
  /-- A list of the value alone. -/
  | list
  | index (i : Int)
  /-- A pair of a tag and the value. -/
  | tag (v : Value Function)
  /-- From an item and items, the list with the item in front. -/
  | prepend
  | sum
  /-- From a start and steps, the result of the steps. -/
  | calculate
  | dictionary (keys : List (Value Function))
  | refuse (message : String)
  /-- The function that adds what it is given to the value. -/
  | curryAdd
  /-- The function that pairs the value with what it is given. -/
  | curryPair
  /-- The function that pairs what it is given with the value. -/
  | currySwap
  /-- The function that puts what it is given at the end of the value. -/
  | curryPush
  | addTo (v : Value Function)
  | pairWith (v : Value Function)
  | pairBefore (v : Value Function)
  | pushTo (v : Value Function)
  | followedBy (first second : Function)

/-- What a scripted parser produces: a value with functions in it. -/
abbrev Item := Value Function

namespace Function

/-- One function after another. -/
def inOrder (fs : List Function) : Function := fs.foldl followedBy .id

/-- What a function does to an item. -/
def apply : Function → Item → Except Fault Item
  | .id, v => .ok v
  | .const w, _ => .ok w
  | .integer, .text t => do return .int (← Text.readInteger t.toList)
  | .integer, v => do return .int (← v.asNumber)
  | .join, v => do return .text (String.join (← (← v.items).mapM Value.asText))
  | .shown, v => do return .text (← display v)
  | .written, v => do return .text (← v.written)
  | .size, v => do return .int (← v.length)
  | .negate, v => do return .int (-(← v.asNumber))
  | .plus n, v => v.plus (.int n)
  | .times n, v => v.times (.int n)
  | .pair, v => .ok (.tuple [v, v])
  | .list, v => .ok (.list [v])
  | .index i, v => v.item i
  | .tag t, v => .ok (.tuple [t, v])
  | .prepend, v => do
    let first ← v.item 0
    let rest ← v.item 1
    return .list (first :: (← rest.items))
  | .sum, v => do return .int (← (← v.items).mapM Value.asNumber).sum
  | .calculate, v => do
    let (start, steps) ← v.asPair
    (← steps.items).foldlM Value.calculate start
  | .dictionary keys, v => do Value.dictionary keys (← v.items)
  | .refuse message, _ => .error (.raised message)
  | .curryAdd, v => .ok (.function (.addTo v))
  | .curryPair, v => .ok (.function (.pairWith v))
  | .currySwap, v => .ok (.function (.pairBefore v))
  | .curryPush, v => .ok (.function (.pushTo v))
  | .addTo v, w => v.plus w
  | .pairWith v, w => .ok (.tuple [v, w])
  | .pairBefore v, w => .ok (.tuple [w, v])
  | .pushTo v, w => v.plus (.list [w])
  | .followedBy first second, v => do second.apply (← first.apply v)

end Function

/-- The result of an item on an argument; refuses items that are no functions. -/
def applyItem : Item → Item → Except Fault Item
  | .function f, v => f.apply v
  | _, _ => .error .illTyped

/-! ## Predicates -/

/-- A predicate on items. -/
inductive Predicate where
  | any
  | never
  | eq (v : Item)
  | ne (v : Item)
  /-- A single unit out of some. -/
  | oneOf (units : String)
  /-- Everything but a single unit out of some. -/
  | noneOf (units : String)
  /-- A text between two others, ends included, by code points. -/
  | range (low high : String)
  | lessThan (n : Int)
  | shorterThan (n : Int)
  | refuse (message : String)

namespace Predicate

/-- Whether an item is a single unit out of some. -/
def isUnitOf (units : String) : Item → Bool
  | .text t =>
    match t.toList with
    | [c] => units.toList.contains c
    | _ => false
  | _ => false

/-- Whether an item has the property. -/
def accepts : Predicate → Item → Except Fault Bool
  | .any, _ => .ok true
  | .never, _ => .ok false
  | .eq w, v => .ok (v.same w)
  | .ne w, v => .ok (!v.same w)
  | .oneOf units, v => .ok (isUnitOf units v)
  | .noneOf units, v => .ok (!isUnitOf units v)
  | .range low high, v => do
    let t ← v.asText
    return decide (low ≤ t) && decide (t ≤ high)
  | .lessThan n, v => do return decide ((← v.asNumber) < n)
  | .shorterThan n, v => do return decide (((← v.length) : Int) < n)
  | .refuse message, _ => .error (.raised message)

end Predicate

/-! ## Functions on failures -/

/-- A function from failures to failures. -/
inductive FailureFunction where
  | id
  /-- Puts texts around the expectation. -/
  | wrap (before after : String)
  | advance (n : Int)
  | goto (pos : Int)
  /-- Puts line and column behind the expectation. -/
  | location

namespace FailureFunction

/-- What a failure function does to a failure. -/
def apply : FailureFunction → Failure → Except Fault Failure
  | .id, failure => .ok failure
  | .wrap before after, ⟨expected, c⟩ => .ok ⟨before ++ expected ++ after, c⟩
  | .advance n, ⟨expected, c⟩ => do return ⟨expected, ← c.advance n⟩
  | .goto pos, ⟨expected, c⟩ => do return ⟨expected, ← Cursor.locate c.source pos⟩
  | .location, ⟨expected, c⟩ =>
    .ok ⟨s!"{expected} @ ({c.lineColumn.line}, {c.lineColumn.column})", c⟩

end FailureFunction

end Descent.Script
