-- SUMMARY: Operations that take values of some kinds only.
import Descent.Fault
import Descent.Value.Basic

/-!
# Operations on values

Operations that are defined for values of some kinds and refuse the others with
`Fault.illTyped`. Where items are asked for, a text counts as the list of its
units and a dictionary as the list of its keys; where a number is asked for, a
truth value counts as zero or one.
-/

namespace Descent.Value

variable {φ : Type}

/-! ## Parts -/

/-- The number that a value counts as. -/
def asNumber (v : Value φ) : Except Fault Int :=
  match v.number? with
  | some n => .ok n
  | none => .error .illTyped

/-- The text of a text. -/
def asText : Value φ → Except Fault String
  | .text t => .ok t
  | _ => .error .illTyped

/-- The items of a list or a tuple, the units of a text, the keys of a
dictionary. -/
def items : Value φ → Except Fault (List (Value φ))
  | .list vs => .ok vs
  | .tuple vs => .ok vs
  | .text t => .ok (t.toList.map ofUnit)
  | .dict entries => .ok (entries.map Prod.fst)
  | _ => .error .illTyped

/-- The two items of a pair. -/
def asPair (v : Value φ) : Except Fault (Value φ × Value φ) := do
  match ← v.items with
  | [first, second] => return (first, second)
  | _ => throw .illTyped

/-- The number of items. -/
def length (v : Value φ) : Except Fault Nat := do return (← v.items).length

/-- The value that was looked for; refuses to go on without one. -/
def found : Option (Value φ) → Except Fault (Value φ)
  | some v => .ok v
  | none => .error .illTyped

/-- The item of a list at an index; a negative one counts from the end. -/
def itemAt? (vs : List (Value φ)) (index : Int) : Option (Value φ) :=
  let place := if index < 0 then index + vs.length else index
  if place < 0 then none else vs[place.toNat]?

/-- The item at an index; of a dictionary, the value under the index. -/
def item (v : Value φ) (index : Int) : Except Fault (Value φ) :=
  match v with
  | .dict entries => found (lookupKey? (.int index) entries)
  | v => do found (itemAt? (← v.items) index)

/-! ## Arithmetic -/

/-- The sum of two numbers; two texts, lists or tuples are joined. -/
def plus : Value φ → Value φ → Except Fault (Value φ)
  | .text s, .text t => .ok (.text (s ++ t))
  | .list vs, .list ws => .ok (.list (vs ++ ws))
  | .tuple vs, .tuple ws => .ok (.tuple (vs ++ ws))
  | v, w => do return .int ((← v.asNumber) + (← w.asNumber))

/-- The difference of two numbers. -/
def minus (v w : Value φ) : Except Fault (Value φ) := do
  return .int ((← v.asNumber) - (← w.asNumber))

/-- A text, a list or a tuple so many times over; refuses other values. -/
def repeated (v : Value φ) (count : Int) : Except Fault (Value φ) :=
  match v with
  | .text t => .ok (.text (String.join (List.replicate count.toNat t)))
  | .list vs => .ok (.list (List.replicate count.toNat vs).flatten)
  | .tuple vs => .ok (.tuple (List.replicate count.toNat vs).flatten)
  | _ => .error .illTyped

/-- The product of two numbers; anything else is repeated as often as the number
with it says. -/
def times (v w : Value φ) : Except Fault (Value φ) :=
  match v.number?, w.number? with
  | some m, some n => .ok (.int (m * n))
  | some m, none => w.repeated m
  | none, some n => v.repeated n
  | none, none => .error .illTyped

/-- One step of a calculation, given as an operator and an operand: adds,
subtracts, or else multiplies. -/
def calculate (total step : Value φ) : Except Fault (Value φ) := do
  match ← step.asPair with
  | (.text "+", operand) => total.plus operand
  | (.text "-", operand) => total.minus operand
  | (_, operand) => total.times operand

/-- The dictionary of some keys and as many values; refuses keys that no entry
can have. -/
def dictionary (keys values : List (Value φ)) : Except Fault (Value φ) :=
  if keys.all isKey then .ok (ofEntries (keys.zip values)) else .error .illTyped

end Descent.Value
