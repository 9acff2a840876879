-- SUMMARY: Flat tuples with items of different types.

/-!
# Tuples

The type of a tuple is the list of the types of its items. A tuple among the
items of another one is one item of it, so a tuple is never longer or shorter
for what its items are: `Tuple [α, Tuple [β, γ]]` has two items and
`Tuple [α, β, γ]` three.
-/

namespace Descent

/-- An item of each of the types, in order. -/
abbrev Tuple : List Type → Type
  | [] => Unit
  | α :: types => α × Tuple types

/-- The tuple with one more item at its end. -/
def Tuple.concat {β : Type} : {types : List Type} → Tuple types → β → Tuple (types ++ [β])
  | [], (), item => (item, ())
  | _ :: _, (first, items), item => (first, concat items item)

end Descent
