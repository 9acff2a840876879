-- SUMMARY: The nested values that scripted parsers produce, their equality and their entries.

/-!
# Values

Scripted parsers produce nested values: seven kinds of data, and functions of
some type `φ` as leaves among them. `Value.same` is the equality between values:
a truth value is the number that it counts as, lists and tuples are never the
same, and dictionaries are compared without regard to the order of their
entries. The order is kept all the same, since it is shown. A function is the
same as nothing.
-/

namespace Descent

/-- A nested value with functions of type `φ`. -/
inductive Value (φ : Type) where
  | nothing
  | bool (b : Bool)
  | int (n : Int)
  | text (text : String)
  | list (items : List (Value φ))
  | tuple (items : List (Value φ))
  | dict (entries : List (Value φ × Value φ))
  | function (f : φ)

namespace Value

variable {φ β : Type}

instance : Inhabited (Value φ) := ⟨.nothing⟩

/-- A single unit as a value. -/
def ofUnit (c : Char) : Value φ := .text (String.singleton c)

/-! ## Equality -/

/-- The number that a value counts as, if it counts as one. -/
def number? : Value φ → Option Int
  | .bool b => some (if b then 1 else 0)
  | .int n => some n
  | _ => none

mutual
/-- Whether two values are the same. -/
def same : Value φ → Value φ → Bool
  | .nothing, .nothing => true
  | .text s, .text t => s == t
  | .list xs, .list ys => sameItems xs ys
  | .tuple xs, .tuple ys => sameItems xs ys
  | .dict xs, .dict ys => xs.length == ys.length && sameEntries xs ys
  | .bool b, w => w.number? == some (if b then 1 else 0)
  | .int n, w => w.number? == some n
  | _, _ => false

/-- Whether two lists have the same items in the same order. -/
def sameItems : List (Value φ) → List (Value φ) → Bool
  | [], [] => true
  | x :: xs, y :: ys => same x y && sameItems xs ys
  | _, _ => false

/-- Whether each entry of one dictionary is in another. -/
def sameEntries : List (Value φ × Value φ) → List (Value φ × Value φ) → Bool
  | [], _ => true
  | (key, value) :: rest, others =>
    others.any (fun (otherKey, other) => same key otherKey && same value other) &&
      sameEntries rest others
end

mutual
/-- Whether a value may be the key of an entry: no list or dictionary inside. -/
def isKey : Value φ → Bool
  | .tuple items => areKeys items
  | .list _ => false
  | .dict _ => false
  | _ => true

/-- Whether all items may be keys. -/
def areKeys : List (Value φ) → Bool
  | [] => true
  | item :: items => isKey item && areKeys items
end

/-- Whether a value counts as true: all but nothing, zero and the empty ones. -/
def isTruthy : Value φ → Bool
  | .nothing => false
  | .bool b => b
  | .int n => n != 0
  | .text t => !t.isEmpty
  | .list items => !items.isEmpty
  | .tuple items => !items.isEmpty
  | .dict entries => !entries.isEmpty
  | .function _ => true

/-! ## Entries -/

/-- The value under a key, if there is one. -/
def lookupKey? (key : Value φ) : List (Value φ × β) → Option β
  | [] => none
  | (otherKey, value) :: rest => if same otherKey key then some value else lookupKey? key rest

/-- Entries with one more. A key that is there already keeps its place and its
form, and takes the new value. -/
def insertEntry (key : Value φ) (value : β) : List (Value φ × β) → List (Value φ × β)
  | [] => [(key, value)]
  | (oldKey, oldValue) :: rest =>
    if same oldKey key then
      (oldKey, value) :: rest
    else
      (oldKey, oldValue) :: insertEntry key value rest

/-- The entries that remain of a list in which keys may repeat. -/
def mergeEntries (entries : List (Value φ × β)) : List (Value φ × β) :=
  entries.foldl (fun merged (key, value) => insertEntry key value merged) []

/-- The dictionary of a list of entries in which keys may repeat. -/
def ofEntries (entries : List (Value φ × Value φ)) : Value φ := .dict (mergeEntries entries)

end Value

end Descent
