-- SUMMARY: Comparing outcomes, cursors and values with each other.
import Descent.Script.Description

/-!
# Comparisons

Outcomes, cursors and values can be compared with each other. Things of two
kinds are never the same; outcomes are the same if they have the same value or
wording and the same cursor.
-/

namespace Descent.Script

/-- Something that can be compared. -/
inductive Subject where
  | outcome (outcome : Outcome Item)
  | cursor (cursor : Cursor)
  | value (value : Item)

/-- Something to be compared, with cursors given by source and position. -/
inductive SubjectDescription where
  | outcome (outcome : OutcomeDescription)
  | cursor (source : Source) (pos : Int)
  | value (value : Item)

/-- The described subject; refuses positions outside of their sources. -/
def SubjectDescription.build : SubjectDescription → Except Fault Subject
  | .outcome o => do return .outcome (← o.build)
  | .cursor source pos => do return .cursor (← Cursor.locate source pos)
  | .value v => .ok (.value v)

/-- Whether two outcomes are the same. -/
def sameOutcome : Outcome Item → Outcome Item → Bool
  | .matched v c, .matched w d => v.same w && c == d
  | .failed f, .failed g => f == g
  | _, _ => false

namespace Subject

/-- Whether two subjects are the same. -/
def same : Subject → Subject → Bool
  | .outcome o, .outcome p => sameOutcome o p
  | .cursor c, .cursor d => c == d
  | .value v, .value w => v.same w
  | _, _ => false

/-- The written form of a subject, if it is within the limits. -/
def written : Subject → Except Fault String
  | .outcome o => o.written
  | .cursor c => .ok c.written
  | .value v => v.written

/-- Whether a subject counts as true. Matches and cursors do, failures do not. -/
def isTruthy : Subject → Bool
  | .outcome o => o.isMatch
  | .cursor _ => true
  | .value v => v.isTruthy

/-- Whether a subject may be the key of an entry. -/
def isKey : Subject → Bool
  | .outcome (.matched v _) => v.isKey
  | .outcome (.failed _) => true
  | .cursor _ => true
  | .value v => v.isKey

end Subject

/-- What a comparison of two subjects shows. -/
structure Comparison where
  same : Bool
  written : String × String
  truthy : Bool × Bool
  /-- Whether both may be the key of an entry. -/
  keys : Bool

/-- Compares two described subjects. -/
def Comparison.make (a b : SubjectDescription) : Except Fault Comparison := do
  let a ← a.build
  let b ← b.build
  let writtenA ← a.written
  let writtenB ← b.written
  return {
    same := a.same b
    written := (writtenA, writtenB)
    truthy := (a.isTruthy, b.isTruthy)
    keys := a.isKey && b.isKey }

end Descent.Script
