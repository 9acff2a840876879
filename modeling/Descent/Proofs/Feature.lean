-- SUMMARY: Which features a parser makes use of, and parsers that avoid some of them.
import Mathlib.Data.Set.Insert
import Descent.Grammar

/-!
# Features

Some constructors of `Parser` give up what all the others guarantee: a user's own
function may move anywhere, a mapped failure may be reported anywhere, and a name
may be defined by itself. Statements about parsers say which of them are not
used. A parser that is chosen from a value counts as a part of the one that
chooses it, whatever the value.
-/

namespace Descent

/-- What a parser over names `ν` may make use of. -/
inductive Feature (ν : Type) where
  /-- A user's own function from cursors to outcomes. -/
  | custom
  /-- A user's own function from failures to failures. -/
  | mapFailure
  /-- An entry in the journal on where and how a parser runs. -/
  | spy
  /-- The parser of a name. -/
  | ref (name : ν)

namespace Parser

variable {ν : Type} {ρ : ν → Type} {α : Type}

/-- Whether no part of a parser makes use of an excluded feature. -/
def Avoids (excluded : Set (Feature ν)) : {α : Type} → Parser ν ρ α → Prop
  | _, .endOfInput => True
  | _, .anyUnit => True
  | _, .literal _ => True
  | _, .fail _ => True
  | _, .pure _ => True
  | _, .convert p _ => p.Avoids excluded
  | _, @Parser.check _ _ _ _ _ p _ => p.Avoids excluded
  | _, .mapFailure p _ => .mapFailure ∉ excluded ∧ p.Avoids excluded
  | _, .withExpected p _ => p.Avoids excluded
  | _, .bind p next => p.Avoids excluded ∧ ∀ value, (next value).Avoids excluded
  | _, .inOrder ps => ∀ i, (ps i).Avoids excluded
  | _, .orElse first second => first.Avoids excluded ∧ second.Avoids excluded
  | _, .rewind p => p.Avoids excluded
  | _, .zeroOrMore p => p.Avoids excluded
  | _, .upTo p _ => p.Avoids excluded
  | _, .ref name => .ref name ∉ excluded
  | _, .custom _ => .custom ∉ excluded
  | _, .spy _ p => .spy ∉ excluded ∧ p.Avoids excluded

/-- A parser that avoids some features avoids fewer of them. -/
theorem Avoids.subset {A B : Set (Feature ν)} {p : Parser ν ρ α} (hB : p.Avoids B)
    (hAB : A ⊆ B) : p.Avoids A := by
  induction p with
  | endOfInput | anyUnit | literal | fail | pure => trivial
  | convert p _ ih | check _ p _ ih | withExpected p _ ih | rewind p ih | zeroOrMore p ih
  | upTo p _ ih => exact ih hB
  | mapFailure p _ ih | spy _ p ih => exact ⟨fun h => hB.1 (hAB h), ih hB.2⟩
  | bind p next ih ihnext => exact ⟨ih hB.1, fun value => ihnext value (hB.2 value)⟩
  | inOrder ps ih => exact fun i => ih i (hB i)
  | orElse first second ihfirst ihsecond => exact ⟨ihfirst hB.1, ihsecond hB.2⟩
  | ref | custom => exact fun h => hB (hAB h)

/-- A parser that avoids two sets of features avoids both together. -/
theorem Avoids.union {A B : Set (Feature ν)} {p : Parser ν ρ α} (hA : p.Avoids A)
    (hB : p.Avoids B) : p.Avoids (A ∪ B) := by
  induction p with
  | endOfInput | anyUnit | literal | fail | pure => trivial
  | convert p _ ih | check _ p _ ih | withExpected p _ ih | rewind p ih | zeroOrMore p ih
  | upTo p _ ih => exact ih hA hB
  | mapFailure p _ ih | spy _ p ih =>
    refine ⟨fun h => ?_, ih hA.2 hB.2⟩
    exact (Set.mem_or_mem_of_mem_union h).elim hA.1 hB.1
  | bind p next ih ihnext =>
    exact ⟨ih hA.1 hB.1, fun value => ihnext value (hA.2 value) (hB.2 value)⟩
  | inOrder ps ih => exact fun i => ih i (hA i) (hB i)
  | orElse first second ihfirst ihsecond => exact ⟨ihfirst hA.1 hB.1, ihsecond hA.2 hB.2⟩
  | ref | custom => exact fun h => (Set.mem_or_mem_of_mem_union h).elim hA hB

end Parser

end Descent
