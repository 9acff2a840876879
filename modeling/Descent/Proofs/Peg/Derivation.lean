-- SUMMARY: Parsing expressions, what they derive, and the parsers that they stand for.
import Descent.Grammar
import Descent.Parser.Combinators
import Descent.Value.Basic

/-!
# Parsing expressions

A parsing expression derives, of the units that follow, a first part that it
consumes, or a failure. Its choices are ordered: the second alternative is about
the units at which the first one fails. Derivations are finite, so an expression
need not derive anything: a nonterminal may call for itself at the units where it
started, and a repetition may call for a body that consumes nothing.

The parser of an expression uses the combinators for each construct. A choice and
an option rewind their first alternative, because a failure elsewhere commits.
-/

namespace Descent

/-- Parsing expressions over nonterminals `ν`. -/
inductive Peg (ν : Type) where
  /-- Consumes nothing. -/
  | empty
  /-- Consumes one unit, whatever it is. -/
  | anyUnit
  /-- Consumes one unit of a class. -/
  | oneOf (expected : String) (units : Char → Bool)
  /-- Consumes a text, which is not empty. -/
  | literal (text : String) (nonempty : text ≠ "")
  /-- Consumes by one expression and then by another. -/
  | seq (first second : Peg ν)
  /-- Consumes by the second expression if the first one fails. -/
  | choice (first second : Peg ν)
  /-- Consumes by an expression, or nothing if it fails. -/
  | option (e : Peg ν)
  /-- Consumes by an expression until it fails. -/
  | star (e : Peg ν)
  /-- Consumes by the expression of a nonterminal. -/
  | ref (name : ν)

namespace Peg

variable {ν φ : Type}

/-! ## Derivations -/

/-- What an expression derives: `some` of the units consumed, or `none` for a
failure. -/
inductive Derives (rules : ν → Peg ν) : Peg ν → List Char → Option (List Char) → Prop where
  | empty {input} : Derives rules .empty input (some [])
  | anyUnit {unit rest} : Derives rules .anyUnit (unit :: rest) (some [unit])
  | anyUnit_end : Derives rules .anyUnit [] none
  | oneOf {expected units unit rest} : units unit = true →
      Derives rules (.oneOf expected units) (unit :: rest) (some [unit])
  | oneOf_other {expected units unit rest} : units unit = false →
      Derives rules (.oneOf expected units) (unit :: rest) none
  | oneOf_end {expected units} : Derives rules (.oneOf expected units) [] none
  | literal {text nonempty rest} :
      Derives rules (.literal text nonempty) (text.toList ++ rest) (some text.toList)
  | literal_other {text nonempty input} : ¬ text.toList <+: input →
      Derives rules (.literal text nonempty) input none
  | seq {first second xs ys rest} : Derives rules first (xs ++ (ys ++ rest)) (some xs) →
      Derives rules second (ys ++ rest) (some ys) →
      Derives rules (.seq first second) (xs ++ (ys ++ rest)) (some (xs ++ ys))
  | seq_first {first second input} : Derives rules first input none →
      Derives rules (.seq first second) input none
  | seq_second {first second xs rest} : Derives rules first (xs ++ rest) (some xs) →
      Derives rules second rest none → Derives rules (.seq first second) (xs ++ rest) none
  | choice_first {first second input xs} : Derives rules first input (some xs) →
      Derives rules (.choice first second) input (some xs)
  | choice_second {first second input result} : Derives rules first input none →
      Derives rules second input result → Derives rules (.choice first second) input result
  | option_some {e input xs} : Derives rules e input (some xs) →
      Derives rules (.option e) input (some xs)
  | option_none {e input} : Derives rules e input none → Derives rules (.option e) input (some [])
  | star_more {e xs ys rest} : Derives rules e (xs ++ (ys ++ rest)) (some xs) →
      Derives rules (.star e) (ys ++ rest) (some ys) →
      Derives rules (.star e) (xs ++ (ys ++ rest)) (some (xs ++ ys))
  | star_stop {e input} : Derives rules e input none → Derives rules (.star e) input (some [])
  | ref {name input result} : Derives rules (rules name) input result →
      Derives rules (.ref name) input result

/-! ## Parsers -/

/-- The parser of an expression. -/
def toParser : Peg ν → Parser ν (fun _ => Value φ) (Value φ)
  | .empty => .pure .nothing
  | .anyUnit => Parser.anyUnit.map Value.ofUnit
  | .oneOf expected units => (Parser.oneOf expected units).map Value.ofUnit
  | .literal text _ => (Parser.literal text).map Value.text
  | .seq first second =>
    (Parser.sequence2 first.toParser second.toParser).map fun (a, b, ()) => .tuple [a, b]
  | .choice first second => first.toParser.rewind.orElse second.toParser
  | .option e => e.toParser.rewind.optional .nothing
  | .star e => e.toParser.zeroOrMore.map Value.list
  | .ref name => .ref name

/-- The grammar of all nonterminals. -/
def grammar (rules : ν → Peg ν) : Grammar ν (fun _ => Value φ) := fun n => (rules n).toParser

end Peg

end Descent
