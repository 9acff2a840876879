-- SUMMARY: Grammars as data: descriptions of parsers, and building parsers from them.
import Descent.Grammar
import Descent.Lexeme.Number
import Descent.Lexeme.Word
import Descent.Lexeme.Quoted
import Descent.Script.Function

/-!
# Descriptions

A description says how a parser is put together, with every argument as data.
`Description.build` puts it together: first the parts, from left to right, then
the whole, so that of several faults the first in this order is met. The parts
of a continuation are built with the description that it belongs to, and the
parser that it chooses while running can still be refused then.
-/

namespace Descent.Script

/-- Parsers that refer to each other by texts and produce items. -/
abbrev ScriptParser := Parser String (fun _ => Item) Item

/-- An outcome whose cursor is given by a source and a position. -/
inductive OutcomeDescription where
  | matched (value : Item) (source : Source) (pos : Int)
  | failed (expected : String) (source : Source) (pos : Int)

/-- The described outcome; refuses positions outside of the source. -/
def OutcomeDescription.build : OutcomeDescription → Except Fault (Outcome Item)
  | .matched value source pos => do return .matched value (← Cursor.locate source pos)
  | .failed expected source pos => do return .failed ⟨expected, ← Cursor.locate source pos⟩

mutual
/-- How a parser is put together. -/
inductive Description where
  | endOfInput
  | anyUnit
  | digit
  | natural
  | integer
  | blank
  | anyBlanks
  | someBlanks
  | word
  | satisfy (expected : String) (predicate : Predicate)
  | satisfyOver (expected : String) (p : Description) (predicate : Predicate)
  | literal (text : String)
  | fail (expected : String)
  | map (p : Description) (f : Function)
  | mapFailure (p : Description) (f : FailureFunction)
  | withExpected (p : Description) (expected : String)
  | pure (value : Item)
  | pureFunction (f : Function)
  | bind (p : Description) (next : Continuation)
  | apply (function argument : Description)
  | sequence (ps : List Description)
  | sequenceAll (ps : List Description)
  | orElse (first second : Description)
  | choice (expected : String) (ps : List Description)
  | rewind (p : Description)
  | optional (p : Description) (default : Item)
  | zeroOrMore (p : Description)
  | oneOrMore (p : Description)
  | upTo (p : Description) (count : Int)
  | wordEquals (text : String)
  | lookup (expected : String) (table : List (Item × List String))
  | quotedString (quote? escape? : Option String) (escapes? : Option (List (String × String)))
  | ref (name : String)
  | spy (name : String) (p : Description)
  /-- Answers with one outcome everywhere. -/
  | fixed (outcome : OutcomeDescription)
  /-- Matches after moving by an amount of units. -/
  | jump (amount : Int) (value : Item)

/-- How the next parser is chosen from an item. -/
inductive Continuation where
  | pure
  | literal
  | wordEquals
  | fail (before : String)
  | same (p : Description)
  /-- At most as often as the item says. -/
  | upTo (p : Description)
  /-- Exactly as often as the item says. -/
  | exactly (p : Description)
  /-- The item and the value of the parser, as a tuple. -/
  | pair (p : Description)
  /-- The first case with the item, or else the last parser. -/
  | table (cases : List (Item × Description)) (otherwise : Description)
end

namespace Description

/-! ## Single constructions -/

/-- The parsers in order, two to five of them, with a tuple as the value. -/
def sequenceOf : List ScriptParser → Except Fault ScriptParser
  | [p, q] => .ok ((Parser.sequence2 p q).map fun (a, b, ()) => .tuple [a, b])
  | [p, q, r] => .ok ((Parser.sequence3 p q r).map fun (a, b, c, ()) => .tuple [a, b, c])
  | [p, q, r, s] =>
    .ok ((Parser.sequence4 p q r s).map fun (a, b, c, d, ()) => .tuple [a, b, c, d])
  | [p, q, r, s, t] =>
    .ok ((Parser.sequence5 p q r s t).map fun (a, b, c, d, e, ()) => .tuple [a, b, c, d, e])
  | _ => .error .illTyped

/-- The escapes of some pairs. Of two pairs for one unit the later counts, and
texts that are not single units are never escaped. -/
def escapesOf (pairs : List (String × String)) : Lexeme.Escapes :=
  pairs.reverse.filterMap fun (key, replacement) =>
    match key.toList with
    | [c] => some (c, replacement)
    | _ => none

/-- The first parser whose item is the given one, or else the last. -/
def select (v : Item) (otherwise : ScriptParser) : List (Item × ScriptParser) → ScriptParser
  | [] => otherwise
  | (w, p) :: rest => if v.same w then p else select v otherwise rest

/-- The parser that depends on a number; refuses items that are none. -/
def onNumber (next : Int → Except Fault ScriptParser) (v : Item) : ScriptParser :=
  match v.asNumber with
  | .ok n => Parser.ofExcept (next n)
  | .error fault => Parser.raise fault

/-- The parser that depends on a text; refuses items that are none. -/
def onText (next : String → Except Fault ScriptParser) (v : Item) : ScriptParser :=
  match v.asText with
  | .ok t => Parser.ofExcept (next t)
  | .error fault => Parser.raise fault

/-- A literal with its text as the item; refuses the empty one. -/
def literalOf (text : String) : Except Fault ScriptParser := do
  return (← Parser.literal? text).map .text

/-- A bounded repetition with a list as the item; refuses negative bounds. -/
def upToOf (p : ScriptParser) (count : Int) : Except Fault ScriptParser := do
  return (← p.upTo? count).map .list

/-- A text between quotes as the item; refuses quotes and escapes that are not
single units. -/
def quotedOf (quote? escape? : Option String) (escapes? : Option (List (String × String))) :
    Except Fault ScriptParser := do
  let escapes := (escapes?.map escapesOf).getD Lexeme.generalEscapes
  let p ← Lexeme.quotedString? (quote?.getD "\"") (escape?.getD "\\") escapes
  return p.map .text

/-- The parser that always fails with a message that ends in a value. -/
def failWith (before : String) (v : Item) : ScriptParser :=
  match display v with
  | .ok shown => Parser.fail (before ++ shown)
  | .error fault => Parser.raise fault

/-- The parser that matches after moving by an amount of units. -/
def jumpBy (amount : Int) (value : Item) : ScriptParser :=
  Parser.custom fun c => do return .matched value (← c.advance amount)

/-- The parser that answers with one outcome everywhere. -/
def fixedTo (outcome : Outcome Item) : ScriptParser := Parser.custom fun _ => .ok outcome

end Description

/-! ## Building -/

open Description in
mutual
/-- The described parser, or the first fault that building it meets. -/
def Description.build : Description → Except Fault ScriptParser
  | .endOfInput => .ok (Parser.endOfInput.map fun _ => .nothing)
  | .anyUnit => .ok (Parser.anyUnit.map Value.ofUnit)
  | .digit => .ok (Lexeme.digit.map Value.int)
  | .natural => .ok (Lexeme.natural.map Value.int)
  | .integer => .ok (Lexeme.integer.map Value.int)
  | .blank => .ok (Lexeme.blank.map Value.ofUnit)
  | .anyBlanks => .ok (Lexeme.anyBlanks.map Value.text)
  | .someBlanks => .ok (Lexeme.someBlanks.map Value.text)
  | .word => .ok (Lexeme.word.map Value.text)
  | .satisfy expected predicate =>
    .ok ((Parser.satisfy expected fun c => predicate.accepts (Value.ofUnit c)).map Value.ofUnit)
  | .satisfyOver expected p predicate => do
    return Parser.satisfyOver expected (← p.build) predicate.accepts
  | .literal text => literalOf text
  | .fail expected => .ok (Parser.fail expected)
  | .map p f => do return (← p.build).convert f.apply
  | .mapFailure p f => do return (← p.build).mapFailure f.apply
  | .withExpected p expected => do return (← p.build).withExpected expected
  | .pure value => .ok (Parser.pure value)
  | .pureFunction f => .ok (Parser.pure (.function f))
  | .bind p next => do
    let p ← p.build
    let next ← next.build
    return p.bind next
  | .apply function argument => do
    let function ← function.build
    let argument ← argument.build
    return Parser.apply (function.map applyItem) argument
  | .sequence ps => do sequenceOf (← buildAll ps)
  | .sequenceAll ps => do return (Parser.sequenceAll (← buildAll ps)).map Value.list
  | .orElse first second => do
    let first ← first.build
    let second ← second.build
    return first.orElse second
  | .choice expected ps => do return Parser.choice expected (← buildAll ps)
  | .rewind p => do return (← p.build).rewind
  | .optional p default => do return (← p.build).optional default
  | .zeroOrMore p => do return (← p.build).zeroOrMore.map Value.list
  | .oneOrMore p => do return (← p.build).oneOrMore.map Value.list
  | .upTo p count => do upToOf (← p.build) count
  | .wordEquals text => .ok ((Lexeme.wordEquals text).map Value.text)
  | .lookup expected table =>
    .ok (Lexeme.lookup expected (Value.mergeEntries table))
  | .quotedString quote? escape? escapes? => quotedOf quote? escape? escapes?
  | .ref name => .ok (Parser.ref name)
  | .spy name p => do return (← p.build).spy name
  | .fixed outcome =>
    match outcome.build with
    | .ok outcome => .ok (fixedTo outcome)
    | .error fault => .error fault
  | .jump amount value => .ok (jumpBy amount value)

/-- The described parsers, from left to right. -/
def buildAll : List Description → Except Fault (List ScriptParser)
  | [] => .ok []
  | p :: ps => do
    let p ← p.build
    let ps ← buildAll ps
    return p :: ps

/-- The parsers of the cases, from left to right. -/
def buildCases : List (Item × Description) → Except Fault (List (Item × ScriptParser))
  | [] => .ok []
  | (v, p) :: cases => do
    let p ← p.build
    let cases ← buildCases cases
    return (v, p) :: cases

/-- The choice of the next parser, or the first fault that building its parts
meets. -/
def Continuation.build : Continuation → Except Fault (Item → ScriptParser)
  | .pure => .ok Parser.pure
  | .literal => .ok (onText literalOf)
  | .wordEquals => .ok (onText fun t => .ok ((Lexeme.wordEquals t).map Value.text))
  | .fail before => .ok (failWith before)
  | .same p => do
    let p ← p.build
    return fun _ => p
  | .upTo p => do
    let p ← p.build
    return onNumber (upToOf p)
  | .exactly p => do
    let p ← p.build
    return onNumber fun n =>
      .ok ((Parser.sequenceAll (List.replicate n.toNat p)).map Value.list)
  | .pair p => do
    let p ← p.build
    return fun v => p.map fun w => .tuple [v, w]
  | .table cases otherwise => do
    let cases ← buildCases cases
    let otherwise ← otherwise.build
    return fun v => select v otherwise cases
end

end Descent.Script
