-- SUMMARY: Running scripted parsers: what is answered, and what stops an answer.
import Descent.Script.Description

/-!
# Operations

The operations on a described parser: to parse from a cursor, to parse several
sources with one parser, and to evaluate a source to an item. Every answer comes
with the journal of the run, whether it is an answer or the reason why there is
none.
-/

namespace Descent.Script

variable {α β : Type}

/-! ## Definitions -/

/-- Parsers with their names, the latest first. -/
abbrev Definitions := List (String × ScriptParser)

namespace Definitions

/-- The grammar of some definitions: of two with one name the later counts, and
a name without one stops the run. -/
def grammar (definitions : Definitions) : Grammar String (fun _ => Item) := fun name =>
  (definitions.lookup name).getD (Parser.raise (.unknownName name))

/-- Builds descriptions from first to last and adds each to the definitions. -/
def build (definitions : Definitions) : List (String × Description) → Except Fault Definitions
  | [] => .ok definitions
  | (name, description) :: rest => do
    let p ← description.build
    build ((name, p) :: definitions) rest

end Definitions

/-! ## Answers -/

/-- When a fault was met: while building, or while running. -/
inductive Stage where
  | build
  | run
  deriving DecidableEq

/-- Why there is no answer. -/
inductive Stop where
  | fault (stage : Stage) (fault : Fault)
  | failed (error : ParseError)
  | exhausted

/-- An answer or the reason why there is none, with the journal of the run. -/
structure Reply (α : Type) where
  answer : Except Stop α
  journal : Journal := []

namespace Reply

/-- The reply to something that was refused before it ran. -/
def refused (fault : Fault) : Reply α := { answer := .error (.fault .build fault) }

/-- The reply of a run, with an answer made from its result. -/
def ofRun (run : Run α) (answer : α → Except Stop β) : Reply β where
  journal := run.journal
  answer := match run.ending with
    | .returned result => answer result
    | .raised fault => .error (.fault .run fault)
    | .exhausted => .error .exhausted

/-- Maps the answer of a reply. -/
def map (f : α → β) (reply : Reply α) : Reply β where
  answer := reply.answer.map f
  journal := reply.journal

end Reply

/-- What an operation goes on from: the result, or a fault while running. -/
def whileRunning (result : Except Fault α) : Except Stop α :=
  match result with
  | .ok result => .ok result
  | .error fault => .error (.fault .run fault)

/-! ## Parsing -/

/-- What an answer shows beside the outcome. -/
structure Details where
  /-- The written form of the outcome. -/
  written : Bool := false
  /-- The report on a failure. -/
  raised : Bool := false

/-- The answer to parsing from a cursor. -/
structure Parsed where
  outcome : Outcome Item
  /-- The source of the outcome's cursor, if it is another than the input. -/
  source? : Option Source
  written? : Option String
  raised? : Option ParseError

/-- The report on an outcome, if it is a failure. -/
def errorOf : Outcome Item → Option ParseError
  | .matched .. => none
  | .failed failure => some failure.error

/-- The answer that shows an outcome. -/
def Parsed.ofOutcome (details : Details) (source : Source) (outcome : Outcome Item) :
    Except Fault Parsed := do
  let written? ← if details.written then some <$> outcome.written else pure none
  return {
    outcome
    source? := if outcome.cursor.source = source then none else some outcome.cursor.source
    written?
    raised? := if details.raised then errorOf outcome else none }

/-- Parses from a cursor. -/
def parse (definitions : Definitions) (debug : Bool) (details : Details) (p : ScriptParser)
    (c : Cursor) : Reply Parsed :=
  .ofRun (p.runAt definitions.grammar c { debug }) fun outcome =>
    whileRunning (Parsed.ofOutcome details c.source outcome)

/-- Parses from a position of a source; refuses positions outside of it. -/
def parseFrom (definitions : Definitions) (debug : Bool) (details : Details) (p : ScriptParser)
    (source : Source) (pos : Int) : Reply Parsed :=
  match Cursor.locate source pos with
  | .ok c => parse definitions debug details p c
  | .error fault => .refused fault

/-- Evaluates a source to an item. -/
def evaluate (definitions : Definitions) (debug : Bool) (p : ScriptParser) (source : Source) :
    Reply Item :=
  .ofRun (p.run definitions.grammar source { debug }) fun
    | .ok item => .ok item
    | .error error => .error (.failed error)

/-! ## Descriptions with their definitions -/

/-- A described parser with described definitions. -/
structure Program where
  definitions : List (String × Description) := []
  parser : Description

/-- The definitions and the parser of a program, built in this order. -/
def Program.build (program : Program) : Except Fault (Definitions × ScriptParser) := do
  let definitions ← Definitions.build [] program.definitions
  let parser ← program.parser.build
  return (definitions, parser)

/-- Builds a program and parses from a position of a source. -/
def Program.parse (program : Program) (debug : Bool) (details : Details) (source : Source)
    (pos : Int) : Reply Parsed :=
  match program.build with
  | .ok (definitions, p) => parseFrom definitions debug details p source pos
  | .error fault => .refused fault

/-- Builds a program and parses from positions of several sources. -/
def Program.parseEach (program : Program) (debug : Bool) (details : Details)
    (cases : List (Source × Int)) : Except Fault (List (Reply Parsed)) :=
  match program.build with
  | .ok (definitions, p) => .ok (cases.map fun (source, pos) =>
      parseFrom definitions debug details p source pos)
  | .error fault => .error fault

/-- Builds a program and evaluates a source. -/
def Program.evaluate (program : Program) (debug : Bool) (source : Source) : Reply Item :=
  match program.build with
  | .ok (definitions, p) => Script.evaluate definitions debug p source
  | .error fault => .refused fault

end Descent.Script
