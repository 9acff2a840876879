-- SUMMARY: Sessions: a current cursor, named parsers and a switch that outlive single parses.
import Descent.Script.Operation

/-!
# Sessions

A session goes through a list of steps. Between them it keeps the current
cursor, the debug switch, the definitions and the last outcome. A step that is
refused or that stops leaves all of them as they were.
-/

namespace Descent.Script

/-- What a session keeps between its steps. -/
structure Session where
  cursor : Cursor
  debug : Bool := false
  definitions : Definitions := []
  last? : Option (Outcome Item) := none

/-- One step of a session. -/
inductive Step where
  | debug (on : Bool)
  | moveTo (source : Source) (pos : Int)
  | advance (amount : Int)
  | define (name : String) (description : Description)
  | look
  | compare (source : Source) (pos : Int)
  | parse (description : Description) (details : Details) (follow : Bool)
  | evaluate (description : Description)
  | last

/-- What a step answers. -/
inductive StepAnswer where
  | done
  | view (atEnd : Bool) (current? : Option Char) (rest : String) (place : LineColumn)
      (written : String)
  | comparison (samePos same : Bool)
  | parsed (parsed : Parsed)
  | value (value : Item)
  | lastOutcome (samePos : Bool) (written : String) (raised? : Option ParseError)

namespace Session

/-- The session after an outcome: it follows every match, and failures if told
to. -/
def after (session : Session) (follow : Bool) (outcome : Outcome Item) : Session where
  cursor := if outcome.isMatch || follow then outcome.cursor else session.cursor
  debug := session.debug
  definitions := session.definitions
  last? := some outcome

/-- What can be said about the last outcome. -/
def aboutLast (session : Session) : Except Stop StepAnswer :=
  match session.last? with
  | none => .error (.fault .run .illTyped)
  | some outcome => do
    let written ← whileRunning outcome.written
    return .lastOutcome (outcome.cursor.samePos session.cursor) written (errorOf outcome)

/-- Takes a step. -/
def step (session : Session) : Step → Session × Reply StepAnswer
  | .debug on => ({ session with debug := on }, { answer := .ok .done })
  | .moveTo source pos =>
    match Cursor.locate source pos with
    | .ok c => ({ session with cursor := c }, { answer := .ok .done })
    | .error fault => (session, .refused fault)
  | .advance amount =>
    match session.cursor.advance amount with
    | .ok c => ({ session with cursor := c }, { answer := .ok .done })
    | .error fault => (session, .refused fault)
  | .define name description =>
    match description.build with
    | .ok p =>
      ({ session with definitions := (name, p) :: session.definitions }, { answer := .ok .done })
    | .error fault => (session, .refused fault)
  | .look =>
    let c := session.cursor
    (session, { answer := .ok (.view c.atEnd c.current? c.rest c.lineColumn c.written) })
  | .compare source pos =>
    match Cursor.locate source pos with
    | .ok c =>
      (session, { answer := .ok (.comparison (session.cursor.samePos c) (session.cursor == c)) })
    | .error fault => (session, .refused fault)
  | .parse description details follow =>
    match description.build with
    | .error fault => (session, .refused fault)
    | .ok p =>
      let answered := Script.parse session.definitions session.debug details p session.cursor
      match answered.answer with
      | .ok parsed => (session.after follow parsed.outcome, answered.map .parsed)
      | .error _ => (session, answered.map .parsed)
  | .evaluate description =>
    match description.build with
    | .error fault => (session, .refused fault)
    | .ok p =>
      let source := session.cursor.source
      (session, (Script.evaluate session.definitions session.debug p source).map .value)
  | .last => (session, { answer := session.aboutLast })

/-- Takes steps in order. Each reply comes with the position after its step. -/
def steps (session : Session) : List Step → List (Reply StepAnswer × Nat)
  | [] => []
  | s :: rest =>
    let (next, reply) := session.step s
    (reply, next.cursor.pos) :: next.steps rest

/-- A session from a position of a source; refuses positions outside of it. -/
def play (source : Source) (pos : Int) (script : List Step) :
    Except Fault (List (Reply StepAnswer × Nat)) :=
  match Cursor.locate source pos with
  | .ok c => .ok (Session.steps { cursor := c } script)
  | .error fault => .error fault

end Session

end Descent.Script
