/-
**Work in progress: lines, statements and runs.**

An activity is a typed line, a statement or a run that a session is busy with. It advances in
small steps, so that it can rest while a line of input is awaited and others use the session
meanwhile. A running program walks over the numbers of the lines that were stored when it
started; its cursor is the position among them.

A typed line reports its failures to the user and leaves no jump behind; the other activities
hand their failures on. Whoever drives an activity delivers the effects of a step before the next
one, and abandons the activity on a fault.

* `abandon_stops` — an abandoned run leaves nothing running.
-/

import LineBasic.Number.Numeral
import LineBasic.Session.Execute
import LineBasic.Syntax.Lexer
import LineBasic.Syntax.Parser

namespace LineBasic

/-- The place of a running program among the lines that it started with. -/
structure Cursor where
  lines : List Int
  index : Nat

/-- What an activity does next. -/
inductive Stage where
  | read (line : String)
  | begin
  | execute (statement : Node)
  | awaiting (prompt name : String)
  | select
  | completed
  | failed (failure : Failure)
  | stopped

/-- Work in progress. -/
structure Activity where
  immediate : Bool
  cursor : Option Cursor
  stage : Stage

/-- What a step comes to: more to do after some effects, a line to wait for, or an end. -/
inductive Move where
  | next (activity : Activity) (effects : List Effect)
  | ask (prompt : String)
  | finished
  | failed (failure : Failure)
  | fault (fault : Fault)

namespace Activity

/-- A typed line. -/
def ofLine (line : String) : Activity :=
  ⟨true, none, .read line⟩

/-- A run of the stored program. -/
def ofRun : Activity :=
  ⟨false, none, .begin⟩

/-- A statement on its own. -/
def ofStatement (statement : Node) : Activity :=
  ⟨false, none, .execute statement⟩

/-- The activity at another stage. -/
def inStage (activity : Activity) (stage : Stage) : Activity :=
  { activity with stage }

/-- The activity after a statement of it has failed. -/
def failing (activity : Activity) (cause : Cause) : Activity :=
  activity.inStage (.failed ⟨cause, none⟩)

end Activity

namespace Session

/-- What a run says when there is no program. -/
def noProgram : String :=
  "NO PROGRAM"

/-- The session after a line is stored under its number, or deleted if it says nothing. -/
def store (session : Session) (number : Int) (source : String) (statement : Node) :
    Session × Note :=
  match statement with
  | .empty => ({ session with program := session.program.erase number }, .deleted number)
  | _ =>
    ({ session with program := session.program.insert number ⟨source, statement⟩ },
      .stored number)

/-- Read a typed line: store it, or execute its statement. -/
def readLine (session : Session) (activity : Activity) (line : String) : Session × Move :=
  if Text.isBlankLine line then (session, .finished)
  else
    match tokens line with
    | .error (.unknownCharacter c column) =>
      (session, .next (activity.failing (.unknownCharacter c.toString column)) [])
    | .error (.tooManyDigits count) => (session, .fault (.tooManyDigits count))
    | .ok tokens =>
      match Parser.line tokens with
      | .error reason => (session, .next (activity.failing (.malformed reason)) [])
      | .ok (.programLine number statement) =>
        let (stored, note) := session.store number line statement
        (stored, .next (activity.inStage .completed) [.note note])
      | .ok statement => (session, .next (activity.inStage (.execute statement)) [])

/-- Start a run, or say that there is nothing to run. -/
def beginRun (session : Session) (activity : Activity) : Session × Move :=
  if session.program.isEmpty then
    (session, .next (activity.inStage .completed) [.line noProgram])
  else
    let lines := session.program.numbers
    ({ session.restarted with running := true },
      .next { activity with cursor := some ⟨lines, 0⟩, stage := .select }
        [.note (.runStarted lines.length)])

/-- The line under a cursor, as long as the program runs. -/
def underCursor (session : Session) (cursor : Cursor) : Option Int :=
  if session.running then cursor.lines[cursor.index]? else none

/-- Take up the line under the cursor, or leave the run. -/
def selectLine (session : Session) (activity : Activity) (cursor : Cursor) : Session × Move :=
  match session.underCursor cursor with
  | none => (session, .next (activity.inStage .stopped) [])
  | some line =>
    match session.program.find? line with
    | none => ({ session with current := some line }, .fault (.missingLine line))
    | some entry =>
      ({ session with current := some line },
        .next (activity.inStage (.execute entry.statement)) [])

/-- Move the cursor after a statement: along the jump that it left, or to the next line. -/
def advance (session : Session) (activity : Activity) (cursor : Cursor) : Session × Move :=
  match session.jump with
  | none =>
    (session,
      .next { activity with cursor := some { cursor with index := cursor.index + 1 },
                            stage := .select } [])
  | some jump =>
    match cursor.lines.idxOf? jump.line with
    | none => (session, .next (activity.failing .undefinedStatement) [])
    | some index =>
      ({ session with jump := none },
        .next { activity with
                  cursor := some { cursor with index := if jump.after then index + 1 else index },
                  stage := .select }
          [.note (.jumped session.current jump.line)])

/-- Leave the run: nothing is running any more. -/
def leaveRun (session : Session) : Session × List Effect :=
  ({ session with running := false, current := none, jump := none },
    [.note (.runStopped session.current)])

/-- Drop the jump that a typed line has left. -/
def leaveLine (session : Session) (activity : Activity) : Session :=
  if activity.immediate then { session with jump := none } else session

/-- Execute a statement of an activity. -/
def executeStage (session : Session) (activity : Activity) (statement : Node) : Session × Move :=
  match session.execute statement with
  | (session, .done effects) => (session, .next (activity.inStage .completed) effects)
  | (session, .failed cause) => (session, .next (activity.failing cause) [])
  | (session, .fault fault) => (session, .fault fault)
  | (session, .ask prompt name) => (session, .next (activity.inStage (.awaiting prompt name)) [])
  | (session, .start) => (session, .next (activity.inStage .begin) [])

/-- What a failure comes to: a report inside a run and for a typed line, an end otherwise. -/
def failStage (session : Session) (activity : Activity) (failure : Failure) : Session × Move :=
  match activity.cursor with
  | some _ =>
    (session, .next (activity.inStage .stopped) [.line (failure.atLine session.current).report])
  | none =>
    if activity.immediate then (session, .next (activity.inStage .completed) [.line failure.report])
    else (session, .failed failure)

/-- One step of an activity. -/
def step (session : Session) (activity : Activity) : Session × Move :=
  match activity.stage, activity.cursor with
  | .read line, _ => session.readLine activity line
  | .begin, _ => session.beginRun activity
  | .execute statement, _ => session.executeStage activity statement
  | .awaiting prompt _, _ => (session, .ask prompt)
  | .select, some cursor => session.selectLine activity cursor
  | .completed, some cursor => session.advance activity cursor
  | .failed failure, _ => session.failStage activity failure
  | .stopped, some _ =>
    (session.leaveRun.1, .next { activity with cursor := none, stage := .completed }
      session.leaveRun.2)
  | .select, none => (session.leaveLine activity, .finished)
  | .completed, none => (session.leaveLine activity, .finished)
  | .stopped, none => (session.leaveLine activity, .finished)

/-- Break an activity off: a run is left, and a typed line leaves no jump behind. -/
def abandon (session : Session) (activity : Activity) : Session × List Effect :=
  match activity.cursor with
  | some _ => (session.leaveRun.1.leaveLine activity, session.leaveRun.2)
  | none => (session.leaveLine activity, [])

/-- Give an activity the line that it waits for: a text variable takes the line, any other one
the number that the line starts with. -/
def answer (session : Session) (activity : Activity) (line : String) : Session × Activity :=
  match activity.stage with
  | .awaiting _ name =>
    if Value.isTextName name then (session.assign name (.text line), activity.inStage .completed)
    else
      match Numeral.leading? line with
      | some x => (session.assign name (.real x), activity.inStage .completed)
      | none => (session, activity.failing .typeMismatch)
  | _ => (session, activity)

/-- An abandoned run leaves nothing running. -/
theorem abandon_stops (session : Session) (activity : Activity) (cursor : Cursor)
    (running : activity.cursor = some cursor) :
    (session.abandon activity).1.running = false := by
  simp only [abandon, running, leaveLine, leaveRun]
  split <;> rfl

end Session

end LineBasic
