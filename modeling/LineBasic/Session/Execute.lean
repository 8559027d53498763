/-
**One statement.**

Executing a statement changes the session and comes to one of five ends: it is done, with the
effects it has on the outside after all its changes; it fails; it breaks on a fault; it asks for
a line; or it starts the stored program. A failed statement has had no effect on the outside.
-/

import LineBasic.Effect
import LineBasic.Fault
import LineBasic.Session.Evaluate

namespace LineBasic

/-- What a statement comes to. -/
inductive Outcome where
  | done (effects : List Effect)
  | failed (cause : Cause)
  | fault (fault : Fault)
  | ask (prompt name : String)
  | start

namespace Session

/-- The gap that a comma leaves in a printed line. -/
def gap : String :=
  "     "

/-- The prompt of an `INPUT` that states none. -/
def defaultPrompt : String :=
  "? "

/-- The text of printed items; a comma after an item leaves a gap. -/
def printed : List Node → List String → Memory → Memory × Except Cause String
  | [], _, memory => (memory, .ok "")
  | item :: items, separators, memory =>
    match item.evaluate memory with
    | (memory, .error cause) => (memory, .error cause)
    | (memory, .ok value) =>
      match printed items separators.tail memory with
      | (memory, .error cause) => (memory, .error cause)
      | (memory, .ok rest) =>
        let space := if separators.head? = some "," then gap else ""
        (memory, .ok (value.shown ++ space ++ rest))

/-- Print items; a semicolon at the end leaves the line open. -/
def executePrint (items : List Node) (separators : List String) (session : Session) :
    Session × Outcome :=
  match printed items separators session.memory with
  | (memory, .error cause) => ({ session with memory }, .failed cause)
  | (memory, .ok text) =>
    let effect := if separators.getLast? = some ";" then Effect.text text else Effect.line text
    ({ session with memory }, .done [effect])

/-- Give a variable the value of an expression. -/
def executeAssign (name : String) (node : Node) (session : Session) : Session × Outcome :=
  match node.evaluate session.memory with
  | (memory, .error cause) => ({ session with memory }, .failed cause)
  | (memory, .ok value) => ({ session with memory := memory.set name value }, .done [])

/-- Go to a stored line. -/
def executeGoto (line : Int) (session : Session) : Session × Outcome :=
  match session.program.find? line with
  | none => (session, .failed .undefinedStatement)
  | some _ => ({ session with jump := some ⟨line, false⟩ }, .done [])

/-- Open a loop, after closing one over the same variable and those inside it. -/
def openLoop (name : String) (start limit step : Float) (session : Session) : Session × Outcome :=
  let frame : LoopFrame := ⟨name, limit, step, session.current⟩
  let loops := frame :: outside name session.loops
  ({ session with memory := session.memory.set name (.real start), loops },
    .done [.note (.loopEntered name loops.length)])

/-- Evaluate the start, the limit and the step of a loop, in this order, and open it. -/
def executeFor (name : String) (start limit step : Node) (session : Session) :
    Session × Outcome :=
  match start.evaluateFloat session.memory with
  | (memory, .error cause) => ({ session with memory }, .failed cause)
  | (memory, .ok first) =>
    match limit.evaluateFloat memory with
    | (memory, .error cause) => ({ session with memory }, .failed cause)
    | (memory, .ok last) =>
      match step.evaluateFloat memory with
      | (memory, .error cause) => ({ session with memory }, .failed cause)
      | (memory, .ok stride) => openLoop name first last stride { session with memory }

/-- Whether a loop goes on with a value of its variable. -/
def goesOn (frame : LoopFrame) (value : Float) : Bool :=
  ((Number.int 0).below (.real frame.step) && (Number.real value).atMost (.real frame.limit)) ||
    ((Number.real frame.step).below (.int 0) && (Number.real frame.limit).atMost (.real value))

/-- Advance the innermost loop: return to its line, or close it. -/
def executeNext (name : Option String) (session : Session) : Session × Outcome :=
  match session.loops with
  | [] => (session, .failed .nextWithoutFor)
  | frame :: outer =>
    if name.any (· != frame.name) then (session, .failed .nextWithoutFor)
    else
      let touched := session.memory.touch frame.name
      match (session.memory.get frame.name).toFloat with
      | .error cause => ({ session with memory := touched }, .failed cause)
      | .ok x =>
        let value := x + frame.step
        let advanced := { session with memory := touched.set frame.name (.real value) }
        if goesOn frame value then
          match frame.returnLine with
          | some line => ({ advanced with jump := some ⟨line, true⟩ }, .done [])
          | none => (advanced, .done [])
        else ({ advanced with loops := outer }, .done [.note (.loopDone frame.name)])

/-- Start the program: from the prompt as a whole, inside it over again from its first line. -/
def executeRun (session : Session) : Session × Outcome :=
  if session.running then
    match session.program.numbers with
    | first :: _ => ({ session.restarted with jump := some ⟨first, false⟩ }, .done [])
    | [] => (session.restarted, .fault .noLines)
  else (session, .start)

/-- Show the lines of the program within bounds. -/
def executeList (first last : Option Int) (session : Session) : Session × Outcome :=
  if session.program.isEmpty then (session, .done [.line ""])
  else (session, .done ((session.program.listing first last).map .line))

/-- Execute a statement. -/
def execute : Node → Session → Session × Outcome
  | .print items separators, session => executePrint items separators session
  | .assign name value, session => executeAssign name value session
  | .input prompt name, session =>
    (session, .ask (if prompt = "" then defaultPrompt else prompt) name)
  | .ifThen condition statement, session =>
    match condition.evaluate session.memory with
    | (memory, .error cause) => ({ session with memory }, .failed cause)
    | (memory, .ok value) =>
      if value.isTrue then execute statement { session with memory }
      else ({ session with memory }, .done [])
  | .goto line, session => executeGoto line session
  | .forLoop name start limit step, session => executeFor name start limit step session
  | .next name, session => executeNext name session
  | .stop, session => ({ session with running := false }, .done [])
  | .run, session => executeRun session
  | .list first last, session => executeList first last session
  | .new, session => (session.cleared, .done [.line ""])
  | .home, session => (session, .done [.clear])
  | .remark _, session => (session, .done [])
  | .empty, session => (session, .done [])
  | node, session => (session, .failed (.notAStatement node.kind))

end Session

end LineBasic
