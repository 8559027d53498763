/-
**What one step of an activity can come to.**

A step depends on the stage of an activity, on whether it is inside a run, and on a few things in
the session: the program, the flag, the jump. All that it can come to is listed once, with what it
depends on, as the cases of `Moves`; what holds of every step is then shown by going through these
cases, and the definitions of the stages are not opened again.

* `moves` — a step comes to one of the cases.
-/

import LineBasic.Proofs.Reading

namespace LineBasic

namespace Session

/-- What one step of an activity can come to. -/
inductive Moves (session : Session) (activity : Activity) : Session × Move → Prop where
  | read {line : String} {result : Session × Move} (stage : activity.stage = .read line)
      (reads : session.ReadsLine activity line result) : Moves session activity result
  | nothing (stage : activity.stage = .begin) (vacant : session.program.isEmpty = true) :
      Moves session activity (session, .next (activity.inStage .completed) [.line noProgram])
  | begins (stage : activity.stage = .begin) (filled : session.program.isEmpty = false) :
      Moves session activity
        ({ session.restarted with running := true },
          .next { activity with cursor := some ⟨session.program.numbers, 0⟩, stage := .select }
            [.note (.runStarted session.program.numbers.length)])
  | done {statement : Node} {after : Session} {effects : List Effect}
      (stage : activity.stage = .execute statement)
      (comes : session.execute statement = (after, .done effects)) :
      Moves session activity (after, .next (activity.inStage .completed) effects)
  | failed {statement : Node} {after : Session} {cause : Cause}
      (stage : activity.stage = .execute statement)
      (comes : session.execute statement = (after, .failed cause)) :
      Moves session activity (after, .next (activity.failing cause) [])
  | broken {statement : Node} {after : Session} {fault : Fault}
      (stage : activity.stage = .execute statement)
      (comes : session.execute statement = (after, .fault fault)) :
      Moves session activity (after, .fault fault)
  | asked {statement : Node} {after : Session} {prompt name : String}
      (stage : activity.stage = .execute statement)
      (comes : session.execute statement = (after, .ask prompt name)) :
      Moves session activity (after, .next (activity.inStage (.awaiting prompt name)) [])
  | started {statement : Node} {after : Session} (stage : activity.stage = .execute statement)
      (comes : session.execute statement = (after, .start)) :
      Moves session activity (after, .next (activity.inStage .begin) [])
  | awaits {prompt name : String} (stage : activity.stage = .awaiting prompt name) :
      Moves session activity (session, .ask prompt)
  | leaves {cursor : Cursor} (stage : activity.stage = .select)
      (inside : activity.cursor = some cursor) (under : session.underCursor cursor = none) :
      Moves session activity (session, .next (activity.inStage .stopped) [])
  | misses {cursor : Cursor} {line : Int} (stage : activity.stage = .select)
      (inside : activity.cursor = some cursor) (under : session.underCursor cursor = some line)
      (absent : session.program.find? line = none) :
      Moves session activity ({ session with current := some line }, .fault (.missingLine line))
  | takes {cursor : Cursor} {line : Int} {entry : Entry} (stage : activity.stage = .select)
      (inside : activity.cursor = some cursor) (under : session.underCursor cursor = some line)
      (found : session.program.find? line = some entry) :
      Moves session activity
        ({ session with current := some line },
          .next (activity.inStage (.execute entry.statement)) [])
  | goesOn {cursor : Cursor} (stage : activity.stage = .completed)
      (inside : activity.cursor = some cursor) (straight : session.jump = none) :
      Moves session activity
        (session,
          .next { activity with cursor := some { cursor with index := cursor.index + 1 },
                                stage := .select } [])
  | strays {cursor : Cursor} {jump : Jump} (stage : activity.stage = .completed)
      (inside : activity.cursor = some cursor) (leads : session.jump = some jump)
      (outside : cursor.lines.idxOf? jump.line = none) :
      Moves session activity (session, .next (activity.failing .undefinedStatement) [])
  | jumps {cursor : Cursor} {jump : Jump} {index : Nat} (stage : activity.stage = .completed)
      (inside : activity.cursor = some cursor) (leads : session.jump = some jump)
      (lands : cursor.lines.idxOf? jump.line = some index) :
      Moves session activity
        ({ session with jump := none },
          .next { activity with
                    cursor := some { cursor with index := if jump.after then index + 1 else index },
                    stage := .select }
            [.note (.jumped session.current jump.line)])
  | reported {failure : Failure} {cursor : Cursor} (stage : activity.stage = .failed failure)
      (inside : activity.cursor = some cursor) :
      Moves session activity
        (session,
          .next (activity.inStage .stopped) [.line (failure.atLine session.current).report])
  | told {failure : Failure} (stage : activity.stage = .failed failure)
      (outside : activity.cursor = none) (typed : activity.immediate = true) :
      Moves session activity
        (session, .next (activity.inStage .completed) [.line failure.report])
  | handedOn {failure : Failure} (stage : activity.stage = .failed failure)
      (outside : activity.cursor = none) (untyped : activity.immediate = false) :
      Moves session activity (session, .failed failure)
  | left {cursor : Cursor} (stage : activity.stage = .stopped)
      (inside : activity.cursor = some cursor) :
      Moves session activity
        (session.leaveRun.1, .next { activity with cursor := none, stage := .completed }
          session.leaveRun.2)
  | ends (stage : activity.stage = .select ∨ activity.stage = .completed ∨
        activity.stage = .stopped) (outside : activity.cursor = none) :
      Moves session activity (session.leaveLine activity, .finished)

section Stages

variable {session : Session} {activity : Activity}

theorem moves_begin (stage : activity.stage = .begin) :
    session.Moves activity (session.beginRun activity) := by
  unfold beginRun
  split
  · next vacant => exact .nothing stage vacant
  · next filled => exact .begins stage (Bool.not_eq_true _ ▸ filled)

theorem moves_execute {statement : Node} (stage : activity.stage = .execute statement) :
    session.Moves activity (session.executeStage activity statement) := by
  unfold executeStage
  split
  · next comes => exact .done stage comes
  · next comes => exact .failed stage comes
  · next comes => exact .broken stage comes
  · next comes => exact .asked stage comes
  · next comes => exact .started stage comes

theorem moves_select {cursor : Cursor} (stage : activity.stage = .select)
    (inside : activity.cursor = some cursor) :
    session.Moves activity (session.selectLine activity cursor) := by
  unfold selectLine
  split
  · next under => exact .leaves stage inside under
  · next line under =>
    split
    · next absent => exact .misses stage inside under absent
    · next entry found => exact .takes stage inside under found

theorem moves_advance {cursor : Cursor} (stage : activity.stage = .completed)
    (inside : activity.cursor = some cursor) :
    session.Moves activity (session.advance activity cursor) := by
  unfold advance
  split
  · next straight => exact .goesOn stage inside straight
  · next jump leads =>
    split
    · next outside => exact .strays stage inside leads outside
    · next index lands => exact .jumps stage inside leads lands

theorem moves_fail {failure : Failure} (stage : activity.stage = .failed failure) :
    session.Moves activity (session.failStage activity failure) := by
  unfold failStage
  split
  · next cursor inside => exact .reported stage inside
  · next outside =>
    split
    · next typed => exact .told stage outside typed
    · next untyped => exact .handedOn stage outside (Bool.not_eq_true _ ▸ untyped)

end Stages

/-- **A step comes to one of the cases of `Moves`.** -/
theorem moves (session : Session) (activity : Activity) :
    session.Moves activity (session.step activity) := by
  unfold step
  split
  · next line stage => exact .read stage (session.readsLine activity line)
  · next stage => exact moves_begin stage
  · next stage => exact moves_execute stage
  · next stage => exact .awaits stage
  · next stage inside => exact moves_select stage inside
  · next stage inside => exact moves_advance stage inside
  · next stage => exact moves_fail stage
  · next stage inside => exact .left stage inside
  · next stage outside => exact .ends (.inl stage) outside
  · next stage outside => exact .ends (.inr (.inl stage)) outside
  · next stage outside => exact .ends (.inr (.inr stage)) outside

/-- What a step comes to, by its result. -/
theorem moves_of_step {session : Session} {activity : Activity} {result : Session × Move}
    (steps : session.step activity = result) : session.Moves activity result :=
  steps ▸ session.moves activity

end Session

end LineBasic
