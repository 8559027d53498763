/-
**A session in use.**

A session is used by calls: a line is typed, the program is run or thrown away, a variable is read
or set. While a call waits for a line of input the host may make other calls, and these end before
the first one goes on. A call may also break off: an effect cannot be delivered, the input does
not come, or the session comes to a fault. Whatever happens, the traces that a call leaves in the
session while it is under way are cleared away when it ends, and the stored program and the open
loops stay as they should be all the time.

* `Sitting.Step`, `Sitting.Reached` — the calls of a host, and what they lead to;
* `Sitting.Reached.drive` — a host that drives activities takes such steps;
* `passes_step`, `left_of_abandon` — a trace that an activity keeps does not outlive it;
* `kept_step` — a step keeps the program and the loops as they should be;
* `orderly_step` — what one step of a sitting preserves, and `orderly_of_reached`, all of it;
* `atRest_of_reached` — a session at rest, after any calls.
-/

import LineBasic.Proofs.Reading
import LineBasic.Proofs.Scene
import LineBasic.Proofs.Statement

namespace LineBasic

/-! ### Calls -/

/-- What a host asks of a session. -/
inductive Call where
  | line (line : String)
  | run
  | startNew
  | read (name : String)
  | assign (name : String) (value : Value)

/-- A session with the activities that are under way, the latest first. -/
structure Sitting where
  session : Session
  activities : List Activity

namespace Sitting

/-- A session in which nothing has happened, and nothing is under way. -/
def start : Sitting :=
  ⟨.fresh, []⟩

/-- Whether a call can be made: nothing is under way, or all that is waits for a line. -/
def Rests (sitting : Sitting) : Prop :=
  ∀ activity ∈ sitting.activities.head?, ∃ prompt name, activity.stage = .awaiting prompt name

/-- A call is made. -/
def take (sitting : Sitting) : Call → Sitting
  | .line line => { sitting with activities := .ofLine line :: sitting.activities }
  | .run => { sitting with activities := .ofRun :: sitting.activities }
  | .startNew => { sitting with session := sitting.session.cleared }
  | .read name =>
    { sitting with
        session := { sitting.session with memory := sitting.session.memory.touch name } }
  | .assign name value => { sitting with session := sitting.session.assign name value }

/-- **One step of a sitting**: a call is made, or the latest activity takes a step, is given the
line it waits for, ends, or breaks off. -/
inductive Step (allowed : Call → Prop) : Sitting → Sitting → Prop where
  | called {sitting : Sitting} (rests : sitting.Rests) (call : Call) (permitted : allowed call) :
      Step allowed sitting (sitting.take call)
  | advanced {session after : Session} {activity following : Activity} {effects : List Effect}
      {others : List Activity} (moves : session.step activity = (after, .next following effects)) :
      Step allowed ⟨session, activity :: others⟩ ⟨after, following :: others⟩
  | undelivered {session after : Session} {activity following : Activity} {effects : List Effect}
      {others : List Activity} (moves : session.step activity = (after, .next following effects))
      (some : effects ≠ []) :
      Step allowed ⟨session, activity :: others⟩ ⟨(after.abandon following).1, others⟩
  | answered {session : Session} {activity : Activity} {others : List Activity}
      {prompt name : String} (awaits : activity.stage = .awaiting prompt name) (line : String) :
      Step allowed ⟨session, activity :: others⟩
        ⟨(session.answer activity line).1, (session.answer activity line).2 :: others⟩
  | unanswered {session : Session} {activity : Activity} {others : List Activity}
      {prompt name : String} (awaits : activity.stage = .awaiting prompt name) :
      Step allowed ⟨session, activity :: others⟩ ⟨(session.abandon activity).1, others⟩
  | finished {session after : Session} {activity : Activity} {others : List Activity}
      (ends : session.step activity = (after, .finished)) :
      Step allowed ⟨session, activity :: others⟩ ⟨after, others⟩
  | failed {session after : Session} {activity : Activity} {others : List Activity}
      {failure : Failure} (ends : session.step activity = (after, .failed failure)) :
      Step allowed ⟨session, activity :: others⟩ ⟨after, others⟩
  | faulted {session after : Session} {activity : Activity} {others : List Activity}
      {fault : Fault} (breaks : session.step activity = (after, .fault fault)) :
      Step allowed ⟨session, activity :: others⟩ ⟨(after.abandon activity).1, others⟩

/-- What some calls can lead to. -/
inductive Reached (allowed : Call → Prop) : Sitting → Prop where
  | start : Reached allowed start
  | step {before after : Sitting} (reached : Reached allowed before)
      (step : Step allowed before after) : Reached allowed after

/-- A sitting after the latest activity was driven. -/
def driven {World : Type} (others : List Activity) : World × Session × Progress → Sitting
  | (_, session, .waiting _ activity) => ⟨session, activity :: others⟩
  | (_, session, .unfinished activity) => ⟨session, activity :: others⟩
  | (_, session, _) => ⟨session, others⟩

/-- **Driving an activity takes steps of a sitting**, whatever the host does with the effects. -/
theorem Reached.drive {allowed : Call → Prop} {World : Type}
    (deliver : World → Effect → World × Option Fault) (steps : Nat) {world : World}
    {session : Session} {activity : Activity} {others : List Activity}
    (reached : Reached allowed ⟨session, activity :: others⟩) :
    Reached allowed (driven others (session.drive deliver steps world activity)) := by
  induction steps generalizing world session activity with
  | zero => exact reached
  | succ steps hypothesis =>
    unfold Session.drive
    rcases moves : session.step activity with
      ⟨after, ⟨following, effects⟩ | prompt | _ | failure | fault⟩
    · simp only
      rcases delivered : Session.deliverAll deliver world effects with ⟨world', _ | fault⟩
      · exact hypothesis (reached.step (.advanced moves))
      · have some : effects ≠ [] := by
          rintro rfl
          cases delivered
        exact reached.step (.undelivered moves some)
    · cases Scene.step_ask moves
      exact reached
    · exact reached.step (.finished moves)
    · exact reached.step (.failed moves)
    · exact reached.step (.faulted moves)

end Sitting

/-! ### Traces of what is under way -/

/-- What an activity leaves in a session only while it is under way. -/
inductive Trace where
  | running
  | current
  | jump

namespace Trace

/-- Whether a trace is in a session. -/
def left : Trace → Session → Prop
  | running, session => session.running = true
  | current, session => session.current ≠ none
  | jump, session => session.jump ≠ none

/-- Whether an activity clears a trace away when it ends: a run all of them, and a typed line its
jump. -/
def keeper : Trace → Activity → Prop
  | jump, activity =>
    activity.cursor ≠ none ∨ (activity.immediate = true ∧ ∀ line, activity.stage ≠ .read line)
  | _, activity => activity.cursor ≠ none

/-- What has become of an activity: a trace that is there now has a keeper among what remains of
it, or was there before and is not for this activity to clear away. -/
def Passes (trace : Trace) (session : Session) (activity : Activity) (after : Session)
    (remaining : List Activity) : Prop :=
  trace.left after →
    (∃ other ∈ remaining, trace.keeper other) ∨ (trace.left session ∧ ¬trace.keeper activity)

/-- Each trace in a session has a keeper under way. -/
def Accounted (trace : Trace) (sitting : Sitting) : Prop :=
  trace.left sitting.session → ∃ activity ∈ sitting.activities, trace.keeper activity

end Trace

/-- What remains of an activity after a move. -/
def Move.remaining (activity : Activity) : Move → List Activity
  | next following _ => [following]
  | finished => []
  | failed _ => []
  | _ => [activity]

namespace Activity

/-- How the activities of calls look: a line that was typed is read first, and nothing else
executes a statement outside a run. -/
structure Shaped (typed : String → Prop) (activity : Activity) : Prop where
  reading : ∀ line, activity.stage = .read line →
    activity.immediate = true ∧ activity.cursor = none ∧ typed line
  bare : activity.immediate = false → activity.cursor = none →
    ∀ statement, activity.stage ≠ .execute statement

end Activity

section Traces

variable {trace : Trace} {session after : Session} {activity following : Activity}

/-- A run keeps every trace. -/
theorem Trace.keeper_of_cursor (trace : Trace) (inside : activity.cursor ≠ none) :
    trace.keeper activity := by
  cases trace with
  | running => exact inside
  | current => exact inside
  | jump => exact .inl inside

theorem Trace.passes_of_cursor (inside : following.cursor ≠ none) :
    trace.Passes session activity after [following] :=
  fun _ => .inl ⟨following, List.mem_singleton_self _, trace.keeper_of_cursor inside⟩

/-- Nothing has become of a trace if it was there before, and what kept it keeps it. -/
theorem Trace.passes_of_same (same : trace.left after → trace.left session)
    (keeps : trace.keeper activity → trace.keeper following) :
    trace.Passes session activity after [following] := by
  intro isLeft
  by_cases kept : trace.keeper activity
  · exact .inl ⟨following, List.mem_singleton_self _, keeps kept⟩
  · exact .inr ⟨same isLeft, kept⟩

/-- What is kept before a stage is kept at any later one. -/
theorem Trace.keeper_inStage {stage : Stage} (read : ∀ line, stage ≠ .read line)
    (kept : trace.keeper activity) : trace.keeper (activity.inStage stage) := by
  cases trace with
  | running => exact kept
  | current => exact kept
  | jump => exact kept.imp id fun typed => ⟨typed.1, read⟩

/-- Nothing is left of a run that was left. -/
theorem Trace.not_left_leaveRun (trace : Trace) (session : Session) :
    ¬trace.left session.leaveRun.1 := by
  cases trace with
  | running => exact nofun
  | current => exact fun isLeft => isLeft rfl
  | jump => exact fun isLeft => isLeft rfl

/-- Leaving a typed line adds no trace. -/
theorem Trace.left_of_leaveLine (isLeft : trace.left (session.leaveLine activity)) :
    trace.left session := by
  unfold Session.leaveLine at isLeft
  split at isLeft
  · cases trace with
    | running => exact isLeft
    | current => exact isLeft
    | jump => exact absurd rfl isLeft
  · exact isLeft

/-- Outside a run, leaving a typed line clears its jump away. -/
theorem Trace.not_keeper_of_leaveLine (outside : activity.cursor = none)
    (isLeft : trace.left (session.leaveLine activity)) : ¬trace.keeper activity := by
  cases trace with
  | running => exact not_not.mpr outside
  | current => exact not_not.mpr outside
  | jump =>
    rintro (inside | ⟨typed, _⟩)
    · exact inside outside
    · rw [Session.leaveLine, if_pos typed] at isLeft
      exact isLeft rfl

/-- **An activity that is broken off leaves no trace of its own.** -/
theorem Trace.left_of_abandon (isLeft : trace.left (session.abandon activity).1) :
    trace.left session ∧ ¬trace.keeper activity := by
  unfold Session.abandon at isLeft
  cases inside : activity.cursor with
  | some cursor =>
    rw [inside] at isLeft
    exact absurd (left_of_leaveLine isLeft) (trace.not_left_leaveRun session)
  | none =>
    rw [inside] at isLeft
    exact ⟨left_of_leaveLine isLeft, not_keeper_of_leaveLine inside isLeft⟩

/-! ### One step and the traces -/

/-- Reading a typed line leaves the traces alone. -/
theorem Trace.passes_readLine {typed : String → Prop} {line : String}
    (shaped : activity.Shaped typed) (stage : activity.stage = .read line) :
    trace.Passes session activity (session.readLine activity line).1
      ((session.readLine activity line).2.remaining activity) := by
  obtain ⟨_, outside, _⟩ := shaped.reading line stage
  have unkept : ¬trace.keeper activity := by
    cases trace with
    | running => exact not_not.mpr outside
    | current => exact not_not.mpr outside
    | jump => exact fun kept => kept.elim (absurd outside) fun begun => begun.2 line stage
  have same : trace.left (session.readLine activity line).1 → trace.left session := by
    have reads := session.readsLine activity line
    generalize session.readLine activity line = result at reads ⊢
    cases trace <;> cases reads <;> exact id
  exact fun isLeft => .inr ⟨same isLeft, unkept⟩

/-- Starting a run leaves traces that the run keeps. -/
theorem Trace.passes_beginRun :
    trace.Passes session activity (session.beginRun activity).1
      ((session.beginRun activity).2.remaining activity) := by
  unfold Session.beginRun
  split
  · exact passes_of_same id (keeper_inStage nofun)
  · exact passes_of_cursor (by simp)

/-- What is left after a statement was there before, but for the jump. -/
theorem Trace.left_of_executes {statement : Node} {result : Session × Outcome}
    (executes : Session.Executes session statement result) (isLeft : trace.left result.1) :
    trace.left session ∨ trace = .jump := by
  cases trace with
  | jump => exact .inr rfl
  | running =>
    cases executes with
    | stopped => exact absurd isLeft nofun
    | cleared => exact absurd isLeft nofun
    | _ => exact .inl isLeft
  | current => cases executes <;> exact .inl isLeft

/-- Executing a statement leaves the traces of a run alone, and a jump to whoever may jump. -/
theorem Trace.passes_execute {typed : String → Prop} {statement : Node}
    (shaped : activity.Shaped typed) (stage : activity.stage = .execute statement) :
    trace.Passes session activity (session.executeStage activity statement).1
      ((session.executeStage activity statement).2.remaining activity) := by
  have executes := session.executes statement
  unfold Session.executeStage
  generalize session.execute statement = result at executes ⊢
  -- each stage that follows is kept by what kept the statement, which keeps a jump at least
  have passes : ∀ {following : Activity}, (trace.keeper activity → trace.keeper following) →
      trace.Passes session activity result.1 [following] := by
    intro following keeps isLeft
    rcases left_of_executes executes isLeft with before | rfl
    · exact passes_of_same (fun _ => before) keeps isLeft
    · refine .inl ⟨following, List.mem_singleton_self _, keeps ?_⟩
      by_cases inside : activity.cursor = none
      · refine .inr ⟨?_, fun line read => nomatch stage.symm.trans read⟩
        by_contra untyped
        exact shaped.bare (Bool.not_eq_true _ ▸ untyped) inside statement stage
      · exact .inl inside
  rcases result with ⟨after, effects | cause | fault | ⟨prompt, name⟩ | _⟩
  · exact passes (keeper_inStage nofun)
  · exact passes (keeper_inStage nofun)
  · exact passes id
  · exact passes (keeper_inStage nofun)
  · exact passes (keeper_inStage nofun)

/-- Reporting a failure leaves the traces alone. -/
theorem Trace.passes_fail {failure : Failure} :
    trace.Passes session activity (session.failStage activity failure).1
      ((session.failStage activity failure).2.remaining activity) := by
  unfold Session.failStage
  split
  · exact passes_of_same id (keeper_inStage nofun)
  · next outside =>
    split
    · exact passes_of_same id (keeper_inStage nofun)
    · next untyped =>
      refine fun isLeft => .inr ⟨isLeft, ?_⟩
      cases trace with
      | running => exact not_not.mpr outside
      | current => exact not_not.mpr outside
      | jump => exact fun kept => kept.elim (absurd outside) fun typed => untyped typed.1

/-- Ending a call leaves no trace of its own. -/
theorem Trace.passes_leaveLine (outside : activity.cursor = none) :
    trace.Passes session activity (session.leaveLine activity) [] :=
  fun isLeft => .inr ⟨left_of_leaveLine isLeft, not_keeper_of_leaveLine outside isLeft⟩

/-- **A trace in the session after a step has a keeper**, or was there before and is not for this
activity to clear away. -/
theorem Trace.passes_step {typed : String → Prop} (shaped : activity.Shaped typed) :
    trace.Passes session activity (session.step activity).1
      ((session.step activity).2.remaining activity) := by
  unfold Session.step
  split
  · next line stage => exact passes_readLine shaped stage
  · exact passes_beginRun
  · next statement stage => exact passes_execute shaped stage
  · exact passes_of_same id id
  · next cursor _ inside =>
    have kept : activity.cursor ≠ none := inside ▸ nofun
    unfold Session.selectLine
    split
    · exact passes_of_cursor kept
    · split
      · exact passes_of_cursor kept
      · exact passes_of_cursor kept
  · next cursor _ inside =>
    have kept : activity.cursor ≠ none := inside ▸ nofun
    unfold Session.advance
    split
    · exact passes_of_cursor nofun
    · split
      · exact passes_of_cursor kept
      · exact passes_of_cursor nofun
  · exact passes_fail
  · exact fun isLeft => absurd isLeft (trace.not_left_leaveRun session)
  · next outside => exact passes_leaveLine outside
  · next outside => exact passes_leaveLine outside
  · next outside => exact passes_leaveLine outside

/-- An answer leaves the traces alone. -/
theorem Trace.passes_answer (line : String) :
    trace.Passes session activity (session.answer activity line).1
      [(session.answer activity line).2] := by
  have assigned : ∀ {name : String} {value : Value},
      trace.left (session.assign name value) → trace.left session := by
    cases trace <;> exact id
  unfold Session.answer
  split
  · split
    · exact passes_of_same assigned (keeper_inStage nofun)
    · split
      · exact passes_of_same assigned (keeper_inStage nofun)
      · exact passes_of_same id (keeper_inStage nofun)
  · exact passes_of_same id id

/-- What remains of an activity that is broken off is nothing. -/
theorem Trace.Passes.abandoned (passes : trace.Passes session activity after [following]) :
    trace.Passes session activity (after.abandon following).1 [] := by
  intro isLeft
  obtain ⟨isLeft', unkept⟩ := left_of_abandon isLeft
  rcases passes isLeft' with ⟨other, member, kept⟩ | before
  · cases List.mem_singleton.mp member
    exact absurd kept unkept
  · exact .inr before

end Traces

/-! ### One step and the shape of activities -/

section Shapes

variable {typed : String → Prop} {session : Session} {activity : Activity}

/-- At most stages, every activity looks like one of a call. -/
theorem Activity.shaped_inStage {stage : Stage} (unread : ∀ line, stage ≠ .read line)
    (unstated : ∀ statement, stage ≠ .execute statement) :
    (activity.inStage stage).Shaped typed where
  reading line same := absurd same (unread line)
  bare _ _ := unstated

/-- In a run, nothing is read. -/
theorem Activity.shaped_of_cursor (inside : activity.cursor ≠ none)
    (unread : ∀ line, activity.stage ≠ .read line) : activity.Shaped typed where
  reading line same := absurd same (unread line)
  bare _ outside := absurd outside inside

/-- **A step keeps the shape of an activity.** -/
theorem Activity.shaped_step (shaped : activity.Shaped typed) :
    ∀ other ∈ (session.step activity).2.remaining activity, other.Shaped typed := by
  have stays : ∀ other ∈ [activity], other.Shaped typed := by
    simpa using shaped
  have moves : ∀ {stage : Stage}, (∀ line, stage ≠ .read line) →
      (∀ statement, stage ≠ .execute statement) →
      ∀ other ∈ [activity.inStage stage], other.Shaped typed := by
    intro stage unread unstated
    simpa using shaped_inStage unread unstated
  unfold Session.step
  split
  · next line stage =>
    obtain ⟨immediate, _⟩ := shaped.reading line stage
    have reads := session.readsLine activity line
    generalize session.readLine activity line = result at reads ⊢
    cases reads with
    | blank => exact List.forall_mem_nil _
    | refused cause => exact moves nofun nofun
    | unreadable fault => exact stays
    | erased => exact moves nofun nofun
    | stored => exact moves nofun nofun
    | stated isRead parsed =>
      intro other member
      cases List.mem_singleton.mp member
      exact ⟨nofun, fun untyped => absurd (immediate.symm.trans untyped) nofun⟩
  · unfold Session.beginRun
    split
    · exact moves nofun nofun
    · intro other member
      cases List.mem_singleton.mp member
      exact shaped_of_cursor nofun nofun
  · next statement _ =>
    unfold Session.executeStage
    generalize session.execute statement = result
    rcases result with ⟨after, effects | cause | fault | ⟨prompt, name⟩ | _⟩
    · exact moves nofun nofun
    · exact moves nofun nofun
    · exact stays
    · exact moves nofun nofun
    · exact moves nofun nofun
  · exact stays
  · next cursor _ inside =>
    unfold Session.selectLine
    split
    · exact moves nofun nofun
    · split
      · exact stays
      · intro other member
        cases List.mem_singleton.mp member
        have kept : activity.cursor ≠ none := inside ▸ nofun
        exact shaped_of_cursor kept nofun
  · next cursor _ _ =>
    unfold Session.advance
    split
    · intro other member
      cases List.mem_singleton.mp member
      exact shaped_of_cursor nofun nofun
    · split
      · exact moves nofun nofun
      · intro other member
        cases List.mem_singleton.mp member
        exact shaped_of_cursor nofun nofun
  · unfold Session.failStage
    split
    · exact moves nofun nofun
    · split
      · exact moves nofun nofun
      · exact List.forall_mem_nil _
  · intro other member
    cases List.mem_singleton.mp member
    exact ⟨nofun, nofun⟩
  · exact List.forall_mem_nil _
  · exact List.forall_mem_nil _
  · exact List.forall_mem_nil _

/-- An answer keeps the shape of an activity. -/
theorem Activity.shaped_answer (shaped : activity.Shaped typed) (line : String) :
    (session.answer activity line).2.Shaped typed := by
  unfold Session.answer
  split
  · split
    · exact shaped_inStage nofun nofun
    · split
      · exact shaped_inStage nofun nofun
      · exact shaped_inStage nofun nofun
  · exact shaped

end Shapes

/-! ### What a session holds all the time -/

/-- **What a session holds all the time**: its lines were typed, no two loops are open over one
variable, and the variable of each has a value. -/
structure Session.Kept (typed : String → Prop) (session : Session) : Prop where
  stored : ∀ number entry, session.program.find? number = some entry →
    typed entry.source ∧ entry.IsLine number
  distinct : (session.loops.map LoopFrame.name).Nodup
  known : ∀ frame ∈ session.loops, session.memory.find? frame.name ≠ none

section Kept

variable {typed : String → Prop} {session : Session} {activity : Activity}

/-- A name that has a value keeps one. -/
theorem Memory.known_set {memory : Memory} {name other : String} {value : Value}
    (known : memory.find? other ≠ none) : (memory.set name value).find? other ≠ none := by
  rw [find?_set]
  split
  · exact nofun
  · exact known

theorem Memory.known_of_readsTo {memory after : Memory} {name : String}
    (reads : memory.ReadsTo after) (known : memory.find? name ≠ none) :
    after.find? name ≠ none := by
  rcases reads name with same | ⟨unset, _⟩
  · rw [same]
    exact known
  · exact absurd unset known

/-- The loops outside the loop over a variable are loops over others. -/
theorem Session.outside_sublist (name : String) (loops : List LoopFrame) :
    (outside name loops).Sublist loops := by
  have front : (loops.reverse.takeWhile fun frame => frame.name != name).Sublist loops.reverse :=
    List.takeWhile_sublist _
  have back := front.reverse
  rwa [List.reverse_reverse] at back

theorem Session.name_ne_of_outside {name : String} {loops : List LoopFrame} {frame : LoopFrame}
    (member : frame ∈ outside name loops) : frame.name ≠ name := by
  have holds := List.mem_takeWhile_imp (List.mem_reverse.mp member)
  simpa using holds

/-- Variables that only gain values keep what a session holds. -/
theorem Session.Kept.withMemory (kept : session.Kept typed) {memory : Memory}
    (more : ∀ name, session.memory.find? name ≠ none → memory.find? name ≠ none) :
    Session.Kept typed { session with memory } where
  stored := kept.stored
  distinct := kept.distinct
  known frame member := more frame.name (kept.known frame member)

/-- A session without loops keeps its program. -/
theorem Session.Kept.withoutLoops (kept : session.Kept typed) {after : Session}
    (program : after.program = session.program) (loops : after.loops = []) : after.Kept typed where
  stored := program ▸ kept.stored
  distinct := by
    rw [loops]
    exact List.nodup_nil
  known := by
    rw [loops]
    exact nofun

/-- An open loop is the only one over its variable, which has a value. -/
theorem Session.kept_openLoop (kept : session.Kept typed) (name : String)
    (start limit step : Float) : (openLoop name start limit step session).1.Kept typed where
  stored := kept.stored
  distinct := by
    refine List.nodup_cons.mpr ⟨fun held => ?_, ?_⟩
    · obtain ⟨frame, member, same⟩ := List.mem_map.mp held
      exact name_ne_of_outside member same
    · exact kept.distinct.sublist ((outside_sublist name session.loops).map LoopFrame.name)
  known frame member := by
    rcases List.mem_cons.mp member with rfl | outer
    · show (session.memory.set name (.real start)).find? name ≠ none
      rw [Memory.find?_set, if_pos rfl]
      exact nofun
    · exact Memory.known_set (kept.known frame ((outside_sublist name _).subset outer))

/-- **A statement keeps what a session holds.** -/
theorem Session.kept_executes {statement : Node} {result : Session × Outcome}
    (kept : session.Kept typed) (executes : session.Executes statement result) :
    result.1.Kept typed := by
  have read : ∀ {memory : Memory}, session.memory.ReadsTo memory →
      Session.Kept typed { session with memory } := fun reads =>
    kept.withMemory fun _ => Memory.known_of_readsTo reads
  cases executes with
  | failed memory cause reads => exact read reads
  | shown memory effects reads => exact read reads
  | asked memory prompt name reads => exact read reads
  | started memory reads => exact read reads
  | assigned memory name value reads => exact (read reads).withMemory fun _ => Memory.known_set
  | jumped memory line entry reads => exact { read reads with }
  | opened memory name start limit step reads => exact kept_openLoop (read reads) name _ _ _
  | returned memory frame outer value line reads =>
    exact { (read reads).withMemory fun _ => Memory.known_set with }
  | closed memory frame outer value reads innermost =>
    have distinct : ((frame :: outer).map LoopFrame.name).Nodup := innermost ▸ kept.distinct
    refine ⟨kept.stored, (List.nodup_cons.mp distinct).2, fun other member => ?_⟩
    have known := kept.known other (innermost ▸ List.mem_cons_of_mem frame member)
    exact Memory.known_set (Memory.known_of_readsTo reads known)
  | stopped memory reads => exact { read reads with }
  | restarted first others => exact kept.withoutLoops rfl rfl
  | stranded => exact kept.withoutLoops rfl rfl
  | cleared => exact ⟨nofun, List.nodup_nil, nofun⟩

/-- Reading a typed line keeps what a session holds, and stores nothing else. -/
theorem Session.kept_readsLine {line : String} {result : Session × Move}
    (kept : session.Kept typed) (isTyped : typed line)
    (reads : session.ReadsLine activity line result) : result.1.Kept typed := by
  cases reads with
  | blank => exact kept
  | refused cause => exact kept
  | unreadable fault => exact kept
  | @erased read number isRead parsed =>
    refine { kept with stored := fun other entry found => ?_ }
    rw [Program.find?_erase] at found
    split at found
    · cases found
    · exact kept.stored other entry found
  | @stored read number statement isRead parsed filled =>
    refine { kept with stored := fun other entry found => ?_ }
    rw [Program.find?_insert] at found
    split at found
    · next same =>
      cases found
      rw [same]
      exact ⟨isTyped, positive_of_line isRead parsed, filled, read, isRead, parsed⟩
    · exact kept.stored other entry found
  | stated isRead parsed => exact kept

/-- **A step keeps what a session holds.** -/
theorem Session.kept_step (kept : session.Kept typed) (shaped : activity.Shaped typed) :
    (session.step activity).1.Kept typed := by
  have left : (session.leaveLine activity).Kept typed := by
    unfold leaveLine
    split
    · exact { kept with }
    · exact kept
  unfold step
  split
  · next line stage =>
    obtain ⟨_, _, isTyped⟩ := shaped.reading line stage
    exact kept_readsLine kept isTyped (session.readsLine activity line)
  · unfold beginRun
    split
    · exact kept
    · exact kept.withoutLoops rfl rfl
  · next statement _ =>
    have after := kept_executes kept (session.executes statement)
    unfold executeStage
    generalize session.execute statement = result at after ⊢
    rcases result with ⟨session', effects | cause | fault | ⟨prompt, name⟩ | _⟩ <;> exact after
  · exact kept
  · next cursor _ _ =>
    unfold selectLine
    split
    · exact kept
    · split <;> exact { kept with }
  · next cursor _ _ =>
    unfold advance
    split
    · exact kept
    · split
      · exact kept
      · exact { kept with }
  · unfold failStage
    split
    · exact kept
    · split <;> exact kept
  · exact { kept with }
  · exact left
  · exact left
  · exact left

theorem Session.kept_answer (kept : session.Kept typed) (line : String) :
    (session.answer activity line).1.Kept typed := by
  unfold answer
  split
  · split
    · exact kept.withMemory fun _ => Memory.known_set
    · split
      · exact kept.withMemory fun _ => Memory.known_set
      · exact kept
  · exact kept

theorem Session.kept_abandon (kept : session.Kept typed) (activity : Activity) :
    (session.abandon activity).1.Kept typed := by
  unfold abandon leaveLine
  split <;> simp only <;> split <;> exact { kept with }

end Kept

/-! ### Sittings -/

/-- **What holds of a sitting**: each trace in the session has a keeper under way, the activities
look like those of calls, and the session holds what it should. -/
structure Sitting.Orderly (typed : String → Prop) (sitting : Sitting) : Prop where
  accounted : ∀ trace : Trace, trace.Accounted sitting
  shaped : ∀ activity ∈ sitting.activities, activity.Shaped typed
  kept : sitting.session.Kept typed

section Sittings

variable {allowed : Call → Prop} {typed : String → Prop} {before after : Sitting}

/-- What has become of the latest activity, seen from the whole sitting. -/
theorem Trace.accounted_of_passes {trace : Trace} {session after : Session} {activity : Activity}
    {remaining others : List Activity} (accounted : trace.Accounted ⟨session, activity :: others⟩)
    (passes : trace.Passes session activity after remaining) :
    trace.Accounted ⟨after, remaining ++ others⟩ := by
  intro isLeft
  rcases passes isLeft with ⟨other, member, kept⟩ | ⟨before, unkept⟩
  · exact ⟨other, List.mem_append_left others member, kept⟩
  · obtain ⟨other, member, kept⟩ := accounted before
    rcases List.mem_cons.mp member with rfl | outer
    · exact absurd kept unkept
    · exact ⟨other, List.mem_append_right remaining outer, kept⟩

/-- What has become of the latest activity keeps a sitting orderly. -/
theorem Sitting.Orderly.follow {session after : Session} {activity : Activity}
    {remaining others : List Activity} (orderly : Orderly typed ⟨session, activity :: others⟩)
    (passes : ∀ trace : Trace, trace.Passes session activity after remaining)
    (shaped : ∀ other ∈ remaining, other.Shaped typed) (kept : after.Kept typed) :
    Orderly typed ⟨after, remaining ++ others⟩ where
  accounted trace := Trace.accounted_of_passes (orderly.accounted trace) (passes trace)
  shaped other member := by
    rcases List.mem_append.mp member with here | outer
    · exact shaped other here
    · exact orderly.shaped other (List.mem_cons_of_mem activity outer)
  kept := kept

/-- An activity that is broken off leaves a sitting orderly. -/
theorem Sitting.Orderly.brokenOff {session after : Session} {activity following : Activity}
    {others : List Activity} (orderly : Orderly typed ⟨session, activity :: others⟩)
    (passes : ∀ trace : Trace, trace.Passes session activity after [following])
    (kept : after.Kept typed) : Orderly typed ⟨(after.abandon following).1, others⟩ :=
  orderly.follow (fun trace => (passes trace).abandoned) (List.forall_mem_nil _)
    (Session.kept_abandon kept following)

/-- A call keeps a sitting orderly, if lines are typed only if they may be. -/
theorem Sitting.orderly_take (orderly : before.Orderly typed) {call : Call}
    (isTyped : ∀ line, call = .line line → typed line) : (before.take call).Orderly typed := by
  have same : ∀ (session : Session), session.Kept typed →
      (∀ trace : Trace, trace.left session → trace.left before.session) →
      Orderly typed { before with session } := fun session kept fewer => {
    accounted := fun trace isLeft => orderly.accounted trace (fewer trace isLeft)
    shaped := orderly.shaped
    kept }
  have opened : ∀ activity : Activity, activity.Shaped typed →
      Orderly typed { before with activities := activity :: before.activities } :=
    fun activity shaped => {
      accounted := fun trace isLeft => by
        obtain ⟨other, member, kept⟩ := orderly.accounted trace isLeft
        exact ⟨other, List.mem_cons_of_mem activity member, kept⟩
      shaped := List.forall_mem_cons.mpr ⟨shaped, orderly.shaped⟩
      kept := orderly.kept }
  cases call with
  | line line =>
    refine opened _ ⟨?_, nofun⟩
    rintro other ⟨⟩
    exact ⟨rfl, rfl, isTyped line rfl⟩
  | run => exact opened _ ⟨nofun, nofun⟩
  | startNew =>
    refine same _ ⟨nofun, List.nodup_nil, nofun⟩ fun trace isLeft => ?_
    cases trace with
    | running => exact absurd isLeft nofun
    | current => exact isLeft
    | jump => exact isLeft
  | read name =>
    refine same _ (orderly.kept.withMemory fun _ => ?_) fun trace => by cases trace <;> exact id
    exact Memory.known_of_readsTo (Memory.readsTo_touch _ name)
  | assign name value =>
    refine same _ (orderly.kept.withMemory fun _ => Memory.known_set) fun trace => ?_
    cases trace <;> exact id

/-- What a step of the latest activity comes to. -/
theorem Sitting.Orderly.moved {session after : Session} {activity : Activity}
    {others : List Activity} {move : Move} (orderly : Orderly typed ⟨session, activity :: others⟩)
    (moves : session.step activity = (after, move)) :
    (∀ trace : Trace, trace.Passes session activity after (move.remaining activity)) ∧
      (∀ other ∈ move.remaining activity, other.Shaped typed) ∧ after.Kept typed := by
  have shaped := orderly.shaped activity List.mem_cons_self
  have passes : ∀ trace : Trace, trace.Passes session activity (session.step activity).1
      ((session.step activity).2.remaining activity) := fun trace => trace.passes_step shaped
  have shapes : ∀ other ∈ (session.step activity).2.remaining activity, other.Shaped typed :=
    Activity.shaped_step shaped
  have kept := Session.kept_step orderly.kept shaped
  rw [moves] at passes shapes kept
  exact ⟨passes, shapes, kept⟩

/-- **One step keeps a sitting orderly.** -/
theorem Sitting.orderly_step (orderly : before.Orderly typed)
    (isTyped : ∀ line, allowed (.line line) → typed line) (step : Step allowed before after) :
    after.Orderly typed := by
  cases step with
  | called rests call permitted =>
    refine orderly_take orderly fun line same => isTyped line ?_
    exact same ▸ permitted
  | advanced moves =>
    obtain ⟨passes, shapes, kept⟩ := orderly.moved moves
    exact orderly.follow passes shapes kept
  | undelivered moves =>
    obtain ⟨passes, _, kept⟩ := orderly.moved moves
    exact orderly.brokenOff passes kept
  | @answered session activity others prompt name awaits line =>
    have shaped : (session.answer activity line).2.Shaped typed :=
      Activity.shaped_answer (orderly.shaped activity List.mem_cons_self) line
    exact orderly.follow (fun trace => trace.passes_answer line)
      (List.forall_mem_singleton.mpr shaped) (Session.kept_answer orderly.kept line)
  | @unanswered session activity others prompt name awaits =>
    have stays : ∀ trace : Trace, trace.Passes session activity session [activity] := fun _ =>
      Trace.passes_of_same id id
    exact orderly.brokenOff stays orderly.kept
  | finished ends =>
    obtain ⟨passes, shapes, kept⟩ := orderly.moved ends
    exact orderly.follow passes shapes kept
  | failed ends =>
    obtain ⟨passes, shapes, kept⟩ := orderly.moved ends
    exact orderly.follow passes shapes kept
  | faulted breaks =>
    obtain ⟨passes, _, kept⟩ := orderly.moved breaks
    exact orderly.brokenOff passes kept

/-- **Every sitting is orderly**, whatever is called and however the calls end. -/
theorem Sitting.orderly_of_reached {sitting : Sitting} (reached : Reached allowed sitting) :
    sitting.Orderly fun line => allowed (.line line) := by
  induction reached with
  | start =>
    refine ⟨fun trace isLeft => ?_, List.forall_mem_nil _, nofun, List.nodup_nil,
      List.forall_mem_nil _⟩
    cases trace with
    | running => exact absurd isLeft nofun
    | current => exact absurd rfl isLeft
    | jump => exact absurd rfl isLeft
  | step _ step hypothesis => exact orderly_step hypothesis (fun _ => id) step

/-- **A session at rest**: nothing runs, no line is current and no jump is pending; each stored line
has a positive number and a statement, and is what its text is read as; no two loops are open
over one variable, and the variable of each has a value. -/
structure Session.AtRest (session : Session) : Prop where
  stopped : session.running = false
  outside : session.current = none
  settled : session.jump = none
  stored : ∀ number entry, session.program.find? number = some entry → entry.IsLine number
  distinct : (session.loops.map LoopFrame.name).Nodup
  known : ∀ frame ∈ session.loops, session.memory.find? frame.name ≠ none

/-- **Between calls a session is at rest**, whatever was called before, inside other calls too,
and however the calls ended. -/
theorem Sitting.atRest_of_reached {session : Session} (reached : Reached allowed ⟨session, []⟩) :
    session.AtRest := by
  have orderly := orderly_of_reached reached
  have clear : ∀ trace : Trace, ¬trace.left session := by
    intro trace isLeft
    obtain ⟨_, impossible, _⟩ := orderly.accounted trace isLeft
    cases impossible
  exact {
    stopped := Bool.not_eq_true _ ▸ clear .running
    outside := not_not.mp (clear .current)
    settled := not_not.mp (clear .jump)
    stored := fun number entry found => (orderly.kept.stored number entry found).2
    distinct := orderly.kept.distinct
    known := orderly.kept.known }

/-- A line with a number that is typed is stored. -/
theorem Sitting.Reached.stored {session : Session} {others : List Activity} {number : Int}
    {entry : Entry} (reached : Reached allowed ⟨session, others⟩)
    (rests : Rests ⟨session, others⟩) (isLine : entry.IsLine number)
    (permitted : allowed (.line entry.source)) :
    Reached allowed
      ⟨{ session with program := session.program.insert number entry, jump := none }, others⟩ := by
  have called : Step allowed ⟨session, others⟩ ⟨session, .ofLine entry.source :: others⟩ :=
    .called rests _ permitted
  have reads := Session.step_ofLine session isLine
  exact ((reached.step called).step (.advanced reads)).step (.finished rfl)

/-- A program asks for a line, another line is stored meanwhile, and the input does not come. -/
theorem Sitting.atRest_of_reached_input :
    ∃ session : Session, Reached (fun _ => True) ⟨session, []⟩ ∧
      session.program.numbers = [5, 10] ∧ session.AtRest := by
  have isInput : tokens "10 INPUT A" = .ok [⟨.number (.int 10), 0⟩, ⟨.keyword "INPUT", 3⟩,
      ⟨.identifier "A", 9⟩, ⟨.endOfLine, 10⟩] := by
    cbv
  have inputs : Parser.line [⟨.number (.int 10), 0⟩, ⟨.keyword "INPUT", 3⟩, ⟨.identifier "A", 9⟩,
      ⟨.endOfLine, 10⟩] = .ok (.programLine 10 (.input "" "A")) := by
    cbv
  have isEnd : tokens "5 END" =
      .ok [⟨.number (.int 5), 0⟩, ⟨.keyword "END", 2⟩, ⟨.endOfLine, 5⟩] := by
    cbv
  have ends : Parser.line [⟨.number (.int 5), 0⟩, ⟨.keyword "END", 2⟩, ⟨.endOfLine, 5⟩] =
      .ok (.programLine 5 .stop) := by
    cbv
  have first : Entry.IsLine 10 ⟨"10 INPUT A", .input "" "A"⟩ :=
    ⟨by decide, by rintro ⟨⟩, _, isInput, inputs⟩
  have second : Entry.IsLine 5 ⟨"5 END", .stop⟩ :=
    ⟨by decide, by rintro ⟨⟩, _, isEnd, ends⟩
  have stored := (Reached.start : Reached (fun _ => True) start).stored (by rintro _ ⟨⟩) first
    trivial
  have waits := (((stored.step (.called (by rintro _ ⟨⟩) .run trivial)).step (.advanced rfl)).step
    (.advanced rfl)).step (.advanced rfl)
  have meanwhile := waits.stored
    (fun _ same => ⟨Session.defaultPrompt, "A", by cases same; rfl⟩) second trivial
  have broken := meanwhile.step (.unanswered rfl)
  exact ⟨_, broken, rfl, atRest_of_reached broken⟩

end Sittings

end LineBasic
