/-
**What holds while a session is at work.**

Outside a run nothing is running. In a run, the stored program is the one that the run started
with, as long as it is running; a jump leads to one of its lines; and every open loop returns to
one of its lines, which opens it. A statement can end the run and throw the program away, but it
cannot break this, so no step comes to a fault: the line under the cursor is there, the line of a
jump is among those of the run, and a restart has a first line.

* `execute_held` — a statement of a running line keeps what holds in a run;
* `steady_step` — a step keeps it, and comes to no fault;
* `steady_play` — it holds all through a scene.
-/

import LineBasic.Proofs.Lines
import LineBasic.Proofs.Scene
import LineBasic.Proofs.Statement

namespace LineBasic

/-- A loop returns to one of some lines, and the line stored there opens it. -/
def LoopFrame.Returns (frame : LoopFrame) (program : Program) (lines : List Int) : Prop :=
  ∃ line ∈ lines, ∃ entry, frame.returnLine = some line ∧ program.find? line = some entry ∧
    entry.statement.Opens frame.name

/-- Whether an activity has yet to read its line, to execute its first statement or to begin. -/
def Stage.isEarly : Stage → Bool
  | read _ => true
  | begin => true
  | execute _ => true
  | _ => false

namespace Session

/-- The current line is one of the program, and holds a statement. -/
def IsAt (session : Session) (statement : Node) : Prop :=
  ∃ line entry, session.current = some line ∧ session.program.find? line = some entry ∧
    entry.statement = statement

/-- What holds of a session in a run of a program. -/
structure Held (session : Session) (program : Program) : Prop where
  inhabited : program.numbers ≠ []
  snapshot : session.running = true → session.program = program
  landing : ∀ jump, session.jump = some jump → jump.line ∈ program.numbers
  loops : ∀ frame ∈ session.loops, frame.Returns session.program program.numbers

/-- What holds of a session and of the activity that it is busy with, if the given program was
stored at the start; the integers of a line that is about to be read can be read. -/
structure Steady (program : Program) (session : Session) (activity : Activity) : Prop where
  idle : activity.cursor = none → session.running = false
  early : activity.cursor = none → activity.stage.isEarly = true → session.program = program
  beginning : activity.stage = .begin → activity.cursor = none
  reading : ∀ line, activity.stage = .read line →
    activity.cursor = none ∧ ∀ count, tokens line ≠ .error (.tooManyDigits count)
  held : ∀ cursor, activity.cursor = some cursor →
    cursor.lines = program.numbers ∧ session.Held program
  taken : ∀ statement, activity.cursor ≠ none → activity.stage = .execute statement →
    session.running = true ∧ session.IsAt statement

/-! ### Statements -/

section Statements

variable {session : Session} {statement : Node}

/-- The loops outside a loop are among those that were open. -/
theorem mem_of_outside {name : String} {loops : List LoopFrame} {frame : LoopFrame}
    (member : frame ∈ outside name loops) : frame ∈ loops := by
  have inside := (List.takeWhile_sublist _).subset (List.mem_reverse.mp member)
  exact List.mem_reverse.mp inside

/-- A statement outside a run leaves nothing running, comes to no fault, and keeps the program if
it is to be started. -/
theorem execute_idle (statement : Node) (idle : session.running = false) :
    (session.execute statement).1.running = false ∧
      (∀ fault, (session.execute statement).2 ≠ .fault fault) ∧
      ((session.execute statement).2 = .start →
        (session.execute statement).1.program = session.program) := by
  have executes := session.executes statement
  generalize session.execute statement = result at executes ⊢
  cases executes with
  | restarted first others running numbers => exact absurd (idle.symm.trans running) nofun
  | stranded running numbers => exact absurd (idle.symm.trans running) nofun
  | stopped memory reads => exact ⟨rfl, nofun, nofun⟩
  | cleared => exact ⟨rfl, nofun, nofun⟩
  | _ => exact ⟨idle, nofun, fun _ => rfl⟩

/-- **A statement of a running line keeps what holds in a run**; it comes to no fault, and starts
no other run. -/
theorem execute_held {program : Program} (held : session.Held program)
    (running : session.running = true) (isAt : session.IsAt statement) :
    (session.execute statement).1.Held program ∧
      (∀ fault, (session.execute statement).2 ≠ .fault fault) ∧
      (session.execute statement).2 ≠ .start := by
  have snapshot := held.snapshot running
  have executes := session.executes statement
  generalize session.execute statement = result at executes ⊢
  cases executes with
  | failed memory cause reads => exact ⟨{ held with }, nofun, nofun⟩
  | shown memory effects reads => exact ⟨{ held with }, nofun, nofun⟩
  | asked memory prompt name reads named => exact ⟨{ held with }, nofun, nofun⟩
  | started memory reads idle spelled => exact absurd (running.symm.trans idle) nofun
  | assigned memory name value reads => exact ⟨{ held with }, nofun, nofun⟩
  | jumped memory line entry reads stored =>
    refine ⟨{ held with landing := ?_ }, nofun, nofun⟩
    rintro jump ⟨⟩
    exact Program.mem_numbers_iff.mpr ⟨entry, snapshot ▸ stored⟩
  | opened memory name start limit step reads opens =>
    refine ⟨{ held with loops := ?_ }, nofun, nofun⟩
    intro frame member
    rcases List.mem_cons.mp member with same | outer
    · obtain ⟨line, entry, current, stored, stated⟩ := isAt
      have inside : line ∈ program.numbers :=
        Program.mem_numbers_iff.mpr ⟨entry, snapshot ▸ stored⟩
      subst same
      exact ⟨line, inside, entry, current, stored, stated ▸ opens⟩
    · exact held.loops frame (mem_of_outside outer)
  | returned memory frame outer value line reads innermost origin =>
    refine ⟨{ held with landing := ?_ }, nofun, nofun⟩
    rintro jump ⟨⟩
    obtain ⟨line', inside, entry, origin', _⟩ :=
      held.loops frame (innermost ▸ List.mem_cons_self)
    rw [origin] at origin'
    cases origin'
    exact inside
  | closed memory frame outer value reads innermost =>
    refine ⟨{ held with loops := ?_ }, nofun, nofun⟩
    intro other member
    exact held.loops other (innermost ▸ List.mem_cons_of_mem frame member)
  | stopped memory reads => exact ⟨{ held with snapshot := nofun }, nofun, nofun⟩
  | restarted first others running' numbers =>
    refine ⟨{ held with landing := ?_, loops := nofun }, nofun, nofun⟩
    rintro jump ⟨⟩
    rw [← snapshot, numbers]
    exact List.mem_cons_self
  | stranded running' numbers => exact absurd (snapshot ▸ numbers) held.inhabited
  | cleared => exact ⟨{ held with snapshot := nofun, loops := nofun }, nofun, nofun⟩

end Statements

/-! ### Steps -/

section Steps

variable {program : Program} {session : Session} {activity : Activity}

/-- Outside a run, a stage that is not early is steady. -/
theorem Steady.ofIdle (outside : activity.cursor = none) (idle : session.running = false)
    (late : activity.stage.isEarly = false) : Steady program session activity where
  idle _ := idle
  early _ early := absurd (late.symm.trans early) nofun
  beginning _ := outside
  reading _ stage := absurd (stage ▸ late) nofun
  held _ inside := absurd (outside.symm.trans inside) nofun
  taken _ inside := absurd outside inside

/-- In a run, a stage that is not early is steady. -/
theorem Steady.ofHeld {cursor : Cursor} (inside : activity.cursor = some cursor)
    (lines : cursor.lines = program.numbers) (held : session.Held program)
    (late : activity.stage.isEarly = false) : Steady program session activity where
  idle outside := absurd (outside.symm.trans inside) nofun
  early outside := absurd (outside.symm.trans inside) nofun
  beginning stage := absurd (stage ▸ late) nofun
  reading line stage := absurd (stage ▸ late) nofun
  held other inside' := by
    rw [inside] at inside'
    cases inside'
    exact ⟨lines, held⟩
  taken _ _ stage := absurd (stage ▸ late) nofun

/-- What a step has to come to: no fault, and something steady again. -/
def Lands (program : Program) (activity : Activity) : Session × Move → Prop
  | (session, .next following _) => Steady program session following
  | (_, .fault _) => False
  | (session, _) => Steady program session activity

/-- Reading a typed line lands. -/
theorem lands_readLine (steady : Steady program session activity) {line : String}
    (stage : activity.stage = .read line) :
    Lands program activity (session.readLine activity line) := by
  obtain ⟨outside, readable⟩ := steady.reading line stage
  have idle := steady.idle outside
  unfold readLine
  split
  · exact steady
  · split
    · exact .ofIdle outside idle rfl
    · next count tooMany => exact absurd tooMany (readable count)
    · split
      · exact .ofIdle outside idle rfl
      · next number statement parsed =>
        refine .ofIdle outside ?_ rfl
        cases statement <;> exact idle
      · exact {
          idle := fun _ => idle
          early := fun _ _ => steady.early outside (stage ▸ rfl)
          beginning := nofun
          reading := nofun
          held := fun _ inside => absurd (outside.symm.trans inside) nofun
          taken := fun _ inside => absurd outside inside }

/-- Starting a run lands. -/
theorem lands_beginRun (steady : Steady program session activity)
    (stage : activity.stage = .begin) :
    Lands program activity (session.beginRun activity) := by
  have outside := steady.beginning stage
  have same := steady.early outside (stage ▸ rfl)
  unfold beginRun
  split
  · exact .ofIdle outside (steady.idle outside) rfl
  · next inhabited =>
    refine .ofHeld rfl (congrArg Program.numbers same) ⟨?_, fun _ => same, nofun, nofun⟩ rfl
    intro none
    exact inhabited ((Program.isEmpty_iff_numbers _).mpr (same ▸ none))

/-- Executing a statement lands. -/
theorem lands_execute (steady : Steady program session activity) {statement : Node}
    (stage : activity.stage = .execute statement) :
    Lands program activity (session.executeStage activity statement) := by
  unfold executeStage
  cases inside : activity.cursor with
  | none =>
    have same := steady.early inside (stage ▸ rfl)
    have executed := execute_idle statement (steady.idle inside)
    generalize session.execute statement = result at executed ⊢
    rcases result with ⟨after, effects | cause | fault | ⟨prompt, name⟩ | _⟩
    · exact .ofIdle inside executed.1 rfl
    · exact .ofIdle inside executed.1 rfl
    · exact executed.2.1 _ rfl
    · exact .ofIdle inside executed.1 rfl
    · exact {
        idle := fun _ => executed.1
        early := fun _ _ => (executed.2.2 rfl).trans same
        beginning := fun _ => inside
        reading := nofun
        held := fun _ inside' => absurd (inside.symm.trans inside') nofun
        taken := fun _ inside' => absurd inside inside' }
  | some cursor =>
    have notOutside : activity.cursor ≠ none := by
      rw [inside]
      exact nofun
    obtain ⟨lines, held⟩ := steady.held cursor inside
    obtain ⟨running, isAt⟩ := steady.taken statement notOutside stage
    have executed := execute_held held running isAt
    generalize session.execute statement = result at executed ⊢
    rcases result with ⟨after, effects | cause | fault | ⟨prompt, name⟩ | _⟩
    · exact .ofHeld inside lines executed.1 rfl
    · exact .ofHeld inside lines executed.1 rfl
    · exact executed.2.1 _ rfl
    · exact .ofHeld inside lines executed.1 rfl
    · exact absurd rfl executed.2.2

/-- The line under the cursor of a run is stored. -/
theorem Held.underCursor {cursor : Cursor} {line : Int} (held : session.Held program)
    (lines : cursor.lines = program.numbers) (under : session.underCursor cursor = some line) :
    session.running = true ∧ ∃ entry, session.program.find? line = some entry := by
  unfold Session.underCursor at under
  split at under
  · next running =>
    have member : line ∈ program.numbers := lines ▸ List.mem_of_getElem? under
    rw [held.snapshot running]
    exact ⟨running, Program.mem_numbers_iff.mp member⟩
  · cases under

/-- Taking up a line lands. -/
theorem lands_select {cursor : Cursor} (inside : activity.cursor = some cursor)
    (lines : cursor.lines = program.numbers) (held : session.Held program) :
    Lands program activity (session.selectLine activity cursor) := by
  unfold selectLine
  cases under : session.underCursor cursor with
  | none => exact .ofHeld inside lines held rfl
  | some line =>
    obtain ⟨running, entry, stored⟩ := held.underCursor lines under
    simp only [stored]
    exact {
      idle := fun outside => absurd (outside.symm.trans inside) nofun
      early := fun outside => absurd (outside.symm.trans inside) nofun
      beginning := nofun
      reading := nofun
      held := fun other inside' => by
        have same : some other = some cursor := inside'.symm.trans inside
        cases same
        exact ⟨lines, { held with }⟩
      taken := fun other _ stage => by
        cases stage
        exact ⟨running, line, entry, rfl, stored, rfl⟩ }

/-- Moving the cursor lands. -/
theorem lands_advance {cursor : Cursor} (inside : activity.cursor = some cursor)
    (lines : cursor.lines = program.numbers) (held : session.Held program) :
    Lands program activity (session.advance activity cursor) := by
  unfold advance
  split
  · exact .ofHeld rfl lines held rfl
  · split
    · exact .ofHeld inside lines held rfl
    · exact .ofHeld rfl lines { held with landing := nofun } rfl

/-- A stage that is not early can be put in the place of another. -/
theorem Steady.inStage (steady : Steady program session activity) {stage : Stage}
    (late : stage.isEarly = false) : Steady program session (activity.inStage stage) where
  idle := steady.idle
  early _ early := absurd (late.symm.trans early) nofun
  beginning (same : stage = .begin) := absurd (same ▸ late) nofun
  reading line (same : stage = .read line) := absurd (same ▸ late) nofun
  held := steady.held
  taken statement _ (same : stage = .execute statement) := absurd (same ▸ late) nofun

/-- Reporting a failure lands. -/
theorem lands_fail (steady : Steady program session activity) (failure : Failure) :
    Lands program activity (session.failStage activity failure) := by
  unfold failStage
  split
  · exact steady.inStage rfl
  · split
    · exact steady.inStage rfl
    · exact steady

/-- Leaving a typed line lands. -/
theorem lands_leaveLine (steady : Steady program session activity)
    (outside : activity.cursor = none) :
    Lands program activity (session.leaveLine activity, .finished) := by
  unfold leaveLine
  split
  · exact {
      steady with
      early := steady.early
      held := fun _ inside => absurd (outside.symm.trans inside) nofun
      taken := fun _ inside => absurd outside inside }
  · exact steady

/-- **A step lands.** -/
theorem steady_step (steady : Steady program session activity) :
    Lands program activity (session.step activity) := by
  unfold step
  split
  · next line stage => exact lands_readLine steady stage
  · next stage => exact lands_beginRun steady stage
  · next statement stage => exact lands_execute steady stage
  · exact steady
  · next cursor _ inside =>
    obtain ⟨lines, held⟩ := steady.held cursor inside
    exact lands_select inside lines held
  · next cursor _ inside =>
    obtain ⟨lines, held⟩ := steady.held cursor inside
    exact lands_advance inside lines held
  · next failure _ => exact lands_fail steady failure
  · exact .ofIdle rfl rfl rfl
  · next outside => exact lands_leaveLine steady outside
  · next outside => exact lands_leaveLine steady outside
  · next outside => exact lands_leaveLine steady outside

/-- An answer leaves a session steady. -/
theorem steady_answer (steady : Steady program session activity) (line : String) :
    Steady program (session.answer activity line).1 (session.answer activity line).2 := by
  have assigned : ∀ (memory : Memory),
      Steady program { session with memory } (activity.inStage .completed) := fun memory => {
    steady.inStage (rfl : Stage.completed.isEarly = false) with
    held := fun cursor inside =>
      ⟨(steady.held cursor inside).1, { (steady.held cursor inside).2 with }⟩ }
  unfold answer
  split
  · split
    · exact assigned _
    · split
      · exact assigned _
      · exact steady.inStage rfl
  · exact steady

end Steps

end Session

/-! ### Scenes -/

/-- What holds of a scene, and that it has broken on no fault. -/
structure Scene.IsSteady (program : Program) (scene : Scene) : Prop where
  steady : scene.session.Steady program scene.activity
  unbroken : ∀ fault, scene.ending ≠ some (.fault fault)

/-- One tick keeps a scene steady. -/
theorem Scene.steady_tick {program : Program} {scene : Scene} (isSteady : scene.IsSteady program) :
    scene.tick.IsSteady program := by
  cases isOver : scene.ending with
  | some ending =>
    rw [tick_over isOver]
    exact isSteady
  | none =>
    rw [tick_open isOver]
    have lands := Session.steady_step isSteady.steady
    have notFault : ∀ fault, scene.ending ≠ some (.fault fault) := by
      rw [isOver]
      exact nofun
    generalize scene.session.step scene.activity = result at lands ⊢
    rcases result with ⟨session, ⟨activity, effects⟩ | prompt | _ | failure | fault⟩
    · exact ⟨lands, notFault⟩
    · exact ⟨Session.steady_answer lands (scene.answers 0), notFault⟩
    · exact ⟨lands, nofun⟩
    · exact ⟨lands, nofun⟩
    · exact lands.elim

/-- **What holds at the start of a scene holds all through it.** -/
theorem Scene.steady_play {program : Program} {scene : Scene} (isSteady : scene.IsSteady program)
    (n : Nat) : (scene.play n).IsSteady program :=
  play_preserves (Scene.IsSteady program) (fun _ => steady_tick) isSteady n

end LineBasic
