/-
**A statement that fails has only read.**

Until a statement is done, all it has done to the session is read variables, and all that was seen
of it is a question. So when it fails, whether in its evaluation or by its answer, the session is
as it was before the statement, and the report of the failure is all that is written.

* `Within` — a statement under way: what executes, waits or has failed has only read;
* `within_tick` — one tick on, the statement is still under way, or it is over without a failure;
* `play_failed_line`, `play_failed_run` — what follows a failure, outside a run and in one;
* `line_failed`, `run_failed` — what a failed line and a failed run leave;
* `failed_atomic` — both together.
-/

import LineBasic.Proofs.Steady

namespace LineBasic

namespace Scene

/-- A statement is under way since a session was as given, in an activity, after some events: it
executes, or waits, or has failed, and it has only read. -/
inductive Within (session : Session) (activity : Activity) (before : List Event) : Scene → Prop
    where
  | executing (statement : Node) (answers : Nat → String) :
      Within session activity before
        ⟨session, activity.inStage (.execute statement), answers, before, none⟩
  | awaiting (memory : Memory) (prompt name : String) (answers : Nat → String)
      (reads : session.memory.ReadsTo memory) :
      Within session activity before
        ⟨{ session with memory }, activity.inStage (.awaiting prompt name), answers, before, none⟩
  | failed (memory : Memory) (cause : Cause) (asked : List Event) (answers : Nat → String)
      (reads : session.memory.ReadsTo memory)
      (question : asked = [] ∨ ∃ prompt, asked = [.input prompt]) :
      Within session activity before
        ⟨{ session with memory }, activity.failing cause, answers, before ++ asked, none⟩

section Ticks

variable {session : Session} {activity : Activity} {before : List Event} {scene : Scene}

/-- What a statement can come to besides going on: it is over, or it starts the program, or it
breaks on a fault. -/
inductive Leaves (activity : Activity) (scene next : Scene) : Prop where
  | done (completed : next.activity = activity.inStage .completed)
  | starts (statement : Node) (begins : next.activity = activity.inStage .begin)
      (stated : scene.activity.stage = .execute statement) (spelled : statement.innermost = .run)
  | breaks (fault : Fault) (broken : next.ending = some (.fault fault))
      (same : next.activity = scene.activity)

/-- **One tick on, a statement that has not failed is under way or over.** -/
theorem within_tick (within : Within session activity before scene)
    (notFailed : ∀ failure, scene.activity.stage ≠ .failed failure) :
    (Within session activity before scene.tick ∧
      ∀ statement, scene.tick.activity.stage ≠ .execute statement) ∨
    Leaves activity scene scene.tick := by
  cases within with
  | executing statement answers =>
    rw [tick_open rfl]
    simp only [Session.step, Session.executeStage, Activity.inStage]
    have executes := session.executes statement
    generalize session.execute statement = result at executes ⊢
    cases executes with
    | failed memory cause reads =>
      refine .inl ⟨.failed memory cause [] answers reads (.inl rfl), ?_⟩
      rintro _ ⟨⟩
    | asked memory prompt name reads named =>
      refine .inl ⟨?_, ?_⟩
      · simp only [follow, seen_nil, List.append_nil]
        exact .awaiting memory prompt name answers reads
      · rintro _ ⟨⟩
    | started memory reads idle spelled => exact .inr (.starts statement rfl rfl spelled)
    | stranded running numbers => exact .inr (.breaks .noLines rfl rfl)
    | _ => exact .inr (.done rfl)
  | awaiting memory prompt name answers reads =>
    rw [tick_open rfl]
    simp only [Session.step, Activity.inStage, follow, Session.answer]
    split
    · exact .inr (.done rfl)
    · split
      · exact .inr (.done rfl)
      · refine .inl ⟨.failed memory _ [.input prompt] _ reads (.inr ⟨prompt, rfl⟩), ?_⟩
        rintro _ ⟨⟩
  | failed memory cause asked answers reads question => exact absurd rfl (notFailed _)

end Ticks

/-! ### Typed lines -/

section TypedLines

variable {session : Session} {line : String} {answers : Nat → String}

/-- How far a typed line that starts no run has come: it is still to be read, its statement is
under way, or it is over and has not failed. -/
inductive Typing (session : Session) (line : String) (answers : Nat → String) : Scene → Prop where
  | reading : Typing session line answers (opening session (.ofLine line) answers)
  | underWay {scene : Scene} (within : Within session (.ofLine line) [] scene)
      (notRun : ∀ statement, scene.activity.stage = .execute statement →
        statement.innermost ≠ .run) :
      Typing session line answers scene
  | done {scene : Scene} (completed : scene.activity = (Activity.ofLine line).inStage .completed) :
      Typing session line answers scene
  | ended {scene : Scene} {ending : Ending} (isOver : scene.ending = some ending)
      (unfailed : ∀ failure, scene.activity.stage ≠ .failed failure) :
      Typing session line answers scene

/-- A typed line that is to be read is over, has failed to be read, or gives a statement. -/
theorem typing_read (notRun : ∀ read node, tokens line = .ok read → Parser.line read = .ok node →
    node.innermost ≠ .run) :
    Typing session line answers (opening session (.ofLine line) answers).tick := by
  have unread : ∀ cause, Typing session line answers
      ⟨session, (Activity.ofLine line).failing cause, answers, [], none⟩ := by
    intro cause
    refine .underWay (.failed session.memory cause [] answers (.refl _) (.inl rfl)) ?_
    rintro _ ⟨⟩
  rw [tick_open rfl]
  simp only [opening, Session.step, Activity.ofLine, Session.readLine]
  split
  · refine .ended rfl ?_
    rintro _ ⟨⟩
  · split
    · exact unread _
    · refine .ended rfl ?_
      rintro _ ⟨⟩
    · next read scanned =>
      split
      · exact unread _
      · exact .done rfl
      · next node _ parsed =>
        refine .underWay (.executing node answers) ?_
        rintro statement ⟨⟩
        exact notRun read node scanned parsed

/-- One tick on, a typed line has come further. -/
theorem typing_tick (notRun : ∀ read node, tokens line = .ok read → Parser.line read = .ok node →
    node.innermost ≠ .run) {scene : Scene} (typing : Typing session line answers scene) :
    Typing session line answers scene.tick := by
  cases typing with
  | reading => exact typing_read notRun
  | done completed =>
    obtain ⟨session', activity, answers', events, ending⟩ := scene
    subst completed
    cases ending with
    | some ending => exact .done rfl
    | none => exact .done rfl
  | ended isOver unfailed =>
    rw [tick_over isOver]
    exact .ended isOver unfailed
  | underWay within stated =>
    by_cases failed : ∃ failure, scene.activity.stage = .failed failure
    · cases within with
      | executing statement answers => obtain ⟨_, ⟨⟩⟩ := failed
      | awaiting memory prompt name answers reads => obtain ⟨_, ⟨⟩⟩ := failed
      | failed memory cause asked answers reads question => exact .done rfl
    · have notFailed : ∀ failure, scene.activity.stage ≠ .failed failure :=
        fun failure stage => failed ⟨failure, stage⟩
      rcases within_tick within notFailed with ⟨on, notExecuting⟩ | leaves
      · exact .underWay on fun statement stage => absurd stage (notExecuting statement)
      · cases leaves with
        | done completed => exact .done completed
        | starts statement begins stage spelled => exact absurd spelled (stated statement stage)
        | breaks fault broken same => exact .ended broken (same ▸ notFailed)

/-- A typed line that has failed is over two steps later, with the report written. -/
theorem play_failed_line (memory : Memory) (cause : Cause) (events : List Event) :
    (⟨{ session with memory }, (Activity.ofLine line).failing cause, answers, events, none⟩ :
      Scene).play 2 =
      ⟨{ session with memory, jump := none }, (Activity.ofLine line).inStage .completed, answers,
        events ++ [.line (Failure.report ⟨cause, none⟩)], some .finished⟩ := rfl

end TypedLines

/-! ### Runs -/

section Runs

variable {program : Program} {cursor : Cursor}

/-- A scene is about to take up a line. -/
structure Takes (scene : Scene) (cursor : Cursor) (line : Int) : Prop where
  isOpen : scene.ending = none
  stage : scene.activity.stage = .select
  inside : scene.activity.cursor = some cursor
  under : scene.session.underCursor cursor = some line

/-- After a number of ticks a statement is under way: the scene took up its line before, no other
line since. -/
def IsUnderWay (scene : Scene) (k : Nat) (cursor : Cursor) : Prop :=
  ∃ j line, j < k ∧ (scene.play j).Takes cursor line ∧
    (∀ i, j < i → i ≤ k → (scene.play i).activity.stage ≠ .select) ∧
    Within { (scene.play j).session with current := some line } (scene.play j).activity
      (scene.play j).events (scene.play k)

/-- Whether a statement executes, waits or has failed. -/
def isStated : Stage → Bool
  | .execute _ => true
  | .awaiting .. => true
  | .failed _ => true
  | _ => false

/-- A statement under way that has not failed is under way one tick later, if it is not over. -/
theorem isUnderWay_tick {scene : Scene} {k : Nat} (isUnderWay : scene.IsUnderWay k cursor)
    (notFailed : ∀ failure, (scene.play k).activity.stage ≠ .failed failure)
    (unbroken : ∀ fault, (scene.play (k + 1)).ending ≠ some (.fault fault))
    (stated : isStated (scene.play (k + 1)).activity.stage = true) :
    scene.IsUnderWay (k + 1) cursor := by
  obtain ⟨j, line, earlier, takes, noOther, within⟩ := isUnderWay
  rw [play_succ] at stated unbroken
  refine ⟨j, line, by omega, takes, ?_, ?_⟩
  · intro i after upTo
    by_cases last : i = k + 1
    · subst last
      rw [play_succ]
      intro stage
      rw [stage] at stated
      cases stated
    · exact noOther i after (by omega)
  · rw [play_succ]
    rcases within_tick within notFailed with ⟨on, _⟩ | leaves
    · exact on
    · cases leaves with
      | done completed =>
        rw [completed] at stated
        cases stated
      | starts statement begins stage spelled =>
        rw [begins] at stated
        cases stated
      | breaks fault broken same => exact absurd broken (unbroken fault)

/-- A statement leaves its activity where it is. -/
theorem cursor_tick {scene : Scene} (stated : isStated scene.activity.stage = true) :
    scene.tick.activity.cursor = scene.activity.cursor := by
  obtain ⟨session, ⟨immediate, cursor, stage⟩, answers, events, _ | ending⟩ := scene
  · cases stage with
    | execute statement =>
      simp only [tick, Session.step, Session.executeStage]
      rcases session.execute statement with ⟨after, _ | _ | _ | _ | _⟩ <;> rfl
    | awaiting prompt name =>
      simp only [tick, Session.step, follow, Session.answer]
      split
      · rfl
      · split <;> rfl
    | failed failure =>
      simp only [tick, Session.step, Session.failStage]
      cases cursor with
      | some cursor => rfl
      | none => cases immediate <;> rfl
    | _ => cases stated
  · rfl

/-- In a run, a statement that has failed is no longer stated one tick later. -/
theorem isStated_tick_failed {scene : Scene} {failure : Failure} (isOpen : scene.ending = none)
    (inside : scene.activity.cursor = some cursor)
    (failed : scene.activity.stage = .failed failure) :
    isStated scene.tick.activity.stage = false := by
  obtain ⟨session, ⟨immediate, _, _⟩, answers, events, _⟩ := scene
  cases isOpen
  cases inside
  cases failed
  rfl

/-- A statement that comes up where a run takes up its next line is that of the line under the
cursor. -/
theorem takes_of_select {scene : Scene} (isOpen : scene.ending = none)
    (stage : scene.activity.stage = .select)
    (inside : scene.tick.activity.cursor = some cursor)
    (stated : isStated scene.tick.activity.stage = true) :
    ∃ line, scene.Takes cursor line ∧
      Within { scene.session with current := some line } scene.activity scene.events
        scene.tick := by
  obtain ⟨session, ⟨immediate, cursor' | cursor', _⟩, answers, events, _⟩ := scene
  all_goals
    cases isOpen
    cases stage
  · cases stated
  · simp only [tick, Session.step, Session.selectLine] at inside stated ⊢
    cases under : session.underCursor cursor' with
    | none =>
      rw [under] at stated
      cases stated
    | some line =>
      simp only [under] at inside stated ⊢
      cases found : session.program.find? line with
      | none =>
        simp only [found] at stated
        cases stated
      | some entry =>
        simp only [found, follow, seen_nil, List.append_nil] at inside ⊢
        cases inside
        exact ⟨line, ⟨rfl, rfl, rfl, under⟩, .executing entry.statement answers⟩

/-- Where a statement of a run is completed no other one comes up yet, if the jump lands. -/
theorem unstated_of_completed {scene : Scene} (isOpen : scene.ending = none)
    (stage : scene.activity.stage = .completed)
    (landing : ∀ cursor jump, scene.activity.cursor = some cursor →
      scene.session.jump = some jump → jump.line ∈ cursor.lines) :
    isStated scene.tick.activity.stage = false := by
  obtain ⟨session, ⟨immediate, cursor' | cursor', _⟩, answers, events, _⟩ := scene
  all_goals
    cases isOpen
    cases stage
  · rfl
  · simp only [tick, Session.step, Session.advance]
    cases jumps : session.jump with
    | none => rfl
    | some jump =>
      have inside' : jump.line ∈ cursor'.lines := landing cursor' jump rfl jumps
      obtain ⟨index, found⟩ := Option.isSome_iff_exists.mp (List.isSome_idxOf?.mpr inside')
      simp only [found]
      rfl

/-- A statement of a run comes up by its line being taken up, and in no other way. -/
theorem takes_of_stated {scene : Scene} (isOpen : scene.ending = none)
    (unstated : isStated scene.activity.stage = false)
    (reading : ∀ line, scene.activity.stage = .read line → scene.activity.cursor = none)
    (landing : ∀ cursor jump, scene.activity.cursor = some cursor →
      scene.session.jump = some jump → jump.line ∈ cursor.lines)
    (inside : scene.tick.activity.cursor = some cursor)
    (stated : isStated scene.tick.activity.stage = true) :
    ∃ line, scene.Takes cursor line ∧
      Within { scene.session with current := some line } scene.activity scene.events
        scene.tick := by
  cases stage : scene.activity.stage with
  | read line =>
    have outside := reading line stage
    obtain ⟨session, ⟨immediate, _, _⟩, answers, events, _⟩ := scene
    cases isOpen
    cases stage
    cases outside
    simp only [tick, Session.step, Session.readLine] at inside
    split at inside
    · cases inside
    · split at inside
      · cases inside
      · cases inside
      · split at inside <;> cases inside
  | begin =>
    obtain ⟨session, ⟨immediate, _, _⟩, answers, events, _⟩ := scene
    cases isOpen
    cases stage
    simp only [tick, Session.step, Session.beginRun] at stated
    split at stated <;> cases stated
  | select => exact takes_of_select isOpen stage inside stated
  | completed =>
    rw [unstated_of_completed isOpen stage landing] at stated
    cases stated
  | stopped =>
    obtain ⟨session, ⟨immediate, cursor' | cursor', _⟩, answers, events, _⟩ := scene
    all_goals
      cases isOpen
      cases stage
      cases stated
  | execute statement =>
    rw [stage] at unstated
    cases unstated
  | awaiting prompt name =>
    rw [stage] at unstated
    cases unstated
  | failed failure =>
    rw [stage] at unstated
    cases unstated

theorem Within.isOpen {session : Session} {activity : Activity} {before : List Event}
    {scene : Scene} (within : Within session activity before scene) : scene.ending = none := by
  cases within <;> rfl

/-- A statement is under way once its line has been taken up. -/
theorem isUnderWay_of_takes {scene : Scene} {k : Nat} {line : Int}
    (takes : (scene.play k).Takes cursor line)
    (within : Within { (scene.play k).session with current := some line } (scene.play k).activity
      (scene.play k).events (scene.play k).tick)
    (stated : isStated (scene.play k).tick.activity.stage = true) :
    scene.IsUnderWay (k + 1) cursor := by
  refine ⟨k, line, by omega, takes, ?_, ?_⟩
  · intro i after upTo stage
    obtain rfl : i = k + 1 := by omega
    rw [play_succ] at stage
    rw [stage] at stated
    cases stated
  · rw [play_succ]
    exact within

/-- A statement that executes, waits or has failed in a run is under way since its line was taken
up. -/
theorem isUnderWay_of_stated {scene : Scene} (outside : scene.activity.cursor = none)
    (unstated : isStated scene.activity.stage = false)
    (steady : ∀ k, (scene.play (k + 1)).IsSteady program) (k : Nat)
    (inside : (scene.play k).activity.cursor = some cursor)
    (stated : isStated (scene.play k).activity.stage = true) : scene.IsUnderWay k cursor := by
  induction k with
  | zero =>
    rw [play, unstated] at stated
    cases stated
  | succ k hypothesis =>
    have unbroken := (steady k).unbroken
    have steady : k = 0 ∨ (scene.play k).IsSteady program := by
      cases k with
      | zero => exact .inl rfl
      | succ k => exact .inr (steady k)
    cases before : isStated (scene.play k).activity.stage with
    | true =>
      have inside' := inside
      rw [play_succ, cursor_tick before] at inside'
      have isUnderWay := hypothesis inside' before
      refine isUnderWay_tick isUnderWay ?_ unbroken stated
      intro failure failed
      obtain ⟨_, _, _, _, _, within⟩ := isUnderWay
      rw [play_succ, isStated_tick_failed within.isOpen inside' failed] at stated
      cases stated
    | false =>
      have isOpen : (scene.play k).ending = none := by
        cases isOver : (scene.play k).ending with
        | none => rfl
        | some ending =>
          rw [play_succ, tick_over isOver, before] at stated
          cases stated
      rw [play_succ] at inside stated
      obtain ⟨line, takes, within⟩ := takes_of_stated isOpen before
        (by
          intro line reads
          rcases steady with rfl | steady
          · exact outside
          · exact (steady.steady.reading line reads).1)
        (by
          intro cursor jump inside jumps
          rcases steady with rfl | steady
          · cases outside.symm.trans inside
          · obtain ⟨lines, held⟩ := steady.steady.held cursor inside
            exact lines ▸ held.landing jump jumps)
        inside stated
      exact isUnderWay_of_takes takes within stated

/-- A run in which a line has failed is over three steps later, with the report written. -/
theorem play_failed_run {activity : Activity} (inside : activity.cursor = some cursor)
    (session : Session) (line : Int) (answers : Nat → String) (memory : Memory) (cause : Cause)
    (events : List Event) :
    let last := Scene.play 3
      ⟨{ session with current := some line, memory }, activity.failing cause, answers, events, none⟩
    last.session = { session with memory, running := false, current := none, jump := none } ∧
      last.events = events ++ [.line (Failure.report ⟨cause, some line⟩)] ∧
      last.ending = some .finished := by
  obtain ⟨immediate, _, stage⟩ := activity
  cases inside
  refine ⟨?_, ?_, rfl⟩
  · cases immediate <;> rfl
  · simp only [play, tick, follow, Session.step, Session.failStage, Session.leaveRun,
      Activity.failing, Activity.inStage, Failure.atLine, seen_note, seen_nil, List.append_nil]
    rfl

/-- A run of a program with lines is steady one tick after it begins, whatever the session was
before. -/
theorem isSteady_begun {session : Session} (inhabited : session.program.isEmpty = false)
    (immediate : Bool) (answers : Nat → String) :
    (opening session ⟨immediate, none, .begin⟩ answers).tick.IsSteady session.program := by
  have numbers : session.program.numbers ≠ [] := by
    intro none
    rw [(Program.isEmpty_iff_numbers _).mpr none] at inhabited
    cases inhabited
  rw [tick_open rfl]
  simp only [opening, Session.step, Session.beginRun, inhabited, follow]
  refine ⟨.ofHeld rfl rfl ⟨numbers, fun _ => rfl, ?_, ?_⟩ rfl, ?_⟩
  · rintro _ ⟨⟩
  · rintro _ ⟨⟩
  · rintro _ ⟨⟩

/-- A run without a program takes up no line. -/
theorem outside_of_isEmpty {session : Session} (isEmpty : session.program.isEmpty = true)
    (immediate : Bool) (answers : Nat → String) (k : Nat) :
    ((opening session ⟨immediate, none, .begin⟩ answers).play k).activity.cursor = none := by
  have all : let scene := (opening session ⟨immediate, none, .begin⟩ answers).play k
      scene.activity.cursor = none ∧ (scene.activity.stage = .completed ∨
        scene.activity.stage = .begin ∧ scene.session.program.isEmpty = true) := by
    refine play_preserves (fun scene => scene.activity.cursor = none ∧
      (scene.activity.stage = .completed ∨
        scene.activity.stage = .begin ∧ scene.session.program.isEmpty = true)) ?_
      ⟨rfl, .inr ⟨rfl, isEmpty⟩⟩ k
    rintro ⟨session, ⟨immediate, _, _⟩, answers, events, _ | ending⟩ ⟨⟨⟩, ⟨⟨⟩⟩ | ⟨⟨⟩, isEmpty⟩⟩
    · exact ⟨rfl, .inl rfl⟩
    · simp only [tick, Session.step, Session.beginRun, isEmpty, if_true, follow]
      exact ⟨rfl, .inl rfl⟩
    · exact ⟨rfl, .inl rfl⟩
    · exact ⟨rfl, .inr ⟨rfl, isEmpty⟩⟩
  exact all.1

end Runs

end Scene

/-! ### Failures leave the session as it was -/

/-- After a session has read, its program, its loops and all that can be read are as before. -/
structure Session.Unchanged (before after : Session) : Prop where
  program : after.program = before.program
  loops : after.loops = before.loops
  values : ∀ name, after.memory.get name = before.memory.get name
  reads : before.memory.ReadsTo after.memory

/-- Nothing more than a report was written after some events, perhaps behind a question. -/
def Scene.Reports (last : Scene) (before : List Event) (report : String) : Prop :=
  ∃ asked, (asked = [] ∨ ∃ prompt, asked = [Event.input prompt]) ∧
    last.events = before ++ asked ++ [.line report]

/-- A typed line has failed and left nothing but its report. -/
structure Scene.LineFailed (session : Session) (failure : Failure) (last : Scene) : Prop where
  finished : last.ending = some .finished
  unchanged : session.Unchanged last.session
  running : last.session.running = session.running
  current : last.session.current = session.current
  jump : last.session.jump = none
  reports : last.Reports [] failure.report

/-- A run of a program has failed in a line, and has left nothing of the line but its report; the
scene as it took up the line is given. -/
structure Scene.RunFailed (program : Program) (taking : Scene) (line : Int) (failure : Failure)
    (last : Scene) : Prop where
  finished : last.ending = some .finished
  program : last.session.program = program
  unchanged : taking.session.Unchanged last.session
  idle : last.session.running = false ∧ last.session.current = none ∧ last.session.jump = none
  reports : last.Reports taking.events (failure.atLine (some line)).report
  named : ∃ words, (failure.atLine (some line)).report = words ++ ("IN LINE " ++ toString line)

/-- A typed line that fails, if it is not a `RUN`, leaves nothing but its report. -/
theorem line_failed (session : Session) (line : String) (answers : Nat → String)
    (notRun : ∀ read node, tokens line = .ok read → Parser.line read = .ok node →
      node.innermost ≠ .run)
    {k : Nat} {failure : Failure}
    (failed : ((Scene.opening session (.ofLine line) answers).play k).activity.stage =
      .failed failure) :
    ∃ n, ((Scene.opening session (.ofLine line) answers).play n).LineFailed session failure := by
  have typing : Scene.Typing session line answers
      ((Scene.opening session (.ofLine line) answers).play k) :=
    Scene.play_preserves (Scene.Typing session line answers) (fun _ => Scene.typing_tick notRun)
      .reading k
  generalize reached : (Scene.opening session (.ofLine line) answers).play k = scene
    at typing failed
  cases typing with
  | reading => cases failed
  | done completed =>
    rw [completed] at failed
    cases failed
  | ended isOver unfailed => exact absurd failed (unfailed failure)
  | underWay within stated =>
    cases within with
    | executing statement answers => cases failed
    | awaiting memory prompt name answers reads => cases failed
    | failed memory cause asked answers reads question =>
      cases failed
      refine ⟨k + 2, ?_⟩
      rw [Scene.play_trans reached (Scene.play_failed_line memory cause _)]
      exact ⟨rfl, ⟨rfl, rfl, Memory.get_of_readsTo reads, reads⟩, rfl, rfl, rfl,
        asked, question, rfl⟩

/-- A report with a line ends by naming the line. -/
theorem Failure.report_line (cause : Cause) (line : Int) :
    ∃ words, Failure.report ⟨cause, some line⟩ = words ++ ("IN LINE " ++ toString line) := by
  unfold Failure.report
  cases Failure.detail? ⟨cause, some line⟩ with
  | none => exact ⟨cause.code ++ "\n", rfl⟩
  | some detail => exact ⟨cause.code ++ "\n" ++ detail ++ " ", rfl⟩

/-- The program of a run is still the one that it began with whenever it takes up a line. -/
theorem Scene.program_of_takes {program : Program} {scene : Scene} {cursor : Cursor} {line : Int}
    (isSteady : scene.IsSteady program) (takes : scene.Takes cursor line) :
    scene.session.program = program := by
  obtain ⟨lines, held⟩ := isSteady.steady.held cursor takes.inside
  exact held.snapshot (held.underCursor lines takes.under).1

/-- A run that fails leaves nothing of the line that failed but its report. -/
theorem run_failed (session : Session) (immediate : Bool) (answers : Nat → String) {k : Nat}
    {failure : Failure} {cursor : Cursor}
    (inside : ((Scene.opening session ⟨immediate, none, .begin⟩ answers).play k).activity.cursor =
      some cursor)
    (failed : ((Scene.opening session ⟨immediate, none, .begin⟩ answers).play k).activity.stage =
      .failed failure) :
    let run := fun n => (Scene.opening session ⟨immediate, none, .begin⟩ answers).play n
    ∃ j line, j < k ∧ (run j).Takes cursor line ∧
      (∀ i, j < i → i ≤ k → (run i).activity.stage ≠ .select) ∧
      ∃ n, Scene.RunFailed session.program (run j) line failure (run n) := by
  intro run
  cases isEmpty : session.program.isEmpty with
  | true =>
    rw [Scene.outside_of_isEmpty isEmpty] at inside
    cases inside
  | false =>
    have begun := Scene.isSteady_begun isEmpty immediate answers
    have steady : ∀ k, (run (k + 1)).IsSteady session.program :=
      fun k => Scene.steady_play begun k
    obtain ⟨j, line, earlier, takes, noOther, within⟩ :=
      Scene.isUnderWay_of_stated rfl rfl steady k inside (by rw [failed]; rfl)
    refine ⟨j, line, earlier, takes, noOther, ?_⟩
    have kept : (run j).session.program = session.program := by
      cases j with
      | zero => rfl
      | succ j => exact Scene.program_of_takes (steady j) takes
    generalize reached : (Scene.opening session ⟨immediate, none, .begin⟩ answers).play k = scene
      at within failed
    cases within with
    | executing statement answers => cases failed
    | awaiting memory prompt name answers reads => cases failed
    | failed memory cause asked answers reads question =>
      cases failed
      have last : run (k + 3) = _ := Scene.play_trans reached rfl
      obtain ⟨session', events', ending'⟩ :=
        Scene.play_failed_run takes.inside (run j).session line answers memory cause
          ((run j).events ++ asked)
      refine ⟨k + 3, ?_⟩
      rw [last]
      exact {
        finished := ending'
        program := session' ▸ kept
        unchanged := session' ▸ ⟨rfl, rfl, Memory.get_of_readsTo reads, reads⟩
        idle := session' ▸ ⟨rfl, rfl, rfl⟩
        reports := ⟨asked, question, events'⟩
        named := Failure.report_line cause line }

/-- **Failing statements are atomic.** A typed line that fails leaves nothing but its report; a run
that fails leaves the session as it took up the line that fails, and its report names the line. -/
theorem failed_atomic :
    (∀ session line answers k failure,
      session.running = false →
      (∀ read node, tokens line = .ok read → Parser.line read = .ok node →
        node.innermost ≠ .run) →
      ((Scene.opening session (.ofLine line) answers).play k).activity.stage = .failed failure →
      ∃ n, ((Scene.opening session (.ofLine line) answers).play n).LineFailed session failure) ∧
    (∀ session immediate answers k failure cursor,
      let run := fun n => (Scene.opening session ⟨immediate, none, .begin⟩ answers).play n
      (run k).activity.cursor = some cursor → (run k).activity.stage = .failed failure →
      ∃ j line, j < k ∧ (run j).Takes cursor line ∧
        (∀ i, j < i → i ≤ k → (run i).activity.stage ≠ .select) ∧
        ∃ n, Scene.RunFailed session.program (run j) line failure (run n)) := by
  constructor
  · intro session line answers k failure idle notRun failed
    exact line_failed session line answers notRun failed
  · intro session immediate answers k failure cursor run inside failed
    exact run_failed session immediate answers inside failed

/-- A `NEXT` without a loop, as a typed line and as the line of a program. -/
theorem failed_atomic_next :
    (∃ n, ((Scene.opening .fresh (.ofLine "NEXT") fun _ => "").play n).LineFailed .fresh
      ⟨.nextWithoutFor, none⟩) ∧
    (let program := Program.empty.insert 10 ⟨"10 NEXT", .next none⟩
      let run := fun n =>
        (Scene.opening { Session.fresh with program } ⟨false, none, .begin⟩ fun _ => "").play n
      ∃ j line, j < 3 ∧ (run j).Takes ⟨[10], 0⟩ line ∧
        (∀ i, j < i → i ≤ 3 → (run i).activity.stage ≠ .select) ∧
        ∃ n, Scene.RunFailed program (run j) line ⟨.nextWithoutFor, none⟩ (run n)) := by
  have scanned : tokens "NEXT" = .ok [⟨.keyword "NEXT", 0⟩, ⟨.endOfLine, 4⟩] := by cbv
  have parsed : Parser.line [⟨.keyword "NEXT", 0⟩, ⟨.endOfLine, 4⟩] = .ok (.next none) := by cbv
  constructor
  · refine failed_atomic.1 .fresh "NEXT" (fun _ => "") 2 ⟨.nextWithoutFor, none⟩ rfl ?_ (by cbv)
    intro read node isRead isParsed
    cases scanned.symm.trans isRead
    cases parsed.symm.trans isParsed
    rintro ⟨⟩
  · exact failed_atomic.2 _ false (fun _ => "") 3 ⟨.nextWithoutFor, none⟩ ⟨[10], 0⟩ rfl rfl

end LineBasic
