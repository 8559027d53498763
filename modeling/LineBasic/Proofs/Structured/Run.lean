/-
**Running a structured program.**

A run walks over the stored lines with a cursor, a stack of loops and jumps behind their headers.
For a block-structured program this comes to the same as its meaning, which has none of these: the
run shows the same, leaves the same variables, hears the same answers, reports the same failure in
the same line, and ends exactly when the meaning does.

* `run_structured` — the equivalence, for every structured program and every list of answers;
  a program without lines is said to be none.
-/

import LineBasic.Proofs.Structured.Simulation

namespace LineBasic.Structured

/-- The state in which a structured program starts. -/
def State.initial (answers : Nat → String) : State :=
  ⟨.empty, answers, []⟩

/-- What is seen of a structured program; a failure is reported with its line. -/
def shown : State × Result → List Event
  | (state, .failed line cause) => state.events ++ [.line (Failure.report ⟨cause, some line⟩)]
  | (state, .done) => state.events
  | (state, .unfinished) => state.events

/-- A scene has come to the end that a structured program means: everything was shown, the
variables and the answers left are those of the program, nothing runs any more, and no loop is
open unless a line has failed. -/
structure Settled (program : Program) (meaning : State × Result) (scene : Scene) : Prop where
  finished : scene.ending = some .finished
  complete : meaning.2 ≠ .unfinished
  events : scene.events = shown meaning
  answers : scene.answers = meaning.1.answers
  memory : scene.session.memory = meaning.1.memory
  program : scene.session.program = program
  idle : scene.session.running = false ∧ scene.session.current = none ∧ scene.session.jump = none
  loops : meaning.2 = .done → scene.session.loops = []

namespace Running

variable {run : Running} {loops : List LoopFrame} {current : Option Int} {state : State}

/-- The scene of a run that is over. -/
def finished (run : Running) (loops : List LoopFrame) (state : State) : Scene where
  session := ⟨run.program, state.memory, loops, none, false, none⟩
  activity := ⟨run.immediate, none, .completed⟩
  answers := state.answers
  events := state.events
  ending := some .finished

/-- A run that leaves its program is over two steps later. -/
theorem play_stopped {place : Nat} {jump : Option Jump} :
    (run.scene loops current jump place .stopped state).play 2 = run.finished loops state := by
  rw [Scene.play, Scene.tick_open rfl]
  simp only [scene, Session.step, Session.leaveRun, Scene.follow, Scene.seen_note, Scene.seen_nil,
    List.append_nil]
  rw [Scene.play, Scene.tick_open rfl]
  simp only [Session.step, Session.leaveLine, Scene.follow, Scene.play, finished]
  split <;> rfl

/-- Behind its last line a run is over. -/
theorem play_last :
    (run.before loops current run.program.numbers.length state).play 3 =
      run.finished loops state := by
  rw [Scene.play, Scene.tick_open rfl]
  have none : run.program.numbers[run.program.numbers.length]? = none :=
    List.getElem?_eq_none (Nat.le_refl _)
  simp only [before, scene, Session.step, Session.selectLine, Session.underCursor, if_true, none,
    Scene.follow, Activity.inStage, Scene.seen_nil, List.append_nil]
  exact play_stopped

/-- A run in which a line has failed reports the failure with the line, and is over. -/
theorem play_failing {line : Int} {place : Nat} {cause : Cause} :
    (run.failing loops line place cause state).play 3 =
      run.finished loops { state with events := shown (state, .failed line cause) } := by
  rw [Scene.play, Scene.tick_open rfl]
  have reported : ((run.failing loops line place cause state).follow
      ((run.failing loops line place cause state).session.step
        (run.failing loops line place cause state).activity)) =
      run.scene loops (some line) none place .stopped
        { state with events := shown (state, .failed line cause) } := rfl
  rw [reported]
  exact play_stopped

/-- A run of a program with lines stands before the first of them, with no variables and no
loops. -/
theorem tick_opening {session : Session} (inhabited : session.program.isEmpty = false)
    (answers : Nat → String) :
    (Scene.opening session .ofRun answers).tick =
      Running.before ⟨session.program, false⟩ [] session.current 0 (.initial answers) := by
  rw [Scene.tick_open rfl]
  simp only [Scene.opening, Activity.ofRun, Session.step, Session.beginRun, inhabited,
    Scene.follow, Session.restarted, before, scene, State.initial, Scene.seen_note,
    Scene.seen_nil, List.append_nil, Bool.false_eq_true, if_false]

/-- A scene of a run that comes to the end of its program, or fails, comes to the end that is
meant; otherwise it goes on. -/
theorem Comes.settles {scene : Scene} {meaning : State × Result} {steps : Nat}
    (comes : run.Comes steps [] run.program.numbers.length scene meaning) :
    (∃ n, Settled run.program meaning (scene.play n)) ∨
      (meaning.2 = .unfinished ∧ ∃ n, steps ≤ n ∧ (scene.play n).ending = none ∧
        (scene.play n).events = shown meaning) := by
  obtain ⟨state, done | ⟨line, cause⟩ | unfinished⟩ := meaning
  · obtain ⟨n, current, arrived⟩ := comes
    refine .inl ⟨n + 3, ?_⟩
    rw [Scene.play_trans arrived play_last]
    exact ⟨rfl, nofun, rfl, rfl, rfl, rfl, ⟨rfl, rfl, rfl⟩, fun _ => rfl⟩
  · obtain ⟨n, loops, place, failed⟩ := comes
    refine .inl ⟨n + 3, ?_⟩
    rw [Scene.play_trans failed play_failing]
    exact ⟨rfl, nofun, rfl, rfl, rfl, rfl, ⟨rfl, rfl, rfl⟩, nofun⟩
  · obtain ⟨n, long, goesOn, seen⟩ := comes
    exact .inr ⟨rfl, n, long, goesOn, seen⟩

end Running

section Equivalence

variable {blocks : Blocks} {session : Session}

/-- A structured program that has been granted enough passes settles its run; until then the run
goes on. -/
theorem run_settles (nested : blocks.Nested []) (inhabited : blocks ≠ .nil)
    (stored : session.program.lines = blocks.lines) (answers : Nat → String) (granted : Nat) :
    let meaning := blocks.exec session.program granted (.initial answers)
    let scene := Scene.opening session .ofRun answers
    (∃ n, Settled session.program meaning (scene.play n)) ∨
      (meaning.2 = .unfinished ∧ ∃ n, granted ≤ n ∧ (scene.play n).ending = none ∧
        (scene.play n).events = shown meaning) := by
  intro meaning scene
  have holdsLines : session.program.isEmpty = false := by
    unfold Program.isEmpty
    rw [stored]
    cases blocks with
    | nil => exact absurd rfl inhabited
    | simple number entry rest => rfl
    | loop header body footer rest => rfl
  have started : scene.play 1 = _ := Running.tick_opening holdsLines answers
  have comes := Running.exec_comes ⟨session.program, false⟩ blocks granted [] [] []
    (by rw [stored]; simp) nested session.current (.initial answers)
  have places : ([] : List (Int × Entry)).length + blocks.lines.length =
      session.program.numbers.length := by
    simp [Program.numbers, stored]
  rw [places] at comes
  exact ((comes.lead started).fewer (by omega)).settles

/-- An empty structured program is said to be none, and nothing else happens. -/
theorem run_nothing (stored : session.program.lines = []) (answers : Nat → String) :
    (Scene.opening session .ofRun answers).play 2 =
      { Scene.opening session .ofRun answers with
          activity := Activity.ofRun.inStage .completed
          events := [.line Session.noProgram]
          ending := some .finished } := by
  have isEmpty : session.program.isEmpty = true := by
    rw [Program.isEmpty, stored]
    rfl
  rw [Scene.play, Scene.tick_open rfl]
  simp only [Scene.opening, Activity.ofRun, Session.step, Session.beginRun, isEmpty, if_true,
    Scene.follow, Activity.inStage]
  rfl

/-- **A run of a structured program is its meaning.** The one comes to an end exactly if the other
does, and then to the same one; what one has shown at any time, the other comes to show. A program
without lines is said to be none. -/
theorem run_structured (blocks : Blocks) (session : Session) (nested : blocks.Nested [])
    (stored : session.program.lines = blocks.lines) (answers : Nat → String) :
    let run := fun n => (Scene.opening session .ofRun answers).play n
    let meaning := fun granted => blocks.exec session.program granted (.initial answers)
    (blocks = .nil → run 2 =
      { run 0 with
          activity := Activity.ofRun.inStage .completed
          events := [.line Session.noProgram]
          ending := some .finished }) ∧
    (blocks ≠ .nil →
      ((∃ n, (run n).ending ≠ none) ↔ ∃ granted, (meaning granted).2 ≠ .unfinished) ∧
      (∀ n, (run n).ending ≠ none →
        ∃ granted, Settled session.program (meaning granted) (run n)) ∧
      (∀ granted, (meaning granted).2 ≠ .unfinished →
        ∃ n, Settled session.program (meaning granted) (run n)) ∧
      (∀ n, ∃ granted, (run n).events <+: shown (meaning granted)) ∧
      (∀ granted, ∃ n, shown (meaning granted) <+: (run n).events)) := by
  intro run meaning
  refine ⟨fun isNil => ?_, fun inhabited => ?_⟩
  · subst isNil
    exact run_nothing stored answers
  have settles := run_settles nested inhabited stored answers
  have ended : ∀ n, (run n).ending ≠ none →
      ∃ granted, Settled session.program (meaning granted) (run n) := by
    intro n isOver
    obtain ⟨ending, isOver⟩ := Option.ne_none_iff_exists'.mp isOver
    rcases settles (n + 1) with ⟨m, settled⟩ | ⟨_, m, long, goesOn, _⟩
    · have same : run m = run n := Scene.play_over_unique settled.finished isOver
      exact ⟨n + 1, same ▸ settled⟩
    · -- the meaning is still unfinished where the run is over, so the run is not over
      have same : run m = run n := Scene.play_over_later isOver (by omega)
      have goesOn : (run m).ending = none := goesOn
      rw [same, isOver] at goesOn
      cases goesOn
  have complete : ∀ granted, (meaning granted).2 ≠ .unfinished →
      ∃ n, Settled session.program (meaning granted) (run n) := by
    intro granted complete
    rcases settles granted with settled | ⟨unfinished, _⟩
    · exact settled
    · exact absurd unfinished complete
  refine ⟨⟨?_, ?_⟩, ended, complete, ?_, ?_⟩
  · rintro ⟨n, isOver⟩
    obtain ⟨granted, settled⟩ := ended n isOver
    exact ⟨granted, settled.complete⟩
  · rintro ⟨granted, isComplete⟩
    obtain ⟨n, settled⟩ := complete granted isComplete
    refine ⟨n, ?_⟩
    rw [settled.finished]
    exact nofun
  · intro n
    refine ⟨n, ?_⟩
    rcases settles n with ⟨m, settled⟩ | ⟨_, m, long, _, seen⟩
    · rw [show shown (meaning n) = (run m).events from settled.events.symm]
      rcases Nat.le_total n m with before | after
      · exact Scene.events_play before
      · have same : run n = run m := Scene.play_over_later settled.finished after
        exact same ▸ List.prefix_refl _
    · rw [show shown (meaning n) = (run m).events from seen.symm]
      exact Scene.events_play long
  · intro granted
    rcases settles granted with ⟨m, settled⟩ | ⟨_, m, _, _, seen⟩
    · have same : (run m).events = shown (meaning granted) := settled.events
      exact ⟨m, same ▸ List.prefix_refl _⟩
    · have same : (run m).events = shown (meaning granted) := seen
      exact ⟨m, same ▸ List.prefix_refl _⟩

/-- A loop that counts down inside one that counts up. -/
def Blocks.nest : Blocks :=
  .loop ⟨10, "10 FOR I=1 TO 3", "I", .number (.int 1), .number (.int 3), Node.unitStep⟩
    (.loop
      ⟨20, "20 FOR J=I TO 1 STEP -1", "J", .named "I", .number (.int 1),
        .unary "-" (.number (.int 1))⟩
      (.simple 30 ⟨"30 PRINT J", .print [.named "J"] []⟩ .nil)
      ⟨40, "40 NEXT J", true⟩ .nil)
    ⟨50, "50 NEXT", false⟩ (.simple 60 ⟨"60 INPUT A$", .input "" "A$"⟩ .nil)

/-- The two loops come to what they mean, whatever the answer is. -/
theorem run_structured_nest :
    Blocks.nest.Nested [] ∧ Blocks.nest ≠ .nil ∧
      ∃ program : Program, program.lines = Blocks.nest.lines ∧ ∀ answers granted,
        (Blocks.nest.exec program granted (.initial answers)).2 ≠ .unfinished →
        ∃ n, Settled program (Blocks.nest.exec program granted (.initial answers))
          ((Scene.opening { Session.fresh with program } .ofRun answers).play n) := by
  have nested : Blocks.nest.Nested [] := by
    simp [Blocks.nest, Blocks.Nested, isSimple]
  have inhabited : Blocks.nest ≠ .nil := nofun
  have ascending : Blocks.nest.lines.Pairwise fun line later => line.1 < later.1 := by
    simp [Blocks.nest, Blocks.lines, Header.line, Footer.line]
  obtain ⟨program, stored⟩ : ∃ program : Program, program.lines = Blocks.nest.lines :=
    ⟨⟨Blocks.nest.lines, ascending⟩, rfl⟩
  refine ⟨nested, inhabited, program, stored, fun answers => ?_⟩
  have all := run_structured Blocks.nest { Session.fresh with program } nested stored answers
  exact (all.2 inhabited).2.2.1

end Equivalence

end LineBasic.Structured
