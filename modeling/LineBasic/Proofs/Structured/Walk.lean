/-
**How a run walks over one line.**

A running program is a scene with a cursor, a stack of loops and a pending jump. These lemmas play
such a scene over a single line: a simple line, a line that opens a loop, a line that closes one.
Each says how many ticks it takes to stand before the next line or in a failure.

* `walk_simple` — a simple line does what `perform` says;
* `walk_header` — a header does what `Header.enter` says, and puts its loop on the stack;
* `walk_footer` — a footer does what `advance` says: it goes back behind its header, or takes its
  loop off the stack.
-/

import LineBasic.Proofs.Lines
import LineBasic.Proofs.Structured.Blocks

namespace LineBasic.Structured

/-- A running program and whether it was started from a typed line. -/
structure Running where
  program : Program
  immediate : Bool

namespace Running

variable (run : Running)

/-- The scene of a run at a stage, with the control of a run beside the state of its program. -/
def scene (loops : List LoopFrame) (current : Option Int) (jump : Option Jump) (place : Nat)
    (stage : Stage) (state : State) : Scene where
  session := ⟨run.program, state.memory, loops, current, true, jump⟩
  activity := ⟨run.immediate, some ⟨run.program.numbers, place⟩, stage⟩
  answers := state.answers
  events := state.events
  ending := none

/-- The scene of a run that stands before a line. -/
def before (loops : List LoopFrame) (current : Option Int) (place : Nat) (state : State) : Scene :=
  run.scene loops current none place .select state

/-- The scene of a run in which a line has just failed. -/
def failing (loops : List LoopFrame) (line : Int) (place : Nat) (cause : Cause) (state : State) :
    Scene :=
  run.scene loops (some line) none place (.failed ⟨cause, none⟩) state

variable {run}
variable {loops : List LoopFrame} {current : Option Int} {place : Nat} {state : State}

/-- Standing before a line, a run takes it up. -/
theorem tick_before {earlier later : List (Int × Entry)} {line : Int × Entry}
    (stored : run.program.lines = earlier ++ line :: later) (loops : List LoopFrame)
    (current : Option Int) (state : State) :
    (run.before loops current earlier.length state).tick =
      run.scene loops (some line.1) none earlier.length (.execute line.2.statement) state := by
  rw [Scene.tick_open rfl]
  simp only [before, scene, Session.step, Session.selectLine, Session.underCursor, if_true,
    Program.numbers_at stored, Program.find?_at stored, Scene.follow, Activity.inStage,
    Scene.seen_nil, List.append_nil]

/-- After a line that leaves no jump, a run stands before the next one. -/
theorem tick_completed :
    (run.scene loops current none place .completed state).tick =
      run.before loops current (place + 1) state := by
  rw [Scene.tick_open rfl]
  simp only [before, scene, Session.step, Session.advance, Scene.follow, Scene.seen_nil,
    List.append_nil]

/-- After a line that leaves a jump behind a line, a run stands behind that line. -/
theorem tick_jump {earlier later : List (Int × Entry)} {line : Int × Entry}
    (stored : run.program.lines = earlier ++ line :: later) :
    (run.scene loops current (some ⟨line.1, true⟩) place .completed state).tick =
      run.before loops current (earlier.length + 1) state := by
  rw [Scene.tick_open rfl]
  simp only [before, scene, Session.step, Session.advance, Program.idxOf?_at stored, if_true,
    Scene.follow, Scene.seen_note, Scene.seen_nil, List.append_nil]

section Executing

variable {statement : Node} {loops' : List LoopFrame} {jump : Option Jump} {memory : Memory}

/-- A statement that is done leaves its line completed. -/
theorem tick_done {effects : List Effect}
    (executed : Session.execute statement ⟨run.program, state.memory, loops, current, true, none⟩ =
      (⟨run.program, memory, loops', current, true, jump⟩, .done effects)) :
    (run.scene loops current none place (.execute statement) state).tick =
      run.scene loops' current jump place .completed
        ⟨memory, state.answers, state.events ++ Scene.seen effects⟩ := by
  rw [Scene.tick_open rfl]
  simp only [scene, Session.step, Session.executeStage, executed, Scene.follow, Activity.inStage]

/-- A statement that fails leaves its line failed. -/
theorem tick_failed {line : Int} {cause : Cause}
    (executed :
      Session.execute statement ⟨run.program, state.memory, loops, some line, true, none⟩ =
        (⟨run.program, memory, loops, some line, true, none⟩, .failed cause)) :
    (run.scene loops (some line) none place (.execute statement) state).tick =
      run.failing loops line place cause ⟨memory, state.answers, state.events⟩ := by
  rw [Scene.tick_open rfl]
  simp only [failing, scene, Session.step, Session.executeStage, executed, Scene.follow,
    Activity.failing, Activity.inStage, Scene.seen, List.filterMap_nil, List.append_nil]

/-- A statement that asks leaves its line waiting. -/
theorem tick_ask {prompt name : String}
    (executed : Session.execute statement ⟨run.program, state.memory, loops, current, true, none⟩ =
      (⟨run.program, memory, loops, current, true, none⟩, .ask prompt name)) :
    (run.scene loops current none place (.execute statement) state).tick =
      run.scene loops current none place (.awaiting prompt name)
        ⟨memory, state.answers, state.events⟩ := by
  rw [Scene.tick_open rfl]
  simp only [scene, Session.step, Session.executeStage, executed, Scene.follow, Activity.inStage,
    Scene.seen_nil, List.append_nil]

/-- A run that asks for a line gets the next answer: the line is done or fails. -/
theorem tick_awaiting (run : Running) (loops : List LoopFrame) (line : Int) (place : Nat)
    (prompt name : String) (state : State) :
    (run.scene loops (some line) none place (.awaiting prompt name) state).tick =
      match state.ask prompt name with
      | (after, some cause) => run.failing loops line place cause after
      | (after, none) => run.scene loops (some line) none place .completed after := by
  rw [Scene.tick_open rfl]
  simp only [scene, Session.step, Scene.follow, Session.answer, State.ask]
  split
  · rfl
  · cases Numeral.leading? (state.answers 0) <;> rfl

end Executing

/-! ### Simple lines -/

/-- A simple statement changes the variables only, and what it does depends on the program and
the variables only. -/
theorem execute_simple {statement : Node} (simple : isSimple statement = true)
    (session : Session) :
    session.execute statement =
      let alone := Session.execute statement
        { Session.fresh with program := session.program, memory := session.memory }
      ({ session with memory := alone.1.memory }, alone.2) := by
  fun_induction isSimple statement generalizing session with
  | case1 items separators =>
    simp only [Session.execute, Session.executePrint]
    split <;> rfl
  | case2 name value =>
    simp only [Session.execute, Session.executeAssign]
    split <;> rfl
  | case3 prompt name => simp only [Session.execute]
  | case4 text => simp only [Session.execute]
  | case5 first last =>
    simp only [Session.execute, Session.executeList]
    split <;> rfl
  | case6 => simp only [Session.execute]
  | case7 condition statement hypothesis =>
    simp only [Session.execute]
    split
    · rfl
    · next memory value evaluated =>
      split
      · exact hypothesis simple { session with memory }
      · rfl
  | case8 => cases simple

/-- A simple statement is done, fails or asks. -/
theorem execute_simple_ends {statement : Node} (simple : isSimple statement = true)
    (session : Session) :
    (∃ effects, (session.execute statement).2 = .done effects) ∨
      (∃ cause, (session.execute statement).2 = .failed cause) ∨
      ∃ prompt name, (session.execute statement).2 = .ask prompt name := by
  fun_induction isSimple statement generalizing session with
  | case1 items separators =>
    simp only [Session.execute, Session.executePrint]
    split
    · exact .inr (.inl ⟨_, rfl⟩)
    · exact .inl ⟨_, rfl⟩
  | case2 name value =>
    simp only [Session.execute, Session.executeAssign]
    split
    · exact .inr (.inl ⟨_, rfl⟩)
    · exact .inl ⟨_, rfl⟩
  | case3 prompt name =>
    simp only [Session.execute]
    exact .inr (.inr ⟨_, _, rfl⟩)
  | case4 text =>
    simp only [Session.execute]
    exact .inl ⟨_, rfl⟩
  | case5 first last =>
    simp only [Session.execute, Session.executeList]
    split
    · exact .inl ⟨_, rfl⟩
    · exact .inl ⟨_, rfl⟩
  | case6 =>
    simp only [Session.execute]
    exact .inl ⟨_, rfl⟩
  | case7 condition statement hypothesis =>
    simp only [Session.execute]
    split
    · exact .inr (.inl ⟨_, rfl⟩)
    · next memory value evaluated =>
      split
      · exact hypothesis simple { session with memory }
      · exact .inl ⟨_, rfl⟩
  | case8 => cases simple

/-- **A simple line does what `perform` says.** -/
theorem walk_simple {earlier later : List (Int × Entry)} {number : Int} {entry : Entry}
    (stored : run.program.lines = earlier ++ (number, entry) :: later)
    (simple : isSimple entry.statement = true) (loops : List LoopFrame) (current : Option Int)
    (state : State) :
    ∃ n, (run.before loops current earlier.length state).play n =
      match perform run.program entry.statement state with
      | (after, some cause) => run.failing loops number earlier.length cause after
      | (after, none) => run.before loops (some number) (earlier.length + 1) after := by
  have taken := tick_before stored loops current state
  have executed := execute_simple simple
    ⟨run.program, state.memory, loops, some number, true, none⟩
  have ends := execute_simple_ends simple
    { Session.fresh with program := run.program, memory := state.memory }
  unfold perform
  generalize Session.execute entry.statement
    { Session.fresh with program := run.program, memory := state.memory } = alone
    at executed ends ⊢
  obtain ⟨work, outcome⟩ := alone
  simp only at executed ends
  rcases ends with ⟨effects, rfl⟩ | ⟨cause, rfl⟩ | ⟨prompt, name, rfl⟩
  · refine ⟨3, ?_⟩
    rw [Scene.play, taken, Scene.play, tick_done executed, Scene.play, tick_completed, Scene.play]
  · refine ⟨2, ?_⟩
    rw [Scene.play, taken, Scene.play, tick_failed executed, Scene.play]
  · simp only
    cases answered : State.ask { state with memory := work.memory } prompt name with
    | mk after failure =>
      have heard := tick_awaiting run loops number earlier.length prompt name
        { state with memory := work.memory }
      rw [answered] at heard
      cases failure with
      | some cause =>
        refine ⟨3, ?_⟩
        rw [Scene.play, taken, Scene.play, tick_ask executed, Scene.play, heard, Scene.play]
      | none =>
        refine ⟨4, ?_⟩
        rw [Scene.play, taken, Scene.play, tick_ask executed, Scene.play, heard, Scene.play,
          tick_completed, Scene.play]

/-! ### Lines that open and close loops -/

/-- No loop is closed to open one over a variable that no open loop has. -/
theorem outside_of_fresh {name : String} (fresh : name ∉ loops.map LoopFrame.name) :
    Session.outside name loops = loops := by
  have other : ∀ frame ∈ loops.reverse, (frame.name != name) = true := by
    intro frame member
    have inside : frame.name ∈ loops.map LoopFrame.name :=
      List.mem_map_of_mem (List.mem_reverse.mp member)
    simpa using fun same : frame.name = name => fresh (same ▸ inside)
  unfold Session.outside
  rw [List.takeWhile_eq_self_iff.mpr other, List.reverse_reverse]

/-- Executing a header enters its loop, and closes the loops over the same variable. -/
theorem execute_header (header : Header) (session : Session) :
    session.execute header.line.2.statement =
      match header.enter session.memory with
      | (memory, .error cause) => ({ session with memory }, .failed cause)
      | (memory, .ok (last, stride)) =>
        let frame : LoopFrame := ⟨header.name, last, stride, session.current⟩
        let loops := frame :: Session.outside header.name session.loops
        ({ session with memory, loops },
          .done [.note (.loopEntered header.name loops.length)]) := by
  simp only [Header.line, Session.execute, Session.executeFor, Header.enter]
  rcases header.start.evaluateFloat session.memory with ⟨memory, cause | first⟩
  · rfl
  · simp only
    rcases header.limit.evaluateFloat memory with ⟨memory, cause | last⟩
    · rfl
    · simp only
      rcases header.step.evaluateFloat memory with ⟨memory, cause | stride⟩
      · rfl
      · rfl

/-- **A header does what `Header.enter` says**, and puts its loop on the stack. -/
theorem walk_header {header : Header} {earlier later : List (Int × Entry)}
    (stored : run.program.lines = earlier ++ header.line :: later)
    (fresh : header.name ∉ loops.map LoopFrame.name) (current : Option Int) (state : State) :
    ∃ n, (run.before loops current earlier.length state).play n =
      match header.enter state.memory with
      | (memory, .error cause) =>
        run.failing loops header.number earlier.length cause { state with memory }
      | (memory, .ok (last, stride)) =>
        run.before (⟨header.name, last, stride, some header.number⟩ :: loops)
          (some header.number) (earlier.length + 1) { state with memory } := by
  have taken : (run.before loops current earlier.length state).tick =
      run.scene loops (some header.number) none earlier.length
        (.execute header.line.2.statement) state := tick_before stored loops current state
  have executed := execute_header header
    ⟨run.program, state.memory, loops, some header.number, true, none⟩
  simp only [outside_of_fresh fresh] at executed
  rcases entered : header.enter state.memory with ⟨memory, cause | ⟨last, stride⟩⟩
  · rw [entered] at executed
    refine ⟨2, ?_⟩
    rw [Scene.play, taken, Scene.play, tick_failed executed, Scene.play]
  · rw [entered] at executed
    refine ⟨3, ?_⟩
    rw [Scene.play, taken, Scene.play, tick_done executed, Scene.play, tick_completed, Scene.play]
    simp only [Scene.seen_note, Scene.seen_nil, List.append_nil]

/-- Executing the footer of the innermost loop advances its variable: the loop is returned to or
closed. -/
theorem execute_footer (footer : Footer) (session : Session) (frame : LoopFrame)
    {outer : List LoopFrame} {line : Int} (innermost : session.loops = frame :: outer)
    (origin : frame.returnLine = some line) :
    session.execute (footer.line frame.name).2.statement =
      match advance frame.name frame.limit frame.step session.memory with
      | (memory, .error cause) => ({ session with memory }, .failed cause)
      | (memory, .ok true) => ({ session with memory, jump := some ⟨line, true⟩ }, .done [])
      | (memory, .ok false) =>
        ({ session with memory, loops := outer }, .done [.note (.loopDone frame.name)]) := by
  have named : (if footer.named then some frame.name else none).any (· != frame.name) = false := by
    cases footer.named <;> simp
  simp only [Footer.line, Session.execute, Session.executeNext, innermost, advance, named]
  rcases (session.memory.get frame.name).toFloat with cause | x
  · rfl
  · have same : Session.goesOn frame (x + frame.step) =
        again frame.limit frame.step (x + frame.step) := rfl
    simp only [Bool.false_eq_true, if_false, same, origin]
    cases again frame.limit frame.step (x + frame.step) <;> rfl

/-- **A footer does what `advance` says**: it goes back behind its header, or takes its loop off
the stack. -/
theorem walk_footer {header : Header} {footer : Footer}
    {earlier later earlier' later' : List (Int × Entry)}
    (stored : run.program.lines = earlier ++ footer.line header.name :: later)
    (opened : run.program.lines = earlier' ++ header.line :: later') (last stride : Float)
    (loops : List LoopFrame) (current : Option Int) (state : State) :
    let loop : LoopFrame := ⟨header.name, last, stride, some header.number⟩
    ∃ n, (run.before (loop :: loops) current earlier.length state).play (n + 1) =
      match advance header.name last stride state.memory with
      | (memory, .error cause) =>
        run.failing (loop :: loops) footer.number earlier.length cause { state with memory }
      | (memory, .ok true) =>
        run.before (loop :: loops) (some footer.number) (earlier'.length + 1)
          { state with memory }
      | (memory, .ok false) =>
        run.before loops (some footer.number) (earlier.length + 1) { state with memory } := by
  intro loop
  have taken : (run.before (loop :: loops) current earlier.length state).tick =
      run.scene (loop :: loops) (some footer.number) none earlier.length
        (.execute (footer.line header.name).2.statement) state :=
    tick_before stored (loop :: loops) current state
  have executed := execute_footer footer
    ⟨run.program, state.memory, loop :: loops, some footer.number, true, none⟩ loop rfl rfl
  have sameAdvance : advance loop.name loop.limit loop.step state.memory =
    advance header.name last stride state.memory := rfl
  simp only [sameAdvance] at executed
  generalize advance header.name last stride state.memory = advanced at executed ⊢
  rcases advanced with ⟨memory, cause | onward⟩
  · refine ⟨1, ?_⟩
    rw [Scene.play, taken, Scene.play, tick_failed executed, Scene.play]
  · cases onward with
    | true =>
      have back : (run.scene (loop :: loops) (some footer.number) (some ⟨header.number, true⟩)
          earlier.length .completed { state with memory }).tick =
          run.before (loop :: loops) (some footer.number) (earlier'.length + 1)
            { state with memory } := tick_jump opened
      refine ⟨2, ?_⟩
      rw [Scene.play, taken, Scene.play, tick_done executed, Scene.play]
      simpa only [Scene.play, Scene.seen_nil, List.append_nil] using back
    | false =>
      refine ⟨2, ?_⟩
      rw [Scene.play, taken, Scene.play, tick_done executed, Scene.play, tick_completed,
        Scene.play]
      simp only [Scene.seen_note, Scene.seen_nil, List.append_nil]

end Running

end LineBasic.Structured
