/-
**Programs that only go forward end.**

A line sends a run elsewhere by `GOTO`, by `RUN`, or by the `NEXT` of an open loop. Where every
`GOTO` leads to a later line, there is no `RUN`, and there are not both `FOR` and `NEXT`, no line
leads back: a `NEXT` finds no loop, since a run starts without any. So each line that is taken up
leaves fewer lines to take up.

* `Program.Forward` — programs that only go forward;
* `execute_jump` — where a jump comes from;
* `walks_forward` — one line leads to a later one or to the end of the run;
* `walks_ends` — so the run ends, by induction on the lines that are left;
* `Session.forward_ends` — a program that only goes forward ends, and takes up its lines in order.
-/

import LineBasic.Proofs.Visits

namespace LineBasic

/-- A program that only goes forward: what its `GOTO`s lead to lies behind them, it has no `RUN`,
and it does not have both `FOR` and `NEXT`. -/
structure Program.Forward (program : Program) : Prop where
  onward : ∀ line ∈ program.lines, ∀ target, line.2.statement.innermost = .goto target →
    line.1 < target
  noRun : ∀ line ∈ program.lines, line.2.statement.innermost ≠ .run
  noLoops : (∀ line ∈ program.lines, ∀ name, ¬line.2.statement.Opens name) ∨
    ∀ line ∈ program.lines, ∀ name, line.2.statement.innermost ≠ .next name

namespace Session

/-! ### Where jumps and loops come from -/

/-- Where a jump comes from. -/
inductive JumpsFrom (session : Session) (statement : Node) : Option Jump → Prop where
  | still : JumpsFrom session statement session.jump
  | goto {target : Int} {entry : Entry} (spelled : statement.innermost = .goto target)
      (stored : session.program.find? target = some entry) :
      JumpsFrom session statement (some ⟨target, false⟩)
  | run {jump : Option Jump} (spelled : statement.innermost = .run) :
      JumpsFrom session statement jump
  | next {jump : Option Jump} {name : Option String} (spelled : statement.innermost = .next name)
      (inside : session.loops ≠ []) : JumpsFrom session statement jump

theorem JumpsFrom.guarded {session : Session} {memory : Memory} {condition statement : Node}
    {jump : Option Jump} (jumps : JumpsFrom { session with memory } statement jump) :
    JumpsFrom session (.ifThen condition statement) jump := by
  cases jumps with
  | still => exact .still
  | goto spelled stored => exact .goto spelled stored
  | run spelled => exact .run spelled
  | next spelled inside => exact .next spelled inside

/-- **A jump comes from `GOTO`, from `RUN`, or from `NEXT` in a loop.** -/
theorem execute_jump (statement : Node) (session : Session) :
    JumpsFrom session statement (session.execute statement).1.jump := by
  fun_induction execute statement session with
  | case1 items separators session =>
    unfold executePrint
    split <;> exact .still
  | case2 name value session =>
    unfold executeAssign
    split <;> exact .still
  | case3 prompt name session => exact .still
  | case4 condition statement session memory cause failed => exact .still
  | case5 condition statement session memory value evaluated holds hypothesis =>
    exact hypothesis.guarded
  | case6 condition statement session memory value evaluated fails => exact .still
  | case7 line session =>
    unfold executeGoto
    split
    · exact .still
    · next entry stored => exact .goto rfl stored
  | case8 name start limit step session =>
    unfold executeFor
    (repeat' split) <;> exact .still
  | case9 name session =>
    unfold executeNext
    split
    · exact .still
    · next frame outer innermost =>
      refine .next rfl ?_
      rw [innermost]
      exact List.cons_ne_nil _ _
  | case10 session => exact .still
  | case11 session => exact .run rfl
  | case12 first last session =>
    unfold executeList
    split <;> exact .still
  | case13 session => exact .still
  | case14 session => exact .still
  | case15 text session => exact .still
  | case16 session => exact .still
  | case17 => exact .still

/-- Where no loop is open, only a `FOR` opens one. -/
theorem execute_noLoops {session : Session} {statement : Node} (none : session.loops = [])
    (opensNone : ∀ name, ¬statement.Opens name) : (session.execute statement).1.loops = [] := by
  have executes := session.executes statement
  generalize session.execute statement = result at executes
  cases executes with
  | opened memory name start limit step reads opens => exact absurd opens (opensNone name)
  | returned memory frame outer value line reads innermost origin =>
    rw [none] at innermost
    cases innermost
  | closed memory frame outer value reads innermost =>
    rw [none] at innermost
    cases innermost
  | restarted => rfl
  | stranded => rfl
  | cleared => rfl
  | _ => exact none

/-- A statement that stops the program leaves no jump that was not there. -/
theorem execute_halted {session : Session} {statement : Node} (running : session.running = true)
    (halted : (session.execute statement).1.running = false) :
    (session.execute statement).1.jump = session.jump := by
  have executes := session.executes statement
  generalize session.execute statement = result at executes halted
  cases executes with
  | stopped => rfl
  | cleared => rfl
  | _ => exact absurd (running.symm.trans halted) (by decide)

end Session

/-- A run that has been stopped leaves its program and is over. -/
theorem Scene.walks_halted (scene : Scene) {cursor : Cursor} (isOpen : scene.ending = none)
    (halted : scene.session.running = false) (noJump : scene.session.jump = none)
    (running : scene.activity.cursor = some cursor)
    (completed : scene.activity.stage = .completed) :
    ∃ last, scene.Walks [] last ∧ last.ending = some .finished := by
  obtain ⟨⟨program, memory, loops, current, on, jump⟩, ⟨immediate, place, stage⟩, answers, events,
    ending⟩ := scene
  simp only at isOpen halted noJump running completed
  subst isOpen halted noJump running completed
  exact ⟨_, ⟨4, rfl, rfl⟩, by cases immediate <;> rfl⟩

namespace Structured.Running

variable {run : Running} {loops : List LoopFrame}

/-- No loop is open, or there is nothing that could lead back into one. -/
def Idle (program : Program) (loops : List LoopFrame) : Prop :=
  loops = [] ∨ ∀ line ∈ program.lines, ∀ name, line.2.statement.innermost ≠ .next name

/-- A run stands before a line, at a place or behind it, with no loop to go back into; or it is
over. -/
def Onward (run : Running) (place : Nat) (scene : Scene) : Prop :=
  (∃ loops current later state, scene = run.before loops current later state ∧ place ≤ later ∧
    later ≤ run.program.numbers.length ∧ Idle run.program loops) ∨
  scene.ending = some .finished

section Forward

variable {earlier later : List (Int × Entry)} {line : Int × Entry}

/-- A statement of a program that only goes forward leaves no loop to go back into. -/
theorem idle_execute (forward : run.program.Forward) (member : line ∈ run.program.lines)
    {session : Session} (idle : Idle run.program session.loops) :
    Idle run.program (session.execute line.2.statement).1.loops := by
  rcases forward.noLoops with noFor | noNext
  · exact idle.imp_left fun none => Session.execute_noLoops none (noFor line member)
  · exact .inr noNext

/-- Behind a later line a run goes on, or it is over. -/
theorem place_lt (stored : run.program.lines = earlier ++ line :: later) :
    earlier.length < run.program.numbers.length := by
  rw [Program.numbers, List.length_map, stored, List.length_append, List.length_cons]
  omega

/-- The line that a `GOTO` leads to lies further on. -/
theorem idxOf?_onward (stored : run.program.lines = earlier ++ line :: later) {target : Int}
    {entry : Entry} (found : run.program.find? target = some entry) (onward : line.1 < target) :
    ∃ place, run.program.numbers.idxOf? target = some place ∧ earlier.length + 1 ≤ place ∧
      place ≤ run.program.numbers.length := by
  obtain ⟨before, after, split⟩ := List.append_of_mem (Program.mem_of_find? found)
  have here := Program.numbers_at stored
  have there := Program.numbers_at split
  obtain ⟨inside, number⟩ := List.getElem?_eq_some_iff.mp here
  obtain ⟨inside', number'⟩ := List.getElem?_eq_some_iff.mp there
  refine ⟨before.length, Program.idxOf?_at split, ?_, inside'.le⟩
  by_contra notBehind
  rcases Nat.lt_or_eq_of_le (Nat.le_of_not_lt notBehind) with ahead | same
  · have below := List.pairwise_iff_getElem.mp run.program.numbers_ascending before.length
      earlier.length inside' inside ahead
    rw [number, number'] at below
    omega
  · simp only [same] at number'
    omega

/-- A completed line without a jump leads to the next one. -/
theorem onward_next (stored : run.program.lines = earlier ++ line :: later)
    (idle : Idle run.program loops) (current : Option Int) (state : State) :
    ∃ next, (run.scene loops current none earlier.length .completed state).Walks [] next ∧
      run.Onward (earlier.length + 1) next :=
  ⟨_, walks_completed run loops current earlier.length state,
    .inl ⟨loops, current, _, state, rfl, Nat.le_refl _, place_lt stored, idle⟩⟩

/-- A completed line with a jump to a later line leads to it. -/
theorem onward_jump (stored : run.program.lines = earlier ++ line :: later)
    (idle : Idle run.program loops) {target : Int} {entry : Entry}
    (found : run.program.find? target = some entry) (onward : line.1 < target)
    (current : Option Int) (state : State) :
    ∃ next, (run.scene loops current (some ⟨target, false⟩) earlier.length .completed state).Walks
        [] next ∧ run.Onward (earlier.length + 1) next := by
  obtain ⟨place, isPlace, behind, inside⟩ := idxOf?_onward stored found onward
  refine ⟨run.before loops current place state, Scene.Walks.tick ?_ (.refl _),
    .inl ⟨loops, current, place, state, rfl, behind, inside, idle⟩⟩
  rw [Scene.tick_open rfl]
  simp only [before, scene, Session.step, Session.advance, isPlace, Bool.false_eq_true, if_false,
    Scene.follow, Scene.seen_note, Scene.seen_nil, List.append_nil]

/-- A failed line leads to the end. -/
theorem onward_failing (run : Running) (loops : List LoopFrame) (line : Int) (place onward : Nat)
    (cause : Cause) (state : State) :
    ∃ next, (run.failing loops line place cause state).Walks [] next ∧ run.Onward onward next :=
  ⟨_, walks_failing run loops line place cause state, .inr rfl⟩

/-- A line that stops the program leads to the end. -/
theorem onward_halted (run : Running) (loops : List LoopFrame) (line : Int) (place onward : Nat)
    {statement : Node} (state : State) {after : Session} {effects : List Effect}
    (executed : Session.execute statement
      ⟨run.program, state.memory, loops, some line, true, none⟩ = (after, .done effects))
    (halted : after.running = false) :
    ∃ next, (run.scene loops (some line) none place (.execute statement) state).tick.Walks [] next ∧
      run.Onward onward next := by
  have noJump := congrArg (fun result => result.1.jump) executed
  have stops := congrArg (fun result => result.1.running) executed
  simp only at noJump stops
  rw [Session.execute_halted rfl (stops.trans halted)] at noJump
  let left : Scene := ⟨after, ⟨run.immediate, some ⟨run.program.numbers, place⟩, .completed⟩,
    state.answers, state.events ++ Scene.seen effects, none⟩
  have ticked :
      (run.scene loops (some line) none place (.execute statement) state).tick = left := by
    rw [Scene.tick_open rfl]
    simp only [left, scene, Session.step, Session.executeStage, executed, Scene.follow,
      Activity.inStage]
  obtain ⟨last, walks, isOver⟩ := left.walks_halted rfl halted noJump.symm rfl rfl
  exact ⟨last, ticked ▸ walks, .inr isOver⟩

/-- A line that is done leads to a later one, or to the end. -/
theorem onward_done (forward : run.program.Forward)
    (stored : run.program.lines = earlier ++ line :: later) (idle : Idle run.program loops)
    (state : State) {after : Session} {effects : List Effect}
    (executed : Session.execute line.2.statement
      ⟨run.program, state.memory, loops, some line.1, true, none⟩ = (after, .done effects)) :
    ∃ next, (run.scene loops (some line.1) none earlier.length (.execute line.2.statement)
      state).tick.Walks [] next ∧ run.Onward (earlier.length + 1) next := by
  rcases on : after.running with _ | _
  · exact onward_halted run loops line.1 earlier.length _ state executed on
  have member : line ∈ run.program.lines := by
    rw [stored]
    exact List.mem_append_right _ List.mem_cons_self
  let session : Session := ⟨run.program, state.memory, loops, some line.1, true, none⟩
  have running : (session.execute line.2.statement).1.running = true :=
    (congrArg (fun result => result.1.running) executed).trans on
  have idle' := idle_execute forward member (show Idle run.program session.loops from idle)
  have jumps := session.execute_jump line.2.statement
  have place := Session.execute_place running
  rw [show session.execute line.2.statement = _ from executed] at idle' jumps place
  obtain ⟨program, memory, loops', current, running', jump⟩ := after
  obtain ⟨sameProgram, sameCurrent⟩ := place
  simp only at sameProgram sameCurrent on idle' jumps
  subst sameProgram sameCurrent on
  rw [tick_done executed]
  cases jumps with
  | still => exact onward_next stored idle' _ _
  | goto spelled found =>
    exact onward_jump stored idle' found (forward.onward line member _ spelled) _ _
  | run spelled => exact absurd spelled (forward.noRun line member)
  | next spelled inside =>
    rcases idle with none | noNext
    · exact absurd none inside
    · exact absurd spelled (noNext line member _)

/-- **One line of a program that only goes forward** leads to a later one, or to the end. -/
theorem walks_forward (forward : run.program.Forward)
    (stored : run.program.lines = earlier ++ line :: later) (idle : Idle run.program loops)
    (current : Option Int) (state : State) :
    ∃ next, (run.before loops current earlier.length state).Walks [⟨line.1, state.memory⟩] next ∧
      run.Onward (earlier.length + 1) next := by
  suffices goesOn : ∃ next, (run.scene loops (some line.1) none earlier.length
      (.execute line.2.statement) state).tick.Walks [] next ∧
      run.Onward (earlier.length + 1) next by
    obtain ⟨next, walks, onward⟩ := goesOn
    exact ⟨next, walks_before stored walks, onward⟩
  have executes := Session.executes line.2.statement
    ⟨run.program, state.memory, loops, some line.1, true, none⟩
  rcases executed : Session.execute line.2.statement
    ⟨run.program, state.memory, loops, some line.1, true, none⟩ with
    ⟨after, effects | cause | fault | ⟨prompt, asked⟩ | _⟩
  all_goals rw [executed] at executes
  · exact onward_done forward stored idle state executed
  · obtain ⟨memory, -, rfl⟩ := Session.execute_failed executed
    rw [tick_failed executed]
    exact onward_failing run _ _ _ _ _ _
  · cases executes with
    | stranded running numbers =>
      have inside := place_lt stored
      simp only at numbers
      rw [numbers] at inside
      cases inside
  · cases executes with
    | asked memory prompt name reads named =>
      rw [tick_ask executed]
      have heard := tick_awaiting run loops line.1 earlier.length prompt asked
        ⟨memory, state.answers, state.events⟩
      rcases answered : State.ask ⟨memory, state.answers, state.events⟩ prompt asked with
        ⟨after, none | cause⟩
      all_goals rw [answered] at heard
      · obtain ⟨next, walks, onward⟩ := onward_next stored idle (some line.1) after
        exact ⟨next, Scene.Walks.tick heard walks, onward⟩
      · obtain ⟨next, walks, onward⟩ :=
          onward_failing run loops line.1 earlier.length (earlier.length + 1) cause after
        exact ⟨next, Scene.Walks.tick heard walks, onward⟩
  · cases executes with
    | started memory reads notRunning => cases notRunning

/-- **A program that only goes forward ends**, and takes up lines in the order in which they stand:
the induction is on the lines that are left. -/
theorem walks_ends (forward : run.program.Forward) (left place : Nat)
    (behind : run.program.numbers.length = place + left) (idle : Idle run.program loops)
    (current : Option Int) (state : State) :
    ∃ visited last, (run.before loops current place state).Walks visited last ∧
      last.ending = some .finished ∧
      (visited.map Visit.line).Sublist (run.program.numbers.drop place) := by
  induction left using Nat.strong_induction_on generalizing place loops current state with
  | _ left hypothesis =>
    rcases Nat.eq_zero_or_pos left with rfl | some
    · obtain rfl : place = run.program.numbers.length := behind.symm
      exact ⟨[], _, walks_last run loops current state, rfl, List.nil_sublist _⟩
    have inside : place < run.program.lines.length := by
      rw [Program.numbers, List.length_map] at behind
      omega
    have stored : run.program.lines = run.program.lines.take place ++
        run.program.lines[place] :: run.program.lines.drop (place + 1) := by
      rw [List.getElem_cons_drop, List.take_append_drop]
    have ahead : (run.program.lines.take place).length = place := List.length_take_of_le inside.le
    have here : run.program.numbers.drop place =
        run.program.lines[place].1 :: run.program.numbers.drop (place + 1) := by
      rw [Program.numbers, ← List.map_drop, ← List.map_drop, List.drop_eq_getElem_cons inside,
        List.map_cons]
    have walked := walks_forward forward stored idle current state
    rw [ahead] at walked
    rw [here]
    rcases walked with
      ⟨next, walks, ⟨loops', current', later, state', rfl, above, within, idle'⟩ | isOver⟩
    · obtain ⟨visited, last, walks', ends, inOrder⟩ :=
        hypothesis (run.program.numbers.length - later) (by omega) later (by omega) idle' current'
          state'
      exact ⟨_, last, walks.trans walks', ends,
        (inOrder.trans (List.drop_sublist_drop_left _ above)).cons_cons _⟩
    · exact ⟨_, next, walks, isOver, (List.nil_sublist _).cons_cons _⟩

end Forward

end Structured.Running

/-- **Programs that only go forward end.** From any session with such a program, whatever loops,
jumps and variables are left in it, a run comes to its end whatever it is answered, and it takes up
lines in ascending order, each of them at most once. -/
theorem Session.forward_ends {session : Session} (inhabited : session.program.isEmpty = false)
    (forward : session.program.Forward) (answers : Nat → String) :
    let run := Scene.opening session .ofRun answers
    (∃ n, (run.play n).ending = some .finished) ∧
      ∀ n, ((run.visits n).map Visit.line).Pairwise (· < ·) ∧
        ((run.visits n).map Visit.line).Sublist session.program.numbers := by
  intro run
  let running : Structured.Running := ⟨session.program, false⟩
  have forward' : running.program.Forward := forward
  have started : run.tick = running.before [] session.current 0 (.initial answers) :=
    Structured.Running.tick_opening inhabited answers
  obtain ⟨visited, last, walks, ends, inOrder⟩ := Structured.Running.walks_ends forward' _ 0
    (Nat.zero_add _).symm (.inl rfl) session.current (.initial answers)
  obtain ⟨whole, rfl, rfl⟩ := Scene.Walks.tick started walks
  refine ⟨⟨whole, ends⟩, fun n => ?_⟩
  have part := ((Scene.visits_complete ends n).map Visit.line).sublist.trans inOrder
  exact ⟨session.program.numbers_ascending.sublist part, part⟩

/-- A `NEXT` does not go back into a loop that an earlier run has left open. -/
theorem Session.forward_ends_next :
    ∃ session : Session,
      session.program.lines =
        [(10, ⟨"10 INPUT A", .input "" "A"⟩),
          (20, ⟨"20 IF A THEN IF A>1 THEN 40", .ifThen (.named "A")
            (.ifThen (.binary ">" (.named "A") (.number (.int 1))) (.goto 40))⟩),
          (30, ⟨"30 END", .stop⟩), (40, ⟨"40 NEXT I", .next (some "I")⟩)] ∧
      session.loops = [⟨"I", 5.0, 1.0, some 10⟩] ∧ session.program.isEmpty = false ∧
      session.program.Forward ∧ ∀ answers,
        (∃ n, ((Scene.opening session .ofRun answers).play n).ending = some .finished) ∧
        ∀ n, (((Scene.opening session .ofRun answers).visits n).map Visit.line).Sublist
          [10, 20, 30, 40] := by
  let lines : List (Int × Entry) :=
    [(10, ⟨"10 INPUT A", .input "" "A"⟩),
      (20, ⟨"20 IF A THEN IF A>1 THEN 40", .ifThen (.named "A")
        (.ifThen (.binary ">" (.named "A") (.number (.int 1))) (.goto 40))⟩),
      (30, ⟨"30 END", .stop⟩), (40, ⟨"40 NEXT I", .next (some "I")⟩)]
  have ascending : lines.Pairwise fun line later => line.1 < later.1 := by simp [lines]
  let session : Session :=
    { Session.fresh with program := ⟨lines, ascending⟩, loops := [⟨"I", 5.0, 1.0, some 10⟩] }
  have forward : session.program.Forward := by
    refine ⟨?_, ?_, .inl ?_⟩ <;>
      simp [session, lines, Node.innermost, Node.Opens]
  have inhabited : session.program.isEmpty = false := rfl
  refine ⟨session, rfl, rfl, inhabited, forward, fun answers => ?_⟩
  obtain ⟨ends, visits⟩ := Session.forward_ends inhabited forward answers
  exact ⟨ends, fun n => (visits n).2⟩

end LineBasic
