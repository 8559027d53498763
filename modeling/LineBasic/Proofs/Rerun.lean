/-
**Running a program again.**

A run starts from nothing but the stored program: what the session held before is reset or
overwritten before the run looks at it. The same is true of a `RUN` that a running program comes
to, which goes through the cursor of the old run and not through a new one. And no statement but
`NEW` changes the stored program, so a program that is run again with the same answers shows the
same again.

* `Node.comesTo` — the statement that a statement comes to behind its conditions;
* `program_execute`, `program_play` — nothing but `NEW` changes the stored program in a run;
* `tick_ofRun`, `play_restart` — a run, and a restart in a run, before the first line;
* `repeats_before` — what follows there;
* `rerun_agrees` — two runs of one program, a run and its restart, a run and the next one.
-/

import LineBasic.Proofs.Atomic
import LineBasic.Proofs.Structured.Walk

namespace LineBasic

open Structured (Running)

/-! ### What a statement comes to -/

/-- The statement that a statement comes to if its conditions hold one after the other, with the
variables as they are when it is reached. -/
def Node.comesTo : Node → Memory → Option (Node × Memory)
  | .ifThen condition statement, memory =>
    match condition.evaluate memory with
    | (memory, .ok value) => if value.isTrue then statement.comesTo memory else none
    | (_, .error _) => none
  | node, memory => some (node, memory)

namespace Session

/-- Executing a statement is executing what it comes to. -/
theorem execute_comesTo {statement node : Node} {memory memory' : Memory} (session : Session)
    (comes : statement.comesTo memory = some (node, memory')) :
    execute statement { session with memory } =
      execute node { session with memory := memory' } := by
  fun_induction Node.comesTo statement memory with
  | case1 condition statement memory after value evaluated holds hypothesis =>
    rw [← hypothesis comes]
    simp only [execute, evaluated, holds, if_true]
  | case2 => cases comes
  | case3 => cases comes
  | case4 =>
    cases comes
    rfl

/-- **A statement that does not come to `NEW` keeps the program.** -/
theorem program_execute {statement : Node} {session : Session}
    (keeps : ∀ memory, statement.comesTo session.memory ≠ some (.new, memory)) :
    (session.execute statement).1.program = session.program := by
  fun_induction execute statement session with
  | case1 items separators session =>
    unfold executePrint
    split <;> rfl
  | case2 name value session =>
    unfold executeAssign
    split <;> rfl
  | case5 condition statement session memory value evaluated holds hypothesis =>
    refine hypothesis fun memory' comes => keeps memory' ?_
    simpa only [Node.comesTo, evaluated, holds, if_true] using comes
  | case7 line session =>
    unfold executeGoto
    split <;> rfl
  | case8 name start limit step session =>
    unfold executeFor
    (repeat' split) <;> rfl
  | case9 name session =>
    unfold executeNext
    split
    · rfl
    · simp only
      (repeat' split) <;> rfl
  | case11 session =>
    unfold executeRun
    (repeat' split) <;> rfl
  | case12 first last session =>
    unfold executeList
    split <;> rfl
  | case13 session => exact absurd rfl (keeps session.memory)
  | _ => rfl

/-- A step that executes a statement leaves the program that the statement leaves. -/
theorem program_executeStage (session : Session) (activity : Activity) (statement : Node) :
    (session.executeStage activity statement).1.program =
      (session.execute statement).1.program := by
  unfold executeStage
  rcases session.execute statement with ⟨after, effects | cause | fault | ⟨prompt, name⟩ | _⟩ <;> rfl

/-- **A step keeps the program**, unless it reads a typed line or executes `NEW`. -/
theorem program_step {session : Session} {activity : Activity}
    (unread : ∀ line, activity.stage ≠ .read line)
    (keeps : ∀ statement memory, activity.stage = .execute statement →
      statement.comesTo session.memory ≠ some (.new, memory)) :
    (session.step activity).1.program = session.program := by
  have left : (session.leaveLine activity).program = session.program := by
    unfold leaveLine
    split <;> rfl
  unfold step
  split
  · next line stage => exact absurd stage (unread line)
  · unfold beginRun
    split <;> rfl
  · next statement stage =>
    rw [program_executeStage]
    exact program_execute fun memory => keeps statement memory stage
  · rfl
  · unfold selectLine
    split
    · rfl
    · split <;> rfl
  · unfold advance
    split
    · rfl
    · split <;> rfl
  · unfold failStage
    split
    · rfl
    · split <;> rfl
  · rfl
  · exact left
  · exact left
  · exact left

theorem program_answer (session : Session) (activity : Activity) (line : String) :
    (session.answer activity line).1.program = session.program := by
  unfold answer
  split
  · split
    · rfl
    · split <;> rfl
  · rfl

theorem program_abandon (session : Session) (activity : Activity) :
    (session.abandon activity).1.program = session.program := by
  unfold abandon leaveLine
  split <;> simp only <;> split <;> rfl

end Session

/-- How the activity of a run looks: it was started by a call or from a typed line, it reads
nothing, and outside its lines it only begins or ends. -/
structure Activity.OfRun (activity : Activity) (immediate : Bool) : Prop where
  started : activity.immediate = immediate
  unread : ∀ line, activity.stage ≠ .read line
  outside : activity.cursor = none → activity.stage = .begin ∨ activity.stage = .completed

/-- What an activity goes on as after a move has a property; it may also not go on. -/
def Move.GoesOn (holds : Activity → Prop) : Move → Prop
  | next following _ => holds following
  | _ => True

namespace Session

section Runs

variable {immediate : Bool} {activity : Activity}

theorem ofRun_inStage (isOfRun : activity.OfRun immediate) (inside : activity.cursor ≠ none)
    {stage : Stage} (unread : ∀ line, stage ≠ .read line) :
    (activity.inStage stage).OfRun immediate :=
  ⟨isOfRun.started, unread, fun outside => absurd outside inside⟩

/-- Where a run neither begins nor ends, it has a cursor. -/
theorem inside_of_ofRun (isOfRun : activity.OfRun immediate) (notBegun : activity.stage ≠ .begin)
    (notCompleted : activity.stage ≠ .completed) : activity.cursor ≠ none :=
  fun outside => (isOfRun.outside outside).elim notBegun notCompleted

/-- A step of a run goes on as a run. -/
theorem ofRun_step (session : Session) (isOfRun : activity.OfRun immediate) :
    (session.step activity).2.GoesOn fun following => following.OfRun immediate := by
  have goesOn : ∀ {stage : Stage}, activity.stage ≠ .begin → activity.stage ≠ .completed →
      (∀ line, stage ≠ .read line) → (activity.inStage stage).OfRun immediate :=
    fun notBegun notCompleted =>
      ofRun_inStage isOfRun (inside_of_ofRun isOfRun notBegun notCompleted)
  unfold step
  split
  · next line stage => exact absurd stage (isOfRun.unread line)
  · unfold beginRun
    split
    · exact ⟨isOfRun.started, nofun, fun _ => .inr rfl⟩
    · exact ⟨isOfRun.started, nofun, nofun⟩
  · next statement stage =>
    unfold executeStage
    rcases session.execute statement with ⟨after, effects | cause | fault | ⟨prompt, name⟩ | _⟩
    · exact goesOn (stage ▸ nofun) (stage ▸ nofun) nofun
    · exact goesOn (stage ▸ nofun) (stage ▸ nofun) nofun
    · trivial
    · exact goesOn (stage ▸ nofun) (stage ▸ nofun) nofun
    · exact goesOn (stage ▸ nofun) (stage ▸ nofun) nofun
  · trivial
  · next cursor stage inside =>
    unfold selectLine
    split
    · exact ofRun_inStage isOfRun (inside ▸ nofun) nofun
    · split
      · trivial
      · exact ofRun_inStage isOfRun (inside ▸ nofun) nofun
  · next cursor stage inside =>
    unfold advance
    split
    · exact ⟨isOfRun.started, nofun, nofun⟩
    · split
      · exact ofRun_inStage isOfRun (inside ▸ nofun) nofun
      · exact ⟨isOfRun.started, nofun, nofun⟩
  · next failure stage =>
    have inside := inside_of_ofRun isOfRun (stage ▸ nofun) (stage ▸ nofun)
    unfold failStage
    split
    · exact ofRun_inStage isOfRun inside nofun
    · next outside => exact absurd outside inside
  · exact ⟨isOfRun.started, nofun, fun _ => .inr rfl⟩
  · trivial
  · trivial
  · trivial

theorem ofRun_answer (session : Session) (isOfRun : activity.OfRun immediate) (line : String) :
    (session.answer activity line).2.OfRun immediate := by
  unfold answer
  split
  · next prompt name stage =>
    have inside := inside_of_ofRun isOfRun (stage ▸ nofun) (stage ▸ nofun)
    split
    · exact ofRun_inStage isOfRun inside nofun
    · split
      · exact ofRun_inStage isOfRun inside nofun
      · exact ofRun_inStage isOfRun inside nofun
  · exact isOfRun

end Runs

end Session

namespace Scene

/-- A scene is about to execute a statement, behind whatever conditions. -/
structure Does (scene : Scene) (node : Node) : Prop where
  isOpen : scene.ending = none
  comes : ∃ statement memory, scene.activity.stage = .execute statement ∧
    statement.comesTo scene.session.memory = some (node, memory)

/-! ### The program in a run -/

/-- The scene of a run that is about to begin, for a call or for a typed line. -/
def ofRun (session : Session) (immediate : Bool) (answers : Nat → String) : Scene :=
  opening session ⟨immediate, none, .begin⟩ answers

/-- What a scene makes of a step leaves the program that the step leaves. -/
theorem program_follow (scene : Scene) (result : Session × Move) :
    (scene.follow result).session.program = result.1.program := by
  rcases result with ⟨after, ⟨following, effects⟩ | prompt | _ | failure | fault⟩
  · rfl
  · exact Session.program_answer ..
  · rfl
  · rfl
  · exact Session.program_abandon ..

/-- **A tick keeps the program**, unless a typed line is read or `NEW` is executed. -/
theorem program_tick {scene : Scene} (unread : ∀ line, scene.activity.stage ≠ .read line)
    (keeps : ¬scene.Does .new) : scene.tick.session.program = scene.session.program := by
  cases isOver : scene.ending with
  | some ending => rw [tick_over isOver]
  | none =>
    rw [tick_open isOver, program_follow]
    exact Session.program_step unread fun statement memory stage comes =>
      keeps ⟨isOver, statement, memory, stage, comes⟩

/-- In a run nothing is read, and outside its lines it only begins or ends. -/
theorem ofRun_play (session : Session) (immediate : Bool) (answers : Nat → String) (n : Nat) :
    ((ofRun session immediate answers).play n).activity.OfRun immediate := by
  have begun : Activity.OfRun ⟨immediate, none, .begin⟩ immediate :=
    ⟨rfl, nofun, fun _ => .inl rfl⟩
  refine play_preserves (fun scene => scene.activity.OfRun immediate) (fun scene isOfRun => ?_)
    begun n
  cases isOver : scene.ending with
  | some ending =>
    rw [tick_over isOver]
    exact isOfRun
  | none =>
    have moved := Session.ofRun_step scene.session isOfRun
    rw [tick_open isOver]
    generalize scene.session.step scene.activity = result at moved ⊢
    rcases result with ⟨after, ⟨following, effects⟩ | prompt | _ | failure | fault⟩
    · exact moved
    · exact Session.ofRun_answer after isOfRun _
    · exact isOfRun
    · exact isOfRun
    · exact isOfRun

/-- **A run keeps the program until it executes `NEW`.** -/
theorem program_play (session : Session) (immediate : Bool) (answers : Nat → String) (n : Nat)
    (keeps : ∀ k < n, ¬((ofRun session immediate answers).play k).Does .new) :
    ((ofRun session immediate answers).play n).session.program = session.program := by
  induction n with
  | zero => rfl
  | succ n hypothesis =>
    have unread := (ofRun_play session immediate answers n).unread
    rw [play_succ, program_tick unread (keeps n n.lt_succ_self)]
    exact hypothesis fun k below => keeps k (Nat.lt_succ_of_lt below)

/-! ### Before the first line -/

/-- The scene that shows some events before it. -/
def behind (earlier : List Event) (scene : Scene) : Scene :=
  { scene with events := earlier ++ scene.events }

theorem tick_behind (earlier : List Event) (scene : Scene) :
    (scene.behind earlier).tick = scene.tick.behind earlier := by
  obtain ⟨session, activity, answers, events, ending | ending⟩ := scene
  · rw [tick_open rfl, tick_open rfl]
    simp only [behind]
    rcases session.step activity with ⟨after, ⟨following, effects⟩ | prompt | _ | failure | fault⟩
    · simp only [follow, List.append_assoc]
    · simp only [follow, List.append_assoc]
    · rfl
    · rfl
    · rfl
  · rfl

/-- What was shown before a scene does not matter to it. -/
theorem play_behind (earlier : List Event) (n : Nat) (scene : Scene) :
    (scene.behind earlier).play n = (scene.play n).behind earlier := by
  induction n generalizing scene with
  | zero => rfl
  | succ n hypothesis => rw [play, play, tick_behind, hypothesis]

/-- The second scene shows what the first one shows, behind some events, and has heard the same;
and when one of them is over the other one is too, and leaves the same session. -/
structure Repeats (earlier : List Event) (first second : Scene) : Prop where
  events : second.events = earlier ++ first.events
  answers : second.answers = first.answers
  ending : second.ending = first.ending
  session : first.ending ≠ none → second.session = first.session

theorem Repeats.refl (scene : Scene) : scene.Repeats [] scene :=
  ⟨rfl, rfl, rfl, fun _ => rfl⟩

theorem repeats_behind (earlier : List Event) (scene : Scene) :
    scene.Repeats earlier (scene.behind earlier) :=
  ⟨rfl, rfl, rfl, fun _ => rfl⟩

section First

variable {run : Running} {first : Int × Entry} {later : List (Int × Entry)}

/-- **Before its first line a run has forgotten everything**: what follows is the same whatever the
current line was, but for what was shown before. -/
theorem repeats_before (stored : run.program.lines = first :: later) (current current' : Option Int)
    (answers : Nat → String) (earlier : List Event) (n : Nat) :
    ((run.before [] current 0 ⟨.empty, answers, []⟩).play n).Repeats earlier
      ((run.before [] current' 0 ⟨.empty, answers, earlier⟩).play n) := by
  cases n with
  | zero => exact ⟨(List.append_nil _).symm, rfl, rfl, fun isOver => absurd rfl isOver⟩
  | succ n =>
    have inFront : run.program.lines = [] ++ first :: later := stored
    have taken : (run.before [] current 0 ⟨.empty, answers, []⟩).tick =
        run.scene [] (some first.1) none 0 (.execute first.2.statement) ⟨.empty, answers, []⟩ :=
      Running.tick_before inFront _ _ _
    have taken' : (run.before [] current' 0 ⟨.empty, answers, earlier⟩).tick =
        (run.before [] current 0 ⟨.empty, answers, []⟩).tick.behind earlier := by
      rw [taken]
      refine (Running.tick_before inFront _ _ _).trans ?_
      simp only [behind, Running.scene, List.append_nil, List.length_nil]
    rw [play, play, taken', play_behind]
    exact repeats_behind earlier _

/-- A run stands before its first line, whatever the session was before. -/
theorem tick_ofRun {session : Session} (inhabited : session.program.isEmpty = false)
    (immediate : Bool) (answers : Nat → String) :
    (ofRun session immediate answers).tick =
      Running.before ⟨session.program, immediate⟩ [] session.current 0 ⟨.empty, answers, []⟩ := by
  rw [tick_open rfl]
  simp only [ofRun, opening, Session.step, Session.beginRun, inhabited, follow,
    Session.restarted, Running.before, Running.scene, seen_note, seen_nil, List.append_nil,
    Bool.false_eq_true, if_false]

/-- After a line that leaves a jump to a line, a run stands before that line. -/
theorem tick_goto {loops : List LoopFrame} {current : Option Int} {place : Nat}
    {state : Structured.State} {earlier later : List (Int × Entry)} {line : Int × Entry}
    (stored : run.program.lines = earlier ++ line :: later) :
    (run.scene loops current (some ⟨line.1, false⟩) place .completed state).tick =
      run.before loops current earlier.length state := by
  rw [tick_open rfl]
  simp only [Running.before, Running.scene, Session.step, Session.advance,
    Program.idxOf?_at stored, Bool.false_eq_true, if_false, follow, seen_note, seen_nil,
    List.append_nil]

/-- A running program that comes to `RUN` is done with it, and is to go to its first line. -/
theorem tick_restart (stored : run.program.lines = first :: later) {scene : Scene}
    (isSteady : scene.IsSteady run.program) (inside : scene.activity.cursor ≠ none)
    (does : scene.Does .run) (same : scene.activity.immediate = run.immediate) :
    ∃ place, scene.tick = run.scene [] scene.session.current (some ⟨first.1, false⟩) place
      .completed ⟨.empty, scene.answers, scene.events⟩ := by
  obtain ⟨session, ⟨immediate, cursor, stage⟩, answers, events, ending⟩ := scene
  obtain ⟨isOpen, statement, memory, stage, comes⟩ := does
  simp only at isOpen stage inside comes same
  subst isOpen stage same
  obtain ⟨running, _⟩ := isSteady.steady.taken statement inside rfl
  obtain ⟨⟨lines, place⟩, rfl⟩ := Option.ne_none_iff_exists'.mp inside
  obtain ⟨lines, held⟩ := isSteady.steady.held ⟨lines, place⟩ rfl
  have kept : session.program = run.program := held.snapshot running
  have numbers : session.program.numbers = first.1 :: later.map Prod.fst := by
    rw [kept, Program.numbers, stored]
    rfl
  have executed : session.execute statement =
      ({ session.restarted with jump := some ⟨first.1, false⟩ }, .done []) := by
    refine (session.execute_comesTo comes).trans ?_
    simp only at running
    simp only [Session.execute, Session.executeRun, running, if_true, numbers, Session.restarted]
  refine ⟨place, ?_⟩
  simp only at lines running
  rw [tick_open rfl]
  simp only [Session.step, Session.executeStage, executed, follow, Activity.inStage, seen_nil,
    List.append_nil, Session.restarted, running, kept, lines, Running.scene]

/-- **A running program that comes to `RUN` stands before its first line again**, behind what it
has shown. -/
theorem play_restart (stored : run.program.lines = first :: later) {scene : Scene}
    (isSteady : scene.IsSteady run.program) (inside : scene.activity.cursor ≠ none)
    (does : scene.Does .run) (same : scene.activity.immediate = run.immediate) :
    scene.play 2 =
      run.before [] scene.session.current 0 ⟨.empty, scene.answers, scene.events⟩ := by
  obtain ⟨place, restarted⟩ := tick_restart stored isSteady inside does same
  have inFront : run.program.lines = [] ++ first :: later := stored
  rw [play, restarted, play, tick_goto inFront, play]
  rfl

end First

/-! ### Two runs -/

section Runs

variable {session other : Session} {immediate : Bool} {answers : Nat → String}

theorem lines_of_inhabited {program : Program} (inhabited : program.isEmpty = false) :
    ∃ first later, program.lines = first :: later := by
  unfold Program.isEmpty at inhabited
  cases lines : program.lines with
  | nil =>
    rw [lines] at inhabited
    cases inhabited
  | cons first later => exact ⟨first, later, rfl⟩

/-- Runs of one program repeat each other. -/
theorem repeats_ofRun (same : session.program = other.program)
    (inhabited : session.program.isEmpty = false) (immediate : Bool) (answers : Nat → String)
    (n : Nat) :
    ((ofRun session immediate answers).play n).Repeats []
      ((ofRun other immediate answers).play n) := by
  cases n with
  | zero => exact ⟨rfl, rfl, rfl, fun isOver => absurd rfl isOver⟩
  | succ n =>
    obtain ⟨first, later, stored⟩ := lines_of_inhabited inhabited
    rw [play, play, tick_ofRun inhabited, tick_ofRun (same ▸ inhabited), ← same]
    exact repeats_before stored _ _ answers [] n

/-- In a run, a statement is executed only inside it. -/
theorem inside_of_does {k : Nat} {node : Node}
    (does : ((ofRun session immediate answers).play k).Does node) :
    ((ofRun session immediate answers).play k).activity.cursor ≠ none := by
  obtain ⟨_, statement, memory, stage, _⟩ := does
  exact Session.inside_of_ofRun (ofRun_play session immediate answers k) (stage ▸ nofun)
    (stage ▸ nofun)

/-- **A restart in a run repeats a fresh run** of the program with the answers that are left. -/
theorem repeats_restart {k : Nat} (does : ((ofRun session immediate answers).play k).Does .run)
    (same : other.program = ((ofRun session immediate answers).play k).session.program) (n : Nat) :
    let scene := (ofRun session immediate answers).play k
    ((ofRun other immediate scene.answers).play n).Repeats scene.events (scene.play (n + 1)) := by
  intro scene
  have inside : scene.activity.cursor ≠ none := inside_of_does does
  have inhabited : session.program.isEmpty = false := by
    by_contra empty
    exact inside (outside_of_isEmpty (Bool.not_eq_false _ ▸ empty) immediate answers k)
  have isSteady : scene.IsSteady session.program := by
    cases k with
    | zero => exact absurd rfl inside
    | succ k => exact steady_play (isSteady_begun inhabited immediate answers) k
  obtain ⟨first, later, stored⟩ := lines_of_inhabited inhabited
  have kept : other.program = session.program := by
    obtain ⟨_, statement, _, stage, _⟩ := does
    obtain ⟨cursor, isInside⟩ := Option.ne_none_iff_exists'.mp inside
    obtain ⟨running, _⟩ := isSteady.steady.taken statement inside stage
    exact same.trans ((isSteady.steady.held cursor isInside).2.snapshot running)
  have typed : scene.activity.immediate = immediate :=
    (ofRun_play session immediate answers k).started
  let run : Running := ⟨session.program, immediate⟩
  have inRun : run.program.lines = first :: later := stored
  cases n with
  | zero =>
    obtain ⟨place, restarted⟩ := tick_restart inRun isSteady inside does typed
    rw [play, play, restarted, play]
    exact ⟨(List.append_nil _).symm, rfl, rfl, fun isOver => absurd rfl isOver⟩
  | succ n =>
    have restarted := play_restart inRun isSteady inside does typed
    have shape : scene.play (n + 1 + 1) = (scene.play 2).play n := rfl
    rw [shape, restarted, play, tick_ofRun (kept ▸ inhabited), kept]
    exact repeats_before stored _ _ scene.answers scene.events n

/-- Without a program, a run says so. -/
theorem tick_nothing (isEmpty : session.program.isEmpty = true) (immediate : Bool)
    (answers : Nat → String) :
    (ofRun session immediate answers).tick =
      ⟨session, ⟨immediate, none, .completed⟩, answers, [.line Session.noProgram], none⟩ := by
  rw [tick_open rfl]
  simp only [ofRun, opening, Session.step, Session.beginRun, isEmpty, if_true, follow,
    Activity.inStage]
  rfl

/-- Without a program, a run leaves the session as it was, but for the jump of a typed line. -/
theorem play_nothing (isEmpty : session.program.isEmpty = true) (immediate : Bool)
    (answers : Nat → String) :
    (ofRun session immediate answers).play 2 =
      ⟨session.leaveLine ⟨immediate, none, .completed⟩, ⟨immediate, none, .completed⟩, answers,
        [.line Session.noProgram], some .finished⟩ := by
  rw [play, tick_nothing isEmpty immediate answers]
  rfl

/-- Runs without a program repeat each other. -/
theorem repeats_nothing (isEmpty : session.program.isEmpty = true) (m : Nat) :
    let after := session.leaveLine ⟨immediate, none, .completed⟩
    ((ofRun session immediate answers).play m).Repeats []
      ((ofRun after immediate answers).play m) := by
  intro after
  have kept : after.program = session.program := by
    unfold after Session.leaveLine
    split <;> rfl
  have settled : after.leaveLine ⟨immediate, none, .completed⟩ = after := by
    unfold after Session.leaveLine
    cases immediate <;> rfl
  have isEmpty' : after.program.isEmpty = true := kept ▸ isEmpty
  match m with
  | 0 => exact ⟨rfl, rfl, rfl, fun isOver => absurd rfl isOver⟩
  | 1 =>
    rw [play, play, tick_nothing isEmpty immediate answers, play, play,
      tick_nothing isEmpty' immediate answers]
    exact ⟨rfl, rfl, rfl, fun isOver => absurd rfl isOver⟩
  | m + 2 =>
    have ended := play_nothing isEmpty immediate answers
    have ended' := play_nothing isEmpty' immediate answers
    have early : 2 ≤ m + 2 := Nat.le_add_left 2 m
    rw [play_over_later (congrArg ending ended) early, ended,
      play_over_later (congrArg ending ended') early, ended', settled]
    exact .refl _

/-- **A run that is over is repeated by the next one**, if it has kept the program. -/
theorem repeats_again {n : Nat} (isOver : ((ofRun session immediate answers).play n).ending ≠ none)
    (kept : ((ofRun session immediate answers).play n).session.program = session.program)
    (m : Nat) :
    let again := ofRun ((ofRun session immediate answers).play n).session immediate answers
    ((ofRun session immediate answers).play m).Repeats [] (again.play m) := by
  cases isEmpty : session.program.isEmpty with
  | false => exact repeats_ofRun kept.symm isEmpty immediate answers m
  | true =>
    obtain ⟨ending, isOver⟩ := Option.ne_none_iff_exists'.mp isOver
    have ended := play_nothing isEmpty immediate answers
    have last := play_over_unique isOver (congrArg Scene.ending ended)
    rw [last, ended]
    exact repeats_nothing isEmpty m

/-- **A run depends on nothing but the program and the answers.** Two sessions with one program run
alike; a `RUN` in a running program goes on as a fresh run does, with the answers that are left;
and a run that executes no `NEW` keeps the program, so the next run repeats it. -/
theorem rerun_agrees :
    (∀ (first second : Session) (immediate : Bool) (answers : Nat → String) (n : Nat),
      first.program = second.program → first.program.isEmpty = false →
      ((ofRun first immediate answers).play n).Repeats []
        ((ofRun second immediate answers).play n)) ∧
    (∀ (session other : Session) (immediate : Bool) (answers : Nat → String) (k n : Nat),
      let scene := (ofRun session immediate answers).play k
      scene.Does .run → other.program = scene.session.program →
      ((ofRun other immediate scene.answers).play n).Repeats scene.events
        (scene.play (n + 1))) ∧
    (∀ (session : Session) (immediate : Bool) (answers : Nat → String) (n : Nat),
      let run := fun n => (ofRun session immediate answers).play n
      (∀ k < n, ¬(run k).Does .new) →
      (run n).session.program = session.program ∧
        ((run n).ending ≠ none → ∀ m,
          (run m).Repeats [] ((ofRun (run n).session immediate answers).play m))) := by
  refine ⟨?_, ?_, ?_⟩
  · intro first second immediate answers n same inhabited
    exact repeats_ofRun same inhabited immediate answers n
  · intro session other immediate answers k n scene does same
    exact repeats_restart does same n
  · intro session immediate answers n run keeps
    have kept : (run n).session.program = session.program :=
      program_play session immediate answers n keeps
    exact ⟨kept, fun isOver => repeats_again isOver kept⟩

/-- A program that runs itself again, in a session that was used before, and a program that
ends. -/
theorem rerun_agrees_loop :
    (let program := Program.empty.insert 10 ⟨"10 IF \"X\" THEN RUN", .ifThen (.string "X") .run⟩
      let unused : Session := { Session.fresh with program }
      let used : Session :=
        ⟨program, ⟨[("A", .int 1)]⟩, [⟨"I", 1, 1, some 10⟩], some 20, false, some ⟨20, true⟩⟩
      let run := fun n => (ofRun unused false fun _ => "").play n
      (run 2).Does .run ∧
        ∀ n, (run n).Repeats [] ((ofRun used false fun _ => "").play n) ∧
          ((ofRun used false fun _ => "").play n).Repeats [] ((run 2).play (n + 1))) ∧
    (let session := { Session.fresh with program := Program.empty.insert 10 ⟨"10 END", .stop⟩ }
      let run := fun n => (ofRun session false fun _ => "").play n
      (run 7).ending = some .finished ∧
        ∀ m, (run m).Repeats [] ((ofRun (run 7).session false fun _ => "").play m)) := by
  constructor
  · intro program unused used run
    have restarts : (run 2).Does .run := ⟨rfl, _, _, rfl, rfl⟩
    exact ⟨restarts, fun n => ⟨rerun_agrees.1 unused used false _ n rfl rfl,
      rerun_agrees.2.1 unused used false _ 2 n restarts rfl⟩⟩
  · intro session run
    have keeps : ∀ k < 7, ¬(run k).Does .new := by
      rintro k below ⟨_, statement, memory, stage, comes⟩
      interval_cases k <;> cases stage
      cases comes
    have isOver : (run 7).ending = some .finished := rfl
    exact ⟨isOver, (rerun_agrees.2.2 session false _ 7 keeps).2 (isOver ▸ nofun)⟩

end Runs

end Scene

end LineBasic
