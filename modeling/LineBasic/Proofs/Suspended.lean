/-
**A program that waits while other lines are executed.**

While a running program waits for a line of input, lines may be typed that jump, open and close
loops, run programs of their own and wait for input themselves. All of them share the jump, the
flag and the current line with the program that waits. They leave its place alone: a jump does not
outlive the activity that left it, and a program that is started meanwhile can only be one that
`END` or `NEW` has made room for. So when its line arrives, the program goes on with the line after
the one that asked, among the lines that it started with, or it stops there because it was ended
meanwhile.

* `Interlude` — what happens while something waits, and no stored line is deleted;
* `Sitting.aims_step`, `aims_of_reached` — a jump is pending only for the latest activity;
* `undisturbed_step`, `Interlude.passes` — what one step of an interlude preserves, and all of it;
* `suspended_keeps_place` — how the program goes on;
* `earlier_deletion_missed` — where the line to go on with was deleted before.
-/

import LineBasic.Proofs.Edited
import LineBasic.Proofs.Move

namespace LineBasic

/-! ### What ends a program -/

/-- Whether a statement comes to `END` or `NEW`. -/
def Node.Ends (statement : Node) (memory : Memory) : Prop :=
  ∃ node after, statement.comesTo memory = some (node, after) ∧ (node = .stop ∨ node = .new)

namespace Session

section Statements

variable {session : Session} {statement : Node}

/-- After `END` or `NEW` nothing is running. -/
theorem running_of_ends (ends : statement.Ends session.memory) :
    (session.execute statement).1.running = false := by
  obtain ⟨node, after, comes, isEnd⟩ := ends
  rw [show session.execute statement = _ from session.execute_comesTo comes]
  rcases isEnd with rfl | rfl
  · rfl
  · rfl

/-- **Only `END` and `NEW` end what is running.** -/
theorem running_execute (goesOn : ¬statement.Ends session.memory) :
    (session.execute statement).1.running = session.running := by
  fun_induction execute statement session with
  | case1 items separators session =>
    unfold executePrint
    split <;> rfl
  | case2 name value session =>
    unfold executeAssign
    split <;> rfl
  | case5 condition statement session memory value evaluated holds hypothesis =>
    refine hypothesis fun ⟨node, after, comes, isEnd⟩ => goesOn ⟨node, after, ?_, isEnd⟩
    simpa only [Node.comesTo, evaluated, holds, if_true] using comes
  | case7 line session =>
    unfold executeGoto
    split <;> rfl
  | case8 name start limit step session =>
    unfold executeFor
    (repeat' split) <;> rfl
  | case9 name session =>
    unfold executeNext
    split
    · rfl
    · simp only
      (repeat' split) <;> rfl
  | case10 session => exact absurd ⟨_, _, rfl, .inl rfl⟩ goesOn
  | case11 session =>
    unfold executeRun
    (repeat' split) <;> rfl
  | case12 first last session =>
    unfold executeList
    split <;> rfl
  | case13 session => exact absurd ⟨_, _, rfl, .inr rfl⟩ goesOn
  | _ => rfl

/-- Outside a run nothing is left but a jump. -/
theorem abandon_keeps {activity : Activity} (outside : activity.cursor = none) :
    (session.abandon activity).1.running = session.running ∧
      (session.abandon activity).1.program = session.program := by
  unfold abandon leaveLine
  rw [outside]
  simp only
  split <;> exact ⟨rfl, rfl⟩

theorem leaveLine_keeps (session : Session) (activity : Activity) :
    (session.leaveLine activity).running = session.running ∧
      (session.leaveLine activity).program = session.program := by
  unfold leaveLine
  split <;> exact ⟨rfl, rfl⟩

theorem running_abandon {activity : Activity} (idle : session.running = false) :
    (session.abandon activity).1.running = false := by
  unfold abandon leaveLine
  split <;> simp only <;> split <;> first | rfl | exact idle

/-- A statement that is executed does to the session what it does by itself. -/
theorem step_execute {activity : Activity} (stage : activity.stage = .execute statement) :
    (session.step activity).1 = (session.execute statement).1 := by
  unfold step
  rw [stage]
  simp only [executeStage]
  rcases session.execute statement with ⟨after, effects | cause | fault | ⟨prompt, name⟩ | _⟩ <;>
    rfl

end Statements

end Session

/-! ### A jump is pending for the latest activity -/

/-- Whether a stage is one at which an activity may have a jump to follow. -/
def Stage.IsLate : Stage → Prop
  | completed => True
  | failed _ => True
  | stopped => True
  | _ => False

/-- What becomes of a trace by a move. -/
theorem Trace.passes_of_step {trace : Trace} {typed : String → Prop} {session after : Session}
    {activity : Activity} {move : Move} (shaped : activity.Shaped typed)
    (moves : session.step activity = (after, move)) :
    trace.Passes session activity after (move.remaining activity) := by
  have passes : trace.Passes session activity (session.step activity).1
      ((session.step activity).2.remaining activity) := trace.passes_step shaped
  rwa [moves] at passes

namespace Session

/-- An answer changes nothing but the variables, and leaves nothing more to do. -/
theorem answer_comes {activity : Activity} {prompt name : String} (session : Session)
    (awaits : activity.stage = .awaiting prompt name) (line : String) :
    ∃ memory stage, session.answer activity line =
      ({ session with memory }, activity.inStage stage) ∧ stage.IsLate := by
  unfold answer
  rw [awaits]
  simp only
  split
  · exact ⟨_, _, rfl, trivial⟩
  · split
    · exact ⟨_, _, rfl, trivial⟩
    · exact ⟨session.memory, _, rfl, trivial⟩

/-- A pending jump is one that an activity has left just now. -/
def Aims (session : Session) (activity : Activity) : Prop :=
  session.jump ≠ none → Trace.jump.keeper activity ∧ activity.stage.IsLate

section Jumps

variable {typed : String → Prop} {session after : Session} {activity following : Activity}
  {effects : List Effect}

theorem Aims.straight (aims : session.Aims activity) (early : ¬activity.stage.IsLate) :
    session.jump = none := by
  by_contra leads
  exact early (aims leads).2

/-- What becomes of a jump by a move: only what goes on has one to follow. -/
theorem Aims.passes {remaining : List Activity} (aims : session.Aims activity)
    (passes : Trace.jump.Passes session activity after remaining) (leads : after.jump ≠ none) :
    ∃ other ∈ remaining, Trace.jump.keeper other :=
  (passes leads).resolve_right fun before => before.2 (aims before.1).1

/-- **Each stage before the late ones leaves no jump to follow.** -/
theorem straight_step (aims : session.Aims activity)
    (moves : session.step activity = (after, .next following effects))
    (early : ¬following.stage.IsLate) : after.jump = none := by
  cases moves_of_step moves with
  | read stage reads =>
    have straight : session.jump = none := aims.straight (by rw [stage]; exact id)
    cases reads <;> exact straight
  | begins => rfl
  | takes stage => exact aims.straight (by rw [stage]; exact id)
  | goesOn _ _ straight => exact straight
  | jumps => rfl
  | @asked statement _ _ _ stage comes =>
    have straight : session.jump = none := aims.straight (by rw [stage]; exact id)
    have executes := session.executes statement
    rw [comes] at executes
    cases executes
    exact straight
  | @started statement _ stage comes =>
    have straight : session.jump = none := aims.straight (by rw [stage]; exact id)
    have executes := session.executes statement
    rw [comes] at executes
    cases executes
    exact straight
  | _ => exact absurd trivial early

theorem aims_step (aims : session.Aims activity) (shaped : activity.Shaped typed)
    (moves : session.step activity = (after, .next following effects)) :
    after.Aims following := by
  intro leads
  obtain ⟨other, member, kept⟩ := aims.passes (Trace.passes_of_step shaped moves) leads
  cases List.mem_singleton.mp member
  refine ⟨kept, ?_⟩
  by_contra early
  exact leads (straight_step aims moves early)

end Jumps

end Session


namespace Sitting

/-- In a sitting a pending jump is one that the latest activity has left just now. -/
def Aims (sitting : Sitting) : Prop :=
  sitting.session.jump ≠ none → ∃ activity ∈ sitting.activities.head?, sitting.session.Aims activity

section Jumps

variable {allowed : Call → Prop} {typed : String → Prop} {session : Session} {activity : Activity}
  {others : List Activity} {before after sitting : Sitting}

theorem Aims.latest (aims : Aims ⟨session, activity :: others⟩) : session.Aims activity := by
  intro leads
  obtain ⟨_, ⟨⟩, latest⟩ := aims leads
  exact latest leads

theorem aims_cons (aims : session.Aims activity) : Aims ⟨session, activity :: others⟩ :=
  fun _ => ⟨activity, rfl, aims⟩

theorem aims_of_straight (straight : sitting.session.jump = none) : sitting.Aims :=
  fun leads => absurd straight leads

/-- While what is under way waits for a line, no jump is pending. -/
theorem Aims.straight_of_rests (aims : sitting.Aims) (rests : sitting.Rests) :
    sitting.session.jump = none := by
  by_contra leads
  obtain ⟨activity, latest, aims⟩ := aims leads
  obtain ⟨prompt, name, awaits⟩ := rests activity latest
  have late := (aims leads).2
  rw [awaits] at late
  exact late

/-- What is over or broken off leaves no jump. -/
theorem aims_of_passes {later : Session} (aims : session.Aims activity)
    (passes : Trace.jump.Passes session activity later []) : Aims ⟨later, others⟩ := by
  intro leads
  obtain ⟨_, impossible, _⟩ := aims.passes passes leads
  cases impossible

/-- What the latest activity of a sitting leaves a trace of passes it on in its next step. -/
theorem passes_of_latest {trace : Trace} {later : Session} {move : Move}
    (shaped : ∀ other ∈ activity :: others, other.Shaped typed)
    (moves : session.step activity = (later, move)) :
    trace.Passes session activity later (move.remaining activity) :=
  Trace.passes_of_step (shaped _ List.mem_cons_self) moves

/-- **One step keeps a jump for the latest activity.** -/
theorem aims_step (aims : before.Aims) (shaped : ∀ other ∈ before.activities, other.Shaped typed)
    (step : Step allowed before after) : after.Aims := by
  cases step with
  | called rests call =>
    have straight := aims.straight_of_rests rests
    cases call <;> exact aims_of_straight straight
  | advanced moves =>
    exact aims_cons (Session.aims_step aims.latest (shaped _ List.mem_cons_self) moves)
  | undelivered moves =>
    exact aims_of_passes aims.latest (passes_of_latest shaped moves).abandoned
  | @answered session activity others prompt name awaits line =>
    have straight : session.jump = none := aims.latest.straight (by rw [awaits]; exact id)
    obtain ⟨memory, stage, comes, _⟩ := session.answer_comes awaits line
    rw [comes]
    exact aims_of_straight straight
  | unanswered awaits =>
    exact aims_of_passes aims.latest (Trace.passes_of_same id id).abandoned
  | finished ends => exact aims_of_passes aims.latest (passes_of_latest shaped ends)
  | failed ends => exact aims_of_passes aims.latest (passes_of_latest shaped ends)
  | faulted breaks => exact aims_of_passes aims.latest (passes_of_latest shaped breaks).abandoned

/-- **In every sitting a pending jump is one that the latest activity has left just now.** -/
theorem aims_of_reached (reached : Reached allowed sitting) : sitting.Aims := by
  induction reached with
  | start => exact aims_of_straight rfl
  | step reached step hypothesis =>
    exact aims_step hypothesis (orderly_of_reached reached).shaped step

end Jumps

/-! ### What happens while something waits -/

/-- If a line is about to be read, it deletes none that is stored. -/
def Retains (sitting : Sitting) : Prop :=
  ∀ activity ∈ sitting.activities.head?, ∀ line read number, activity.stage = .read line →
    tokens line = .ok read → Parser.line read = .ok (.programLine number .empty) →
    sitting.session.program.find? number = none

/-- Whether the statement that is about to be executed ends what is running. -/
def Clears (sitting : Sitting) : Prop :=
  sitting.session.running = true ∧ ∃ activity ∈ sitting.activities.head?, ∃ statement,
    activity.stage = .execute statement ∧ statement.Ends sitting.session.memory

/-- **What happens while something waits**: lines are typed, other lines while these wait, and no
stored line is deleted. The activities are those since, and the steps so far are listed by what
they started from, the latest first. -/
inductive Interlude (session : Session) : List Sitting → Sitting → Prop where
  | opening : Interlude session [] ⟨session, []⟩
  | step {past : List Sitting} {before after : Sitting}
      (interlude : Interlude session past before) (retains : before.Retains)
      (step : Step (fun call => ∃ line, call = .line line) before after) :
      Interlude session (before :: past) after

section Interludes

variable {allowed : Call → Prop} {typed : String → Prop} {session : Session} {activity : Activity}
  {others waiting : List Activity} {past : List Sitting} {before after sitting : Sitting}

/-- A step in front of activities that wait is a step of the whole sitting. -/
theorem Step.inFront (rests : Rests ⟨session, waiting⟩)
    (step : Step allowed before after) :
    Step (fun _ => True) { before with activities := before.activities ++ waiting }
      { after with activities := after.activities ++ waiting } := by
  cases step with
  | called resting call =>
    have whole : Rests { before with activities := before.activities ++ waiting } := by
      intro other latest
      cases shape : before.activities with
      | nil =>
        rw [shape] at latest
        exact rests other latest
      | cons first rest =>
        rw [shape] at latest
        exact resting other (shape ▸ latest)
    have called : Step (fun _ => True) _ _ := .called whole call trivial
    cases call <;> exact called
  | advanced moves => exact .advanced moves
  | undelivered moves some => exact .undelivered moves some
  | answered awaits line => exact .answered awaits line
  | unanswered awaits => exact .unanswered awaits
  | finished ends => exact .finished ends
  | failed ends => exact .failed ends
  | faulted breaks => exact .faulted breaks

/-- What happens while something waits happens to the whole sitting. -/
theorem Interlude.reached (interlude : Interlude session past sitting)
    (reached : Reached (fun _ => True) ⟨session, waiting⟩) (rests : Rests ⟨session, waiting⟩) :
    Reached (fun _ => True) { sitting with activities := sitting.activities ++ waiting } := by
  induction interlude with
  | opening => exact reached
  | step _ _ step hypothesis => exact hypothesis.step (step.inFront rests)

/-- **What holds until the program that waits is ended**: it runs, nothing else does, and the lines
that were stored when it began to wait are stored. -/
structure Undisturbed (session : Session) (sitting : Sitting) : Prop where
  running : sitting.session.running = true
  outside : ∀ activity ∈ sitting.activities, activity.cursor = none ∧ activity.stage ≠ .begin
  stored : ∀ number, session.program.find? number ≠ none →
    sitting.session.program.find? number ≠ none

variable {current later : Session} {move : Move}

/-- What is undisturbed stays so where it runs on, and the program keeps its lines. -/
theorem Undisturbed.follow {remaining : List Activity}
    (undisturbed : Undisturbed session ⟨current, activity :: others⟩)
    (running : later.running = current.running)
    (outside : ∀ other ∈ remaining, other.cursor = none ∧ other.stage ≠ .begin)
    (kept : ∀ number, current.program.find? number ≠ none → later.program.find? number ≠ none) :
    Undisturbed session ⟨later, remaining ++ others⟩ where
  running := running.trans undisturbed.running
  outside other member := by
    rcases List.mem_append.mp member with here | outer
    · exact outside other here
    · exact (List.forall_mem_cons.mp undisturbed.outside).2 other outer
  stored number found := kept number (undisturbed.stored number found)

/-- Reading a line deletes nothing that is stored. -/
theorem Undisturbed.kept_reads {line : String} (retains : Retains ⟨current, activity :: others⟩)
    (stage : activity.stage = .read line) (reads : current.ReadsLine activity line (later, move)) :
    later.running = current.running ∧
      ∀ number, current.program.find? number ≠ none → later.program.find? number ≠ none := by
  cases reads with
  | @erased read number isRead parsed =>
    refine ⟨rfl, fun other found => ?_⟩
    rw [Program.find?_erase]
    split
    · next same =>
      rw [same] at found
      exact absurd (retains activity rfl line read number stage isRead parsed) found
    · exact found
  | @stored read number statement =>
    refine ⟨rfl, fun other found => ?_⟩
    rw [Program.find?_insert]
    split
    · exact nofun
    · exact found
  | _ => exact ⟨rfl, fun _ => id⟩

/-- **Outside a run, what ends nothing starts nothing either**, and deletes nothing. -/
theorem undisturbed_move (undisturbed : Undisturbed session ⟨current, activity :: others⟩)
    (retains : Retains ⟨current, activity :: others⟩)
    (runsOn : ¬Clears ⟨current, activity :: others⟩)
    (moves : current.step activity = (later, move)) :
    Undisturbed session ⟨later, move.remaining activity ++ others⟩ := by
  obtain ⟨⟨outside, early⟩, _⟩ := List.forall_mem_cons.mp undisturbed.outside
  have stays : ∀ other ∈ [activity], other.cursor = none ∧ other.stage ≠ .begin := by
    simpa using ⟨outside, early⟩
  have goesTo : ∀ {stage : Stage}, stage ≠ .begin →
      ∀ other ∈ [activity.inStage stage], other.cursor = none ∧ other.stage ≠ .begin := by
    intro stage other
    simpa [Activity.inStage] using ⟨outside, other⟩
  have executed : ∀ {statement : Node} {result : Session × Outcome},
      activity.stage = .execute statement → current.execute statement = result →
      result.1.running = current.running ∧ ∀ number, current.program.find? number ≠ none →
        result.1.program.find? number ≠ none := by
    rintro statement result stage rfl
    have goesOn : ¬statement.Ends current.memory := fun ends =>
      runsOn ⟨undisturbed.running, activity, rfl, statement, stage, ends⟩
    refine ⟨Session.running_execute goesOn, fun number found => ?_⟩
    rwa [Session.program_execute fun memory comes => goesOn ⟨_, memory, comes, .inr rfl⟩]
  have inRun : ∀ {cursor : Cursor} {goal : Prop}, activity.cursor = some cursor → goal := by
    intro cursor goal inside
    cases outside.symm.trans inside
  cases Session.moves_of_step moves with
  | read stage reads =>
    obtain ⟨running, kept⟩ := Undisturbed.kept_reads retains stage reads
    refine undisturbed.follow running ?_ kept
    cases reads with
    | blank => exact List.forall_mem_nil _
    | unreadable => exact stays
    | _ => exact goesTo (by rintro ⟨⟩)
  | done stage comes =>
    obtain ⟨running, kept⟩ := executed stage comes
    exact undisturbed.follow running (goesTo (by rintro ⟨⟩)) kept
  | failed stage comes =>
    obtain ⟨running, kept⟩ := executed stage comes
    exact undisturbed.follow running (goesTo (by rintro ⟨⟩)) kept
  | broken stage comes =>
    obtain ⟨running, kept⟩ := executed stage comes
    exact undisturbed.follow running stays kept
  | asked stage comes =>
    obtain ⟨running, kept⟩ := executed stage comes
    exact undisturbed.follow running (goesTo (by rintro ⟨⟩)) kept
  | @started statement _ stage comes =>
    -- a program is started only where none is running
    have executes := current.executes statement
    rw [comes] at executes
    cases executes with
    | started memory reads idle => cases idle.symm.trans undisturbed.running
  | nothing stage => exact absurd stage early
  | begins stage => exact absurd stage early
  | awaits => exact undisturbed.follow rfl stays fun _ => id
  | told => exact undisturbed.follow rfl (goesTo (by rintro ⟨⟩)) fun _ => id
  | handedOn => exact undisturbed.follow rfl (List.forall_mem_nil _) fun _ => id
  | ends =>
    obtain ⟨running, program⟩ := current.leaveLine_keeps activity
    exact undisturbed.follow running (List.forall_mem_nil _) fun number => by rw [program]; exact id
  | leaves _ inside => exact inRun inside
  | misses _ inside => exact inRun inside
  | takes _ inside => exact inRun inside
  | goesOn _ inside => exact inRun inside
  | strays _ inside => exact inRun inside
  | jumps _ inside => exact inRun inside
  | reported _ inside => exact inRun inside
  | left _ inside => exact inRun inside

/-- What breaks off outside a run leaves a program undisturbed. -/
theorem Undisturbed.brokenOff (undisturbed : Undisturbed session ⟨current, activity :: others⟩) :
    Undisturbed session ⟨(current.abandon activity).1, others⟩ := by
  obtain ⟨⟨outside, _⟩, _⟩ := List.forall_mem_cons.mp undisturbed.outside
  obtain ⟨running, program⟩ := Session.abandon_keeps outside
  exact undisturbed.follow running (List.forall_mem_nil _) fun number => by rw [program]; exact id

/-- **A step that ends nothing leaves a program undisturbed.** -/
theorem undisturbed_step (undisturbed : before.Undisturbed session) (retains : before.Retains)
    (runsOn : ¬before.Clears) (step : Step (fun call => ∃ line, call = .line line) before after) :
    after.Undisturbed session := by
  cases step with
  | called rests call permitted =>
    obtain ⟨line, rfl⟩ := permitted
    exact { undisturbed with
      outside := List.forall_mem_cons.mpr ⟨⟨rfl, nofun⟩, undisturbed.outside⟩ }
  | advanced moves => exact undisturbed_move undisturbed retains runsOn moves
  | undelivered moves => exact (undisturbed_move undisturbed retains runsOn moves).brokenOff
  | @answered current activity others prompt name awaits line =>
    obtain ⟨⟨outside, _⟩, _⟩ := List.forall_mem_cons.mp undisturbed.outside
    obtain ⟨memory, stage, comes, late⟩ := current.answer_comes awaits line
    have early : stage ≠ .begin := by
      rintro rfl
      exact late
    have goesOn : ∀ other ∈ [activity.inStage stage],
        other.cursor = none ∧ other.stage ≠ .begin :=
      List.forall_mem_singleton.mpr ⟨outside, early⟩
    have follows : Undisturbed session
        ⟨{ current with memory }, [activity.inStage stage] ++ others⟩ :=
      undisturbed.follow rfl goesOn fun _ => id
    rw [comes]
    exact follows
  | unanswered => exact undisturbed.brokenOff
  | finished ends => exact undisturbed_move undisturbed retains runsOn ends
  | failed ends => exact undisturbed_move undisturbed retains runsOn ends
  | faulted breaks => exact (undisturbed_move undisturbed retains runsOn breaks).brokenOff

/-- After a step that ends what is running, nothing is running. -/
theorem running_of_clears (clears : before.Clears) (step : Step allowed before after) :
    after.session.running = false := by
  obtain ⟨_, activity, latest, statement, stage, isEnd⟩ := clears
  have executing : ∀ {session later : Session} {other : Activity} {others : List Activity}
      {move : Move}, before = ⟨session, other :: others⟩ → session.step other = (later, move) →
      later.running = false := by
    rintro session later other others move rfl moves
    cases latest
    rw [show later = _ from (congrArg Prod.fst moves).symm, Session.step_execute stage]
    exact Session.running_of_ends isEnd
  have waiting : ∀ {session : Session} {other : Activity} {others : List Activity}
      {prompt name : String}, before = ⟨session, other :: others⟩ →
      other.stage ≠ .awaiting prompt name := by
    rintro session other others prompt name rfl awaits
    cases latest
    cases stage.symm.trans awaits
  cases step with
  | called rests =>
    obtain ⟨prompt, name, awaits⟩ := rests activity latest
    cases stage.symm.trans awaits
  | advanced moves => exact executing rfl moves
  | undelivered moves => exact Session.running_abandon (executing rfl moves)
  | answered awaits => exact absurd awaits (waiting rfl)
  | unanswered awaits => exact absurd awaits (waiting rfl)
  | finished ends => exact executing rfl ends
  | failed ends => exact executing rfl ends
  | faulted breaks => exact Session.running_abandon (executing rfl breaks)

/-- **What is running has a run among the activities that keeps it**, after every step as before. -/
theorem accounted_step {trace : Trace} (accounted : trace.Accounted before)
    (shaped : ∀ other ∈ before.activities, other.Shaped typed)
    (step : Step (fun call => ∃ line, call = .line line) before after) : trace.Accounted after := by
  cases step with
  | called rests call permitted =>
    obtain ⟨line, rfl⟩ := permitted
    intro isLeft
    obtain ⟨other, member, kept⟩ := accounted isLeft
    exact ⟨other, List.mem_cons_of_mem _ member, kept⟩
  | advanced moves => exact Trace.accounted_of_passes accounted (passes_of_latest shaped moves)
  | undelivered moves =>
    exact Trace.accounted_of_passes accounted (passes_of_latest shaped moves).abandoned
  | answered awaits line => exact Trace.accounted_of_passes accounted (Trace.passes_answer line)
  | unanswered =>
    exact Trace.accounted_of_passes accounted (Trace.passes_of_same id id).abandoned
  | finished ends => exact Trace.accounted_of_passes accounted (passes_of_latest shaped ends)
  | failed ends => exact Trace.accounted_of_passes accounted (passes_of_latest shaped ends)
  | faulted breaks =>
    exact Trace.accounted_of_passes accounted (passes_of_latest shaped breaks).abandoned

/-- **What an interlude comes to**: nothing has ended the program that waits, which is undisturbed,
or something has, and what is running since then has been started since. -/
theorem Interlude.passes (interlude : Interlude session past sitting)
    (reached : Reached (fun _ => True) ⟨session, waiting⟩) (rests : Rests ⟨session, waiting⟩)
    (running : session.running = true) :
    ((∀ moment ∈ past, ¬moment.Clears) ∧ sitting.Undisturbed session) ∨
      ((∃ moment ∈ past, moment.Clears) ∧ Trace.running.Accounted sitting) := by
  induction interlude with
  | opening => exact .inl ⟨List.forall_mem_nil _, running, List.forall_mem_nil _, fun _ => id⟩
  | @step past before after interlude retains step hypothesis =>
    rcases hypothesis with ⟨runsOn, undisturbed⟩ | ⟨⟨moment, member, clears⟩, accounted⟩
    · by_cases clears : before.Clears
      · refine .inr ⟨⟨before, List.mem_cons_self, clears⟩, fun isLeft => ?_⟩
        cases (running_of_clears clears step).symm.trans isLeft
      · exact .inl ⟨List.forall_mem_cons.mpr ⟨clears, runsOn⟩,
          undisturbed_step undisturbed retains clears step⟩
    · refine .inr ⟨⟨moment, List.mem_cons_of_mem _ member, clears⟩, ?_⟩
      have orderly := orderly_of_reached (interlude.reached reached rests)
      exact accounted_step accounted
        (fun other member => orderly.shaped other (List.mem_append_left _ member)) step

/-- When an interlude is over, nothing is running exactly if something in it has ended the program
that waits: what was started since has ended as well. -/
theorem Interlude.idle_iff {last : Session} (interlude : Interlude session past ⟨last, []⟩)
    (reached : Reached (fun _ => True) ⟨session, waiting⟩) (rests : Rests ⟨session, waiting⟩)
    (running : session.running = true) :
    last.running = false ↔ ∃ moment ∈ past, moment.Clears := by
  rcases interlude.passes reached rests running with ⟨runsOn, undisturbed⟩ | ⟨cleared, accounted⟩
  · have runs : last.running = true := undisturbed.running
    constructor
    · intro idle
      cases idle.symm.trans runs
    · rintro ⟨moment, member, clears⟩
      exact absurd clears (runsOn moment member)
  · refine ⟨fun _ => cleared, fun _ => Bool.eq_false_iff.mpr fun runs => ?_⟩
    obtain ⟨_, impossible, _⟩ := accounted runs
    cases impossible

/-- When an interlude is over and the program that waits goes on, its lines are stored still. -/
theorem Interlude.keeps_lines {last : Session} (interlude : Interlude session past ⟨last, []⟩)
    (reached : Reached (fun _ => True) ⟨session, waiting⟩) (rests : Rests ⟨session, waiting⟩)
    (running : session.running = true) (runs : last.running = true) {number : Int}
    (stored : session.program.find? number ≠ none) : last.program.find? number ≠ none := by
  rcases interlude.passes reached rests running with ⟨_, undisturbed⟩ | ⟨_, accounted⟩
  · exact undisturbed.stored number stored
  · obtain ⟨_, impossible, _⟩ := accounted runs
    cases impossible

end Interludes

end Sitting

/-! ### How the program goes on -/

/-- A run that is about to take up the line after the one under its cursor. -/
def Activity.onward (immediate : Bool) (cursor : Cursor) : Activity :=
  ⟨immediate, some { cursor with index := cursor.index + 1 }, .select⟩

namespace Sitting

section Resuming

variable {others : List Activity} {past : List Sitting} {before session after resumed : Session}
  {immediate : Bool} {cursor : Cursor} {line : Int} {entry : Entry} {prompt name text : String}

/-- A program that comes to a line that asks waits there, still running. -/
theorem Reached.waits
    (reached : Reached (fun _ => True) ⟨before, ⟨immediate, some cursor, .select⟩ :: others⟩)
    (under : before.underCursor cursor = some line)
    (found : before.program.find? line = some entry)
    (asks : Session.execute entry.statement { before with current := some line } =
      (session, .ask prompt name)) :
    Reached (fun _ => True) ⟨session, ⟨immediate, some cursor, .awaiting prompt name⟩ :: others⟩ ∧
      session.running = true := by
  have takes : before.step ⟨immediate, some cursor, .select⟩ =
      ({ before with current := some line },
        .next ⟨immediate, some cursor, .execute entry.statement⟩ []) := by
    simp only [Session.step, Session.selectLine, under, found, Activity.inStage]
  have waits : Session.step { before with current := some line }
      ⟨immediate, some cursor, .execute entry.statement⟩ =
      (session, .next ⟨immediate, some cursor, .awaiting prompt name⟩ []) := by
    simp only [Session.step, Session.executeStage, asks, Activity.inStage]
  refine ⟨(reached.step (.advanced takes)).step (.advanced waits), ?_⟩
  have running : before.running = true := by
    unfold Session.underCursor at under
    split at under
    · assumption
    · cases under
  have executes := Session.executes entry.statement { before with current := some line }
  rw [asks] at executes
  cases executes
  exact running

/-- **A program that waits keeps its place**, whatever is done meanwhile, as long as no stored line
is deleted. When it comes to a line that asks, and its answer is taken, it goes on behind that line
among the lines that it started with. It stops there if it was ended meanwhile, and that is exactly
if an `END` or a `NEW` was executed while it ran; it stops too if there is no line any more. Else it
takes up the next line, unless that one was not stored any more when it began to wait. -/
theorem suspended_keeps_place
    (reached : Reached (fun _ => True) ⟨before, ⟨immediate, some cursor, .select⟩ :: others⟩)
    (under : before.underCursor cursor = some line)
    (found : before.program.find? line = some entry)
    (asks : Session.execute entry.statement { before with current := some line } =
      (session, .ask prompt name))
    (interlude : Interlude session past ⟨after, []⟩)
    (accepted : after.answer ⟨immediate, some cursor, .awaiting prompt name⟩ text =
      (resumed, ⟨immediate, some cursor, .completed⟩)) :
    resumed.step ⟨immediate, some cursor, .completed⟩ =
        (resumed, .next (.onward immediate cursor) []) ∧
      (resumed.running = false ↔ ∃ moment ∈ past, moment.Clears) ∧
      (resumed.running = false ∨ cursor.lines[cursor.index + 1]? = none →
        resumed.step (.onward immediate cursor) =
          (resumed, .next ((Activity.onward immediate cursor).inStage .stopped) [])) ∧
      ∀ following, resumed.running = true → cursor.lines[cursor.index + 1]? = some following →
        (∃ later, resumed.program.find? following = some later ∧
          resumed.step (.onward immediate cursor) =
            ({ resumed with current := some following },
              .next ((Activity.onward immediate cursor).inStage (.execute later.statement)) [])) ∨
        session.program.find? following = none ∧
          resumed.step (.onward immediate cursor) =
            ({ resumed with current := some following }, .fault (.missingLine following)) := by
  obtain ⟨waits, running⟩ := reached.waits under found asks
  have rests : Rests ⟨session, ⟨immediate, some cursor, .awaiting prompt name⟩ :: others⟩ :=
    rests_awaiting
  have aims := aims_of_reached (interlude.reached waits rests)
  have straight : after.jump = none := aims.straight_of_rests rests_awaiting
  have awaits : (Activity.mk immediate (some cursor) (.awaiting prompt name)).stage =
      .awaiting prompt name := rfl
  obtain ⟨memory, stage, comes, _⟩ := after.answer_comes awaits text
  have same : resumed = { after with memory } := congrArg Prod.fst (accepted.symm.trans comes)
  subst same
  refine ⟨?_, interlude.idle_iff waits rests running, fun nowhere => ?_,
    fun following runs place => ?_⟩
  · simp only [Session.step, Session.advance, straight, Activity.onward]
  · have none : Session.underCursor { after with memory }
        { cursor with index := cursor.index + 1 } = none := by
      unfold Session.underCursor
      split
      · next runs => exact nowhere.resolve_left (Bool.not_eq_false _ ▸ runs)
      · rfl
    simp only [Session.step, Session.selectLine, Activity.onward, none]
  · have under : Session.underCursor { after with memory }
        { cursor with index := cursor.index + 1 } = some following := by
      unfold Session.underCursor
      rw [if_pos runs]
      exact place
    cases gone : after.program.find? following with
    | some later =>
      refine .inl ⟨later, rfl, ?_⟩
      simp only [Session.step, Session.selectLine, Activity.onward, under, gone]
    | none =>
      refine .inr ⟨?_, ?_⟩
      · by_contra stored
        exact interlude.keeps_lines waits rests running runs stored gone
      · simp only [Session.step, Session.selectLine, Activity.onward, under, gone]

/-- What reads no line deletes none. -/
theorem retains_of_unread {activity : Activity} (unread : ∀ line, activity.stage ≠ .read line) :
    Retains ⟨session, activity :: others⟩ := by
  rintro _ ⟨⟩ line read number stage
  exact absurd stage (unread line)

/-- While something waits, a jump to a line that is stored is typed. -/
theorem Interlude.typedGoto (found : session.program.find? 10 = some entry) :
    ∃ past, Interlude session past ⟨{ session with jump := none }, []⟩ ∧
      ∃ moment ∈ past, moment.session.jump = some ⟨10, false⟩ := by
  have isRead : tokens "GOTO 10" =
      .ok [⟨.keyword "GOTO", 0⟩, ⟨.number (.int 10), 5⟩, ⟨.endOfLine, 7⟩] := by cbv
  have parsed : Parser.line [⟨.keyword "GOTO", 0⟩, ⟨.number (.int 10), 5⟩, ⟨.endOfLine, 7⟩] =
      .ok (.goto 10) := by cbv
  have retains : Retains ⟨session, [.ofLine "GOTO 10"]⟩ := by
    rintro _ ⟨⟩ line read number ⟨⟩ isRead' parsed'
    cases isRead.symm.trans isRead'
    cases parsed.symm.trans parsed'
  have reads : session.step (.ofLine "GOTO 10") =
      (session, .next ⟨true, none, .execute (.goto 10)⟩ []) := by
    show session.readLine (.ofLine "GOTO 10") "GOTO 10" = _
    have inked : Text.isBlankLine "GOTO 10" = false := by decide
    simp only [Session.readLine, inked, isRead, parsed, Bool.false_eq_true, if_false,
      Activity.inStage, Activity.ofLine]
  have jumps : session.step ⟨true, none, .execute (.goto 10)⟩ =
      ({ session with jump := some ⟨10, false⟩ }, .next ⟨true, none, .completed⟩ []) := by
    simp only [Session.step, Session.executeStage, Session.execute, Session.executeGoto, found,
      Activity.inStage]
  have typed : Interlude session [⟨session, []⟩] ⟨session, [.ofLine "GOTO 10"]⟩ :=
    Interlude.opening.step (by rintro _ ⟨⟩) (.called rests_idle (.line "GOTO 10") ⟨_, rfl⟩)
  have jumped := (typed.step retains (.advanced reads)).step
    (retains_of_unread (by rintro _ ⟨⟩)) (.advanced jumps)
  have ended := jumped.step (retains_of_unread (by rintro _ ⟨⟩)) (.finished rfl)
  exact ⟨_, ended, _, List.mem_cons_self, rfl⟩

/-- A jump that is typed while a program waits does not move the program. -/
theorem suspended_keeps_place_goto :
    ∃ (past : List Sitting) (session after resumed : Session),
      Interlude session past ⟨after, []⟩ ∧
        (∃ moment ∈ past, moment.session.jump = some ⟨10, false⟩) ∧ resumed.running = true ∧
        resumed.step (.onward true ⟨[10, 20], 0⟩) =
          ({ resumed with current := some 20 },
            .next ((Activity.onward true ⟨[10, 20], 0⟩).inStage (.execute .stop)) []) := by
  have first : Careful (fun _ => True) _ := Careful.start.stored rests_idle isLine_input trivial
  have second := first.stored rests_idle isLine_end trivial
  obtain ⟨before, starts, under, found, kept⟩ : ∃ before : Session,
      Reached (fun _ => True) ⟨before, [⟨true, some ⟨[10, 20], 0⟩, .select⟩]⟩ ∧
        before.underCursor ⟨[10, 20], 0⟩ = some 10 ∧
        before.program.find? 10 = some ⟨"10 INPUT A$", .input "" "A$"⟩ ∧
        before.program.find? 20 = some ⟨"20 END", .stop⟩ :=
    ⟨_, (second.starting trivial rfl rfl).reached, rfl, rfl, rfl⟩
  have asks : Session.execute (.input "" "A$") { before with current := some 10 } =
      ({ before with current := some 10 }, .ask Session.defaultPrompt "A$") := rfl
  obtain ⟨past, interlude, jumped⟩ :=
    @Interlude.typedGoto { before with current := some 10 } _ found
  have running : before.running = true := (starts.waits under found asks).2
  obtain ⟨resumed, accepted, runs, stored⟩ : ∃ resumed : Session,
      Session.answer { before with current := some 10, jump := none }
        ⟨true, some ⟨[10, 20], 0⟩, .awaiting Session.defaultPrompt "A$"⟩ "X" =
          (resumed, ⟨true, some ⟨[10, 20], 0⟩, .completed⟩) ∧ resumed.running = true ∧
        resumed.program.find? 20 = some ⟨"20 END", .stop⟩ :=
    ⟨_, rfl, running, kept⟩
  obtain ⟨_, _, _, goesOn⟩ := suspended_keeps_place starts under found asks interlude accepted
  refine ⟨past, _, _, resumed, interlude, jumped, runs, ?_⟩
  rcases goesOn 20 runs rfl with ⟨later, found', takes⟩ | ⟨gone, _⟩
  · cases stored.symm.trans found'
    exact takes
  · cases kept.symm.trans gone

/-- A line that prints a word. -/
theorem isLine_print : Entry.IsLine 30 ⟨"30 PRINT \"DONE\"", .print [.string "DONE"] []⟩ := by
  have isRead : tokens "30 PRINT \"DONE\"" = .ok [⟨.number (.int 30), 0⟩, ⟨.keyword "PRINT", 3⟩,
      ⟨.string "DONE", 9⟩, ⟨.endOfLine, 15⟩] := by
    cbv
  have parsed : Parser.line [⟨.number (.int 30), 0⟩, ⟨.keyword "PRINT", 3⟩, ⟨.string "DONE", 9⟩,
      ⟨.endOfLine, 15⟩] = .ok (.programLine 30 (.print [.string "DONE"] [])) := by
    cbv
  exact ⟨by decide, by rintro ⟨⟩, _, isRead, parsed⟩

/-- Another line that asks for a text. -/
theorem isLine_inputAgain : Entry.IsLine 20 ⟨"20 INPUT B$", .input "" "B$"⟩ := by
  have isRead : tokens "20 INPUT B$" = .ok [⟨.number (.int 20), 0⟩, ⟨.keyword "INPUT", 3⟩,
      ⟨.identifier "B$", 9⟩, ⟨.endOfLine, 11⟩] := by
    cbv
  have parsed : Parser.line [⟨.number (.int 20), 0⟩, ⟨.keyword "INPUT", 3⟩,
      ⟨.identifier "B$", 9⟩, ⟨.endOfLine, 11⟩] = .ok (.programLine 20 (.input "" "B$")) := by
    cbv
  exact ⟨by decide, by rintro ⟨⟩, _, isRead, parsed⟩

/-- **A line that was deleted earlier is missed**: while a program waits at one line, a later one is
deleted; while it waits at the next line, nothing is typed; and it does not take up the line that
follows, although it is running. -/
theorem earlier_deletion_missed :
    ∃ (before session resumed : Session) (entry : Entry),
      Reached (fun call => ∃ line, call = .line line)
          ⟨before, [⟨true, some ⟨[10, 20, 30], 1⟩, .select⟩]⟩ ∧
        before.underCursor ⟨[10, 20, 30], 1⟩ = some 20 ∧ before.program.find? 20 = some entry ∧
        Session.execute entry.statement { before with current := some 20 } =
          (session, .ask "? " "B$") ∧
        Interlude session [] ⟨session, []⟩ ∧
        session.answer ⟨true, some ⟨[10, 20, 30], 1⟩, .awaiting "? " "B$"⟩ "Y" =
          (resumed, ⟨true, some ⟨[10, 20, 30], 1⟩, .completed⟩) ∧
        resumed.running = true ∧
        (resumed.step (.onward true ⟨[10, 20, 30], 1⟩)).2 = .fault (.missingLine 30) := by
  have isRead : tokens "30" = .ok [⟨.number (.int 30), 0⟩, ⟨.endOfLine, 2⟩] := by cbv
  have parsed : Parser.line [⟨.number (.int 30), 0⟩, ⟨.endOfLine, 2⟩] =
      .ok (.programLine 30 .empty) := by
    cbv
  have first : Careful (fun call => ∃ line, call = .line line) _ :=
    Careful.start.stored rests_idle isLine_input ⟨_, rfl⟩
  have second := first.stored rests_idle isLine_inputAgain ⟨_, rfl⟩
  have third := second.stored rests_idle isLine_print ⟨_, rfl⟩
  have waits := (third.asking ⟨_, rfl⟩ rfl rfl rfl).reached
  have erased := waits.erased rests_awaiting ⟨_, rfl⟩ rfl isRead parsed
  have answered := (erased.step (.answered rfl "X")).step (.advanced rfl)
  exact ⟨_, _, _, _, answered, rfl, rfl, rfl, .opening, rfl, rfl, rfl⟩

end Resuming

end Sitting

end LineBasic
