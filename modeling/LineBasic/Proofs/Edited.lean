/-
**A program that is edited while it waits.**

A run walks over the lines that were stored when it started. While it waits for a line of input,
lines may be typed that store other lines, delete some or throw the program away. Most of this a
run survives: lines that it has not started with do not concern it, a jump to one of them is
reported, and a program that was thrown away is not run any more. What it does not survive is that
a line is gone that it comes to, or that all lines are gone when it is to start over: this is not
reported but breaks it off, together with the line that was typed to run it.

* `fault_iff` — the three ways in which an activity comes to a fault;
* `Sitting.Careful` — a session in use in which no line is deleted that a run has started with;
* `keeps_step`, `proper_step` — what one step preserves, and `guarded_of_careful`, every sitting;
* `edits_survived` — where no fault and no failure gets past the one who uses the session;
* `deleted_lines_missed` — where one does.
-/

import LineBasic.Proofs.Rerun
import LineBasic.Proofs.Sitting
import LineBasic.Proofs.Typed

namespace LineBasic

/-! ### Faults -/

namespace Session

/-- **What an activity can come upon that nobody reports**: a line with an integer that cannot be
read, a line to take up that is not stored any more, and a program to start over that has no line
any more. -/
inductive Breaks (session : Session) (activity : Activity) : Fault → Prop where
  | unreadable {line : String} {count : Nat} (stage : activity.stage = .read line)
      (inked : Text.isBlankLine line = false)
      (unread : tokens line = .error (.tooManyDigits count)) :
      Breaks session activity (.tooManyDigits count)
  | missing {cursor : Cursor} {line : Int} (stage : activity.stage = .select)
      (inside : activity.cursor = some cursor) (under : session.underCursor cursor = some line)
      (gone : session.program.find? line = none) : Breaks session activity (.missingLine line)
  | emptied {statement : Node} {memory : Memory} (stage : activity.stage = .execute statement)
      (comes : statement.comesTo session.memory = some (.run, memory))
      (running : session.running = true) (gone : session.program.numbers = []) :
      Breaks session activity .noLines

section Faults

variable {session : Session} {activity : Activity} {fault : Fault}

/-- Of all statements only `RUN` can come to a fault. -/
theorem comesTo_of_fault {statement : Node}
    (breaks : (session.execute statement).2 = .fault fault) :
    ∃ memory, statement.comesTo session.memory = some (.run, memory) := by
  fun_induction execute statement session with
  | case1 items separators session =>
    unfold executePrint at breaks
    split at breaks <;> cases breaks
  | case2 name value session =>
    unfold executeAssign at breaks
    split at breaks <;> cases breaks
  | case5 condition statement session memory value evaluated holds hypothesis =>
    obtain ⟨memory', comes⟩ := hypothesis breaks
    refine ⟨memory', ?_⟩
    simpa only [Node.comesTo, evaluated, holds, if_true] using comes
  | case7 line session =>
    unfold executeGoto at breaks
    split at breaks <;> cases breaks
  | case8 name start limit step session =>
    unfold executeFor at breaks
    (repeat' split at breaks) <;> cases breaks
  | case9 name session =>
    unfold executeNext at breaks
    split at breaks
    · cases breaks
    · simp only at breaks
      (repeat' split at breaks) <;> cases breaks
  | case11 session => exact ⟨session.memory, rfl⟩
  | case12 first last session =>
    unfold executeList at breaks
    split at breaks <;> cases breaks
  | _ => cases breaks

/-- A statement comes to a fault only as a `RUN` in a running program without lines. -/
theorem execute_fault {statement : Node} (breaks : (session.execute statement).2 = .fault fault) :
    fault = .noLines ∧ session.running = true ∧ session.program.numbers = [] := by
  have executes := session.executes statement
  generalize session.execute statement = result at breaks executes
  cases executes with
  | stranded running numbers =>
    cases breaks
    exact ⟨rfl, running, numbers⟩
  | opened => cases breaks
  | _ => cases breaks

/-- A statement of an activity comes to the faults that it comes to on its own. -/
theorem executeStage_fault {statement : Node} :
    (session.executeStage activity statement).2 = .fault fault ↔
      (session.execute statement).2 = .fault fault := by
  unfold executeStage
  rcases session.execute statement with ⟨after, effects | cause | other | ⟨prompt, name⟩ | _⟩
  · exact ⟨nofun, nofun⟩
  · exact ⟨nofun, nofun⟩
  · exact ⟨fun same => congrArg Outcome.fault (Move.fault.inj same),
      fun same => congrArg Move.fault (Outcome.fault.inj same)⟩
  · exact ⟨nofun, nofun⟩
  · exact ⟨nofun, nofun⟩

/-- **An activity comes to a fault exactly where it comes upon what nobody reports.** -/
theorem fault_iff : (session.step activity).2 = .fault fault ↔ session.Breaks activity fault := by
  constructor
  · intro breaks
    unfold step at breaks
    split at breaks
    · next line stage =>
      unfold readLine at breaks
      split at breaks
      · cases breaks
      · next inked =>
        split at breaks
        · cases breaks
        · next count unread =>
          cases breaks
          exact .unreadable stage (Bool.not_eq_true _ ▸ inked) unread
        · split at breaks <;> cases breaks
    · unfold beginRun at breaks
      split at breaks <;> cases breaks
    · next statement stage =>
      have executed := executeStage_fault.mp breaks
      obtain ⟨rfl, running, gone⟩ := execute_fault executed
      obtain ⟨memory, comes⟩ := comesTo_of_fault executed
      exact .emptied stage comes running gone
    · cases breaks
    · next cursor stage inside =>
      unfold selectLine at breaks
      split at breaks
      · cases breaks
      · next line under =>
        split at breaks
        · next gone =>
          cases breaks
          exact .missing stage inside under gone
        · cases breaks
    · unfold advance at breaks
      (repeat' split at breaks) <;> cases breaks
    · unfold failStage at breaks
      (repeat' split at breaks) <;> cases breaks
    · cases breaks
    · cases breaks
    · cases breaks
    · cases breaks
  · intro breaks
    obtain ⟨immediate, cursor, stage⟩ := activity
    cases breaks with
    | unreadable stage inked unread =>
      cases stage
      simp only [step, readLine, inked, Bool.false_eq_true, if_false, unread]
    | missing stage inside under gone =>
      cases stage
      cases inside
      simp only [step, selectLine, under, gone]
    | emptied stage comes running gone =>
      cases stage
      refine executeStage_fault.mpr ((congrArg Prod.snd (session.execute_comesTo comes)).trans ?_)
      simp only [execute, executeRun, running, if_true, gone]

end Faults

end Session

/-! ### What activities are -/

/-- What holds of every activity: one that was started by a call is a run, and a failure can be
reported. -/
structure Activity.Proper (activity : Activity) : Prop where
  called : activity.immediate = false → activity.OfRun false
  reported : ∀ failure, activity.stage = .failed failure → failure.cause.IsReported

section Proper

variable {typed : String → Prop} {session : Session} {activity : Activity}

/-- A step of a proper activity goes on as one. -/
theorem Activity.proper_step (proper : activity.Proper) (shaped : activity.Shaped typed) :
    (session.step activity).2.GoesOn Activity.Proper := by
  have goes : Session.Goes activity (session.step activity) :=
    Session.goes_of_outside fun line stage => (shaped.reading line stage).2.1
  have runs := fun isOfRun : activity.OfRun false => session.ofRun_step isOfRun
  generalize session.step activity = result at goes runs ⊢
  rcases result with ⟨after, ⟨following, effects⟩ | prompt | _ | failure | fault⟩
  · exact ⟨fun called => runs (proper.called (goes.1.symm.trans called)), goes.2⟩
  · trivial
  · trivial
  · trivial
  · trivial

theorem Activity.proper_answer (proper : activity.Proper) (line : String) :
    (session.answer activity line).2.Proper where
  called immediate := by
    have same := Session.immediate_answer session activity line
    exact Session.ofRun_answer session (proper.called (same.symm.trans immediate)) line
  reported := Session.reported_answer proper.reported line

end Proper

/-! ### The lines of a run -/

/-- As long as anything is running, a run is under way, and the lines that it has started with are
stored. -/
def Session.Keeps (session : Session) (run : Option Cursor) : Prop :=
  session.running = true → ∃ cursor, run = some cursor ∧ cursor.lines ≠ [] ∧
    ∀ line ∈ cursor.lines, ∃ entry, session.program.find? line = some entry

/-- A line that is typed can be read, and deletes no line that a run under way has started with. -/
def Session.Spared (session : Session) (run : Option Cursor) (line : String) : Prop :=
  Readable line ∧ ∀ read number, tokens line = .ok read →
    Parser.line read = .ok (.programLine number .empty) →
    session.running = true → ∀ cursor, run = some cursor → number ∉ cursor.lines

namespace Session

section Keeps

variable {typed : String → Prop} {session after : Session} {activity : Activity}
  {run outer : Option Cursor}

/-- Nothing has to be kept where nothing is running. -/
theorem keeps_of_idle (idle : session.running = false) : session.Keeps run :=
  fun running => absurd (idle.symm.trans running) nofun

theorem Keeps.leaveLine (keeps : session.Keeps run) : (session.leaveLine activity).Keeps run := by
  unfold Session.leaveLine
  split
  · exact keeps
  · exact keeps

/-- What an activity leaves in a session that it is broken off in, it leaves to the others. -/
theorem Keeps.abandon (keeps : session.Keeps (activity.cursor.or outer)) :
    (session.abandon activity).1.Keeps outer := by
  unfold Session.abandon
  cases inside : activity.cursor with
  | some cursor => exact Keeps.leaveLine (keeps_of_idle rfl)
  | none =>
    rw [inside] at keeps
    exact keeps.leaveLine

theorem Keeps.answer (keeps : session.Keeps run) (line : String) :
    (session.answer activity line).1.Keeps run := by
  unfold Session.answer
  split
  · split
    · exact keeps
    · split <;> exact keeps
  · exact keeps

theorem cursor_answer (session : Session) (activity : Activity) (line : String) :
    (session.answer activity line).2.cursor = activity.cursor := by
  unfold Session.answer
  split
  · split
    · rfl
    · split <;> rfl
  · rfl

/-- What a step may come to while an outer run waits: the lines of the latest run are kept, and
nothing breaks or fails. -/
def Survives (outer : Option Cursor) : Session × Move → Prop
  | (after, .next following _) => after.Keeps (following.cursor.or outer)
  | (_, .ask _) => True
  | (after, .finished) => after.Keeps outer
  | (_, .failed _) => False
  | (_, .fault _) => False

theorem survives_readLine {line : String} (outside : activity.cursor = none)
    (keeps : session.Keeps outer) (spared : session.Spared outer line) :
    Survives outer (session.readLine activity line) := by
  have goesOn : ∀ {stage : Stage} {after : Session}, after.Keeps outer →
      after.Keeps ((activity.inStage stage).cursor.or outer) := by
    intro stage after keeps
    simpa only [Activity.inStage, outside, Option.none_or] using keeps
  unfold readLine
  split
  · exact keeps
  · split
    · exact goesOn keeps
    · next count unread => exact absurd unread (spared.1 count)
    · next read isRead =>
      split
      · exact goesOn keeps
      · next number statement parsed =>
        refine goesOn fun running => ?_
        have running' : session.running = true := by
          split at running <;> exact running
        obtain ⟨cursor, isOuter, inhabited, stored⟩ := keeps running'
        refine ⟨cursor, isOuter, inhabited, fun line member => ?_⟩
        obtain ⟨entry, found⟩ := stored line member
        split
        · have other : line ≠ number := by
            rintro rfl
            exact spared.2 read line isRead parsed running' cursor isOuter member
          exact ⟨entry, by rw [Program.find?_erase, if_neg other, found]⟩
        · by_cases same : line = number
          · exact ⟨_, by rw [Program.find?_insert, if_pos same]⟩
          · exact ⟨entry, by rw [Program.find?_insert, if_neg same, found]⟩
      · exact goesOn keeps

theorem survives_beginRun (keeps : session.Keeps (activity.cursor.or outer)) :
    Survives outer (session.beginRun activity) := by
  unfold beginRun
  split
  · exact keeps
  · next inhabited =>
    refine fun _ => ⟨_, rfl, ?_, fun line member => Program.mem_numbers_iff.mp member⟩
    exact fun empty => inhabited ((Program.isEmpty_iff_numbers _).mpr empty)

/-- **A statement keeps the lines of a run**: it starts nothing itself, and it throws the program
away only as it ends what is running. -/
theorem survives_execute {statement : Node}
    (keeps : session.Keeps (activity.cursor.or outer)) :
    Survives outer (session.executeStage activity statement) := by
  have follows : (session.execute statement).1.Keeps (activity.cursor.or outer) := by
    have executes := session.executes statement
    generalize session.execute statement = result at executes ⊢
    cases executes with
    | stopped => exact keeps_of_idle rfl
    | cleared => exact keeps_of_idle rfl
    | opened => exact keeps
    | _ => exact keeps
  have unbroken : ∀ fault, (session.execute statement).2 ≠ .fault fault := by
    intro fault breaks
    obtain ⟨_, running, gone⟩ := execute_fault breaks
    obtain ⟨cursor, _, inhabited, stored⟩ := keeps running
    obtain ⟨line, member⟩ := List.exists_mem_of_ne_nil _ inhabited
    have known : line ∈ session.program.numbers := Program.mem_numbers_iff.mpr (stored line member)
    rw [gone] at known
    cases known
  unfold executeStage
  rcases executed : session.execute statement with
    ⟨after, effects | cause | fault | ⟨prompt, name⟩ | _⟩
  all_goals rw [executed] at follows unbroken
  · exact follows
  · exact follows
  · exact absurd rfl (unbroken fault)
  · exact follows
  · exact follows

theorem survives_select {cursor : Cursor} (inside : activity.cursor = some cursor)
    (keeps : session.Keeps (activity.cursor.or outer)) :
    Survives outer (session.selectLine activity cursor) := by
  unfold selectLine
  split
  · exact keeps
  · next line under =>
    unfold underCursor at under
    split at under
    · next running =>
      obtain ⟨latest, isLatest, _, stored⟩ := keeps running
      rw [inside] at isLatest
      cases isLatest
      obtain ⟨entry, found⟩ := stored line (List.mem_of_getElem? under)
      rw [found]
      exact keeps
    · cases under

theorem survives_advance {cursor : Cursor} (inside : activity.cursor = some cursor)
    (keeps : session.Keeps (activity.cursor.or outer)) :
    Survives outer (session.advance activity cursor) := by
  -- the cursor moves, but over the same lines
  have moves : ∀ {after : Session} {index : Nat}, after.Keeps (activity.cursor.or outer) →
      after.Keeps ((some { cursor with index }).or outer) := by
    intro after index keeps running
    obtain ⟨latest, isLatest, stored⟩ := keeps running
    rw [inside] at isLatest
    cases isLatest
    exact ⟨_, rfl, stored⟩
  unfold advance
  split
  · exact moves keeps
  · split
    · exact keeps
    · exact moves keeps

theorem survives_fail (proper : activity.Proper) {failure : Failure}
    (stage : activity.stage = .failed failure)
    (keeps : session.Keeps (activity.cursor.or outer)) :
    Survives outer (session.failStage activity failure) := by
  unfold failStage
  split
  · exact keeps
  · next outside =>
    split
    · exact keeps
    · next called =>
      rcases (proper.called (Bool.not_eq_true _ ▸ called)).outside outside with begins | completed
      · exact absurd (stage.symm.trans begins) nofun
      · exact absurd (stage.symm.trans completed) nofun

/-- **A step keeps the lines of the latest run, and nothing breaks or fails**, if the line that is
read spares them. -/
theorem keeps_step (proper : activity.Proper) (shaped : activity.Shaped typed)
    (spared : ∀ line, activity.stage = .read line → session.Spared outer line)
    (keeps : session.Keeps (activity.cursor.or outer)) :
    Survives outer (session.step activity) := by
  have leaves : activity.cursor = none → (session.leaveLine activity).Keeps outer := by
    intro outside
    rw [outside] at keeps
    exact keeps.leaveLine
  unfold step
  split
  · next line stage =>
    obtain ⟨_, outside, _⟩ := shaped.reading line stage
    rw [outside] at keeps
    exact survives_readLine outside keeps (spared line stage)
  · exact survives_beginRun keeps
  · exact survives_execute keeps
  · trivial
  · next cursor _ inside => exact survives_select inside keeps
  · next cursor _ inside => exact survives_advance inside keeps
  · next failure stage => exact survives_fail proper stage keeps
  · exact keeps_of_idle rfl
  · next outside => exact leaves outside
  · next outside => exact leaves outside
  · next outside => exact leaves outside

end Keeps

end Session

/-! ### Careful use -/

namespace Sitting

/-- The latest run under way, if there is one. -/
def run? (sitting : Sitting) : Option Cursor :=
  sitting.activities.findSome? Activity.cursor

/-- If a line is about to be read, it spares the lines that the latest run has started with. -/
def Spares (sitting : Sitting) : Prop :=
  ∀ activity ∈ sitting.activities.head?, ∀ line, activity.stage = .read line →
    sitting.session.Spared sitting.run? line

/-- **A session in careful use** by some calls: however the calls end, each line that is typed
spares the lines of the run that waits meanwhile. -/
inductive Careful (allowed : Call → Prop) : Sitting → Prop where
  | start : Careful allowed start
  | step {before after : Sitting} (careful : Careful allowed before) (spares : before.Spares)
      (step : Step allowed before after) : Careful allowed after

/-- What holds of a session in careful use. -/
structure Guarded (sitting : Sitting) : Prop where
  proper : ∀ activity ∈ sitting.activities, activity.Proper
  keeps : sitting.session.Keeps sitting.run?

section Careful

variable {allowed : Call → Prop} {typed : String → Prop} {session after : Session}
  {activity following : Activity} {others : List Activity} {before sitting : Sitting}

theorem run?_cons (session : Session) (activity : Activity) (others : List Activity) :
    run? ⟨session, activity :: others⟩ = activity.cursor.or (others.findSome? Activity.cursor) := by
  simp only [run?, List.findSome?_cons]
  cases activity.cursor <;> rfl

theorem Careful.reached (careful : Careful allowed sitting) : Reached allowed sitting := by
  induction careful with
  | start => exact .start
  | step _ _ step hypothesis => exact hypothesis.step step

/-- The latest activity of a session in careful use survives its next step. -/
theorem Guarded.survives (guarded : Guarded ⟨session, activity :: others⟩)
    (shaped : activity.Shaped typed) (spares : Spares ⟨session, activity :: others⟩) :
    Session.Survives (others.findSome? Activity.cursor) (session.step activity) := by
  have proper := guarded.proper activity List.mem_cons_self
  have keeps := guarded.keeps
  rw [run?_cons] at keeps
  refine Session.keeps_step proper shaped (fun line stage => ?_) keeps
  obtain ⟨_, outside, _⟩ := shaped.reading line stage
  have spared := spares activity rfl line stage
  rw [run?_cons, outside, Option.none_or] at spared
  exact spared

/-- A call leaves a session in careful use guarded. -/
theorem Guarded.take (guarded : sitting.Guarded) (call : Call) : (sitting.take call).Guarded := by
  obtain ⟨session, activities⟩ := sitting
  cases call with
  | line line =>
    refine ⟨List.forall_mem_cons.mpr ⟨⟨nofun, nofun⟩, guarded.proper⟩, ?_⟩
    exact run?_cons session (.ofLine line) activities ▸ guarded.keeps
  | run =>
    have isOfRun : Activity.ofRun.OfRun false := ⟨rfl, nofun, fun _ => .inl rfl⟩
    refine ⟨List.forall_mem_cons.mpr ⟨⟨fun _ => isOfRun, nofun⟩, guarded.proper⟩, ?_⟩
    exact run?_cons session .ofRun activities ▸ guarded.keeps
  | startNew => exact ⟨guarded.proper, Session.keeps_of_idle rfl⟩
  | read name => exact ⟨guarded.proper, guarded.keeps⟩
  | assign name value => exact ⟨guarded.proper, guarded.keeps⟩

/-- **One step leaves a session in careful use guarded.** -/
theorem guarded_step (guarded : before.Guarded)
    (shaped : ∀ activity ∈ before.activities, activity.Shaped typed)
    (spares : before.Spares) (step : Step allowed before sitting) : sitting.Guarded := by
  cases step with
  | called rests call permitted => exact guarded.take call
  | @advanced session after activity following effects others moves =>
    have shape := shaped activity List.mem_cons_self
    have survives := guarded.survives shape spares
    obtain ⟨proper, outer⟩ := List.forall_mem_cons.mp guarded.proper
    have goesOn : (session.step activity).2.GoesOn Activity.Proper :=
      Activity.proper_step proper shape
    rw [moves] at survives goesOn
    exact ⟨List.forall_mem_cons.mpr ⟨goesOn, outer⟩, run?_cons after following others ▸ survives⟩
  | @undelivered session after activity following effects others moves some =>
    have survives := guarded.survives (shaped activity List.mem_cons_self) spares
    rw [moves] at survives
    exact ⟨(List.forall_mem_cons.mp guarded.proper).2, survives.abandon⟩
  | @answered session activity others prompt name awaits line =>
    obtain ⟨proper, outer⟩ := List.forall_mem_cons.mp guarded.proper
    refine ⟨List.forall_mem_cons.mpr ⟨Activity.proper_answer proper line, outer⟩, ?_⟩
    have keeps := guarded.keeps
    rw [run?_cons] at keeps ⊢
    rw [Session.cursor_answer]
    exact keeps.answer line
  | @unanswered session activity others prompt name awaits =>
    have keeps := guarded.keeps
    rw [run?_cons] at keeps
    exact ⟨(List.forall_mem_cons.mp guarded.proper).2, keeps.abandon⟩
  | @finished session after activity others ends =>
    have survives := guarded.survives (shaped activity List.mem_cons_self) spares
    rw [ends] at survives
    exact ⟨(List.forall_mem_cons.mp guarded.proper).2, survives⟩
  | @failed session after activity others failure ends =>
    have survives := guarded.survives (shaped activity List.mem_cons_self) spares
    rw [ends] at survives
    exact survives.elim
  | @faulted session after activity others fault breaks =>
    have survives := guarded.survives (shaped activity List.mem_cons_self) spares
    rw [breaks] at survives
    exact survives.elim

/-- **Every session in careful use is guarded.** -/
theorem guarded_of_careful (careful : Careful allowed sitting) : sitting.Guarded := by
  induction careful with
  | start => exact ⟨List.forall_mem_nil _, Session.keeps_of_idle rfl⟩
  | step careful spares step hypothesis =>
    exact guarded_step hypothesis (orderly_of_reached careful.reached).shaped spares step

/-- **What a program survives that is edited while it waits.** An activity comes to a fault exactly
where it comes upon a line that cannot be read, a line of its run that is gone, or an empty program
to start over. In careful use it comes to none of them: nothing breaks, nothing fails unreported,
and every failure is one that can be reported. -/
theorem edits_survived (allowed : Call → Prop) (session : Session) (activity : Activity)
    (others : List Activity) :
    (∀ fault, (session.step activity).2 = .fault fault ↔ session.Breaks activity fault) ∧
    (Careful allowed ⟨session, activity :: others⟩ → Spares ⟨session, activity :: others⟩ →
      (∀ fault, (session.step activity).2 ≠ .fault fault) ∧
        (∀ failure, (session.step activity).2 ≠ .failed failure) ∧
        ∀ failure, activity.stage = .failed failure → failure.cause.IsReported) := by
  refine ⟨fun fault => Session.fault_iff, fun careful spares => ?_⟩
  have guarded := guarded_of_careful careful
  have shaped := (orderly_of_reached careful.reached).shaped activity List.mem_cons_self
  have survives := guarded.survives shaped spares
  generalize session.step activity = result at survives ⊢
  rcases result with ⟨after, ⟨following, effects⟩ | prompt | _ | failure | fault⟩
  · exact ⟨nofun, nofun, (guarded.proper activity List.mem_cons_self).reported⟩
  · exact ⟨nofun, nofun, (guarded.proper activity List.mem_cons_self).reported⟩
  · exact ⟨nofun, nofun, (guarded.proper activity List.mem_cons_self).reported⟩
  · exact survives.elim
  · exact survives.elim

/-- What waits for a line spares everything. -/
theorem spares_of_rests (rests : Rests sitting) : Spares sitting := by
  intro activity latest line stage
  obtain ⟨prompt, name, awaits⟩ := rests activity latest
  cases stage.symm.trans awaits

/-- What is not about to be read spares everything. -/
theorem spares_of_unread (unread : ∀ line, activity.stage ≠ .read line) :
    Spares ⟨session, activity :: others⟩ := by
  rintro _ ⟨⟩ line stage
  exact absurd stage (unread line)

/-- A line that is typed spares what it does not delete. -/
theorem spares_ofLine {line : String} {read : List Token} (isRead : tokens line = .ok read)
    (other : ∀ number, Parser.line read = .ok (.programLine number .empty) →
      ∀ cursor, run? ⟨session, others⟩ = some cursor → number ∉ cursor.lines) :
    Spares ⟨session, .ofLine line :: others⟩ := by
  rintro _ ⟨⟩ _ ⟨⟩
  refine ⟨readable_of_tokens isRead, fun read' number isRead' parsed _ cursor isRun => ?_⟩
  cases isRead.symm.trans isRead'
  rw [run?_cons] at isRun
  exact other number parsed cursor isRun

/-- **It is always careful to store a line.** -/
theorem Careful.stored {number : Int} {entry : Entry}
    (careful : Careful allowed ⟨session, others⟩) (rests : Rests ⟨session, others⟩)
    (isLine : entry.IsLine number) (permitted : allowed (.line entry.source)) :
    Careful allowed
      ⟨{ session with program := session.program.insert number entry, jump := none }, others⟩ := by
  obtain ⟨read, isRead, parsed⟩ := isLine.reads
  have filled := isLine.filled
  have spares : Spares ⟨session, .ofLine entry.source :: others⟩ := by
    refine spares_ofLine isRead fun number' parsed' => ?_
    injection parsed.symm.trans parsed' with same
    injection same with _ empty
    exact absurd empty filled
  have called : Step allowed ⟨session, others⟩ ⟨session, .ofLine entry.source :: others⟩ :=
    .called rests (.line entry.source) permitted
  have reads := Session.step_ofLine session isLine
  exact ((careful.step (spares_of_rests rests) called).step spares (.advanced reads)).step
    (spares_of_unread (by rintro _ ⟨⟩)) (.finished rfl)

end Careful

end Sitting

/-- A bare number that is typed deletes the line under it. -/
theorem Session.step_bare (session : Session) {line : String} {read : List Token} {number : Int}
    (inked : Text.isBlankLine line = false) (isRead : tokens line = .ok read)
    (parsed : Parser.line read = .ok (.programLine number .empty)) :
    session.step (.ofLine line) =
      ({ session with program := session.program.erase number },
        .next ((Activity.ofLine line).inStage .completed) [.note (.deleted number)]) := by
  show session.readLine (.ofLine line) line = _
  unfold readLine
  simp only [inked, isRead, parsed, Bool.false_eq_true, if_false, store]

/-- `RUN` can be read. -/
theorem tokens_run : tokens "RUN" = .ok [⟨.keyword "RUN", 0⟩, ⟨.endOfLine, 3⟩] := by
  cbv

/-- `RUN` is a statement. -/
theorem Parser.line_run : Parser.line [⟨.keyword "RUN", 0⟩, ⟨.endOfLine, 3⟩] = .ok .run := by
  cbv

/-- A typed `RUN` is to be executed. -/
theorem Session.step_typedRun (session : Session) :
    session.step (.ofLine "RUN") = (session, .next ⟨true, none, .execute .run⟩ []) := by
  show session.readLine (.ofLine "RUN") "RUN" = _
  unfold readLine
  rw [tokens_run]
  simp only [Parser.line_run]
  rfl

namespace Sitting

section Asking

variable {allowed : Call → Prop} {session after : Session} {activity following : Activity}
  {others : List Activity} {effects : List Effect} {number : Int} {entry : Entry}
  {name : String} {later : List (Int × Entry)}

/-- Where nothing is under way, calls can be made. -/
theorem rests_idle : Rests ⟨session, []⟩ := by
  rintro _ ⟨⟩

/-- Where the latest activity waits for a line, calls can be made. -/
theorem rests_awaiting {immediate : Bool} {cursor : Option Cursor} {prompt : String} :
    Rests ⟨session, ⟨immediate, cursor, .awaiting prompt name⟩ :: others⟩ := by
  rintro _ ⟨⟩
  exact ⟨prompt, name, rfl⟩

/-- It is careful to go on with what reads no line. -/
theorem Careful.goesOn (careful : Careful allowed ⟨session, activity :: others⟩)
    (unread : ∀ line, activity.stage ≠ .read line)
    (moves : session.step activity = (after, .next following effects)) :
    Careful allowed ⟨after, following :: others⟩ :=
  careful.step (spares_of_unread unread) (.advanced moves)

/-- **A typed run comes to its first line.** -/
theorem Careful.starting (careful : Careful allowed ⟨session, []⟩)
    (permitted : allowed (.line "RUN")) (idle : session.running = false)
    (inhabited : session.program.isEmpty = false) :
    Careful allowed ⟨{ session.restarted with running := true },
      [⟨true, some ⟨session.program.numbers, 0⟩, .select⟩]⟩ := by
  have spares : Spares ⟨session, [.ofLine "RUN"]⟩ := by
    refine spares_ofLine tokens_run fun number' parsed => ?_
    rw [Parser.line_run] at parsed
    cases parsed
  have starts : session.step ⟨true, none, .execute .run⟩ =
      (session, .next ⟨true, none, .begin⟩ []) := by
    simp only [Session.step, Session.executeStage, Session.execute, Session.executeRun, idle,
      Bool.false_eq_true, if_false, Activity.inStage]
  have begins : session.step ⟨true, none, .begin⟩ =
      ({ session.restarted with running := true },
        .next ⟨true, some ⟨session.program.numbers, 0⟩, .select⟩
          [.note (.runStarted session.program.numbers.length)]) := by
    simp only [Session.step, Session.beginRun, inhabited, Bool.false_eq_true, if_false]
  have called : Careful allowed ⟨session, [.ofLine "RUN"]⟩ :=
    careful.step (spares_of_rests rests_idle) (.called rests_idle (.line "RUN") permitted)
  have read := called.step spares (.advanced session.step_typedRun)
  exact (read.goesOn (by rintro _ ⟨⟩) starts).goesOn (by rintro _ ⟨⟩) begins

/-- **A typed run whose first line asks for a text waits there.** -/
theorem Careful.asking (careful : Careful allowed ⟨session, []⟩)
    (permitted : allowed (.line "RUN")) (idle : session.running = false)
    (stored : session.program.lines = (number, entry) :: later)
    (asks : entry.statement = .input "" name) :
    Careful allowed ⟨{ session.restarted with current := some number, running := true },
      [⟨true, some ⟨session.program.numbers, 0⟩, .awaiting Session.defaultPrompt name⟩]⟩ := by
  have inFront : session.program.lines = [] ++ (number, entry) :: later := stored
  have place : session.program.numbers[0]? = some number := Program.numbers_at inFront
  have found : session.program.find? number = some entry := Program.find?_at inFront
  have inhabited : session.program.isEmpty = false := by
    rw [Program.isEmpty, stored]
    rfl
  have takes : Session.step { session.restarted with running := true }
      ⟨true, some ⟨session.program.numbers, 0⟩, .select⟩ =
      ({ session.restarted with current := some number, running := true },
        .next ⟨true, some ⟨session.program.numbers, 0⟩, .execute entry.statement⟩ []) := by
    simp only [Session.step, Session.selectLine, Session.underCursor, if_true, place,
      Session.restarted, found, Activity.inStage]
  have taken := (careful.starting permitted idle inhabited).goesOn (by rintro _ ⟨⟩) takes
  rw [asks] at taken
  exact taken.goesOn (by rintro _ ⟨⟩) rfl

/-- A line that asks for a text. -/
theorem isLine_input : Entry.IsLine 10 ⟨"10 INPUT A$", .input "" "A$"⟩ := by
  have isRead : tokens "10 INPUT A$" = .ok [⟨.number (.int 10), 0⟩, ⟨.keyword "INPUT", 3⟩,
      ⟨.identifier "A$", 9⟩, ⟨.endOfLine, 11⟩] := by
    cbv
  have parsed : Parser.line [⟨.number (.int 10), 0⟩, ⟨.keyword "INPUT", 3⟩,
      ⟨.identifier "A$", 9⟩, ⟨.endOfLine, 11⟩] = .ok (.programLine 10 (.input "" "A$")) := by
    cbv
  exact ⟨by decide, by rintro ⟨⟩, _, isRead, parsed⟩

/-- A line that ends a program. -/
theorem isLine_end : Entry.IsLine 20 ⟨"20 END", .stop⟩ := by
  have isRead : tokens "20 END" =
      .ok [⟨.number (.int 20), 0⟩, ⟨.keyword "END", 3⟩, ⟨.endOfLine, 6⟩] := by
    cbv
  have parsed : Parser.line [⟨.number (.int 20), 0⟩, ⟨.keyword "END", 3⟩, ⟨.endOfLine, 6⟩] =
      .ok (.programLine 20 .stop) := by
    cbv
  exact ⟨by decide, by rintro ⟨⟩, _, isRead, parsed⟩

/-- A bare number that is typed while something waits deletes the line under it. -/
theorem Reached.erased {line : String} {read : List Token}
    (reached : Reached allowed ⟨session, others⟩) (rests : Rests ⟨session, others⟩)
    (permitted : allowed (.line line)) (inked : Text.isBlankLine line = false)
    (isRead : tokens line = .ok read)
    (parsed : Parser.line read = .ok (.programLine number .empty)) :
    Reached allowed
      ⟨{ session with program := session.program.erase number, jump := none }, others⟩ :=
  ((reached.step (.called rests (.line line) permitted)).step
    (.advanced (session.step_bare inked isRead parsed))).step (.finished rfl)

/-- A line is stored and deleted again while a program waits, and the program goes on. -/
theorem edits_survived_input :
    ∃ (session : Session) (activity : Activity),
      Careful (fun _ => True) ⟨session, [activity]⟩ ∧ session.program.numbers = [10] ∧
        session.running = true ∧ ∀ fault, (session.step activity).2 ≠ .fault fault := by
  have isRead : tokens "20" = .ok [⟨.number (.int 20), 0⟩, ⟨.endOfLine, 2⟩] := by cbv
  have parsed : Parser.line [⟨.number (.int 20), 0⟩, ⟨.endOfLine, 2⟩] =
      .ok (.programLine 20 .empty) := by
    cbv
  have first : Careful (fun _ => True) _ := Careful.start.stored rests_idle isLine_input trivial
  have waits := first.asking trivial rfl rfl rfl
  have stored := waits.stored rests_awaiting isLine_end trivial
  have typed := stored.step (spares_of_rests rests_awaiting)
    (.called rests_awaiting (.line "20") trivial)
  have erased := typed.step (spares_ofLine isRead fun number parsed' cursor isRun => by
    cases parsed.symm.trans parsed'
    cases isRun
    decide) (.advanced (Session.step_bare _ rfl isRead parsed))
  have ended := erased.step (spares_of_unread (by rintro _ ⟨⟩)) (.finished rfl)
  have answered := ended.step (spares_of_rests rests_awaiting) (.answered rfl "X")
  exact ⟨_, _, answered, rfl, rfl,
    ((edits_survived _ _ _ _).2 answered (spares_of_unread (by rintro _ ⟨⟩))).1⟩

/-- **Deleted lines are missed**: a run comes to a line that was deleted while it waited, and a
program is to start over that has lost its lines. -/
theorem deleted_lines_missed :
    (∃ (session : Session) (run : Activity),
      Reached (fun call => ∃ line, call = .line line) ⟨session, [run]⟩ ∧
        (session.step run).2 = .fault (.missingLine 20)) ∧
    ∃ (session : Session) (typed run : Activity),
      Reached (fun call => ∃ line, call = .line line) ⟨session, [typed, run]⟩ ∧
        (session.step typed).2 = .fault .noLines := by
  constructor
  · have isRead : tokens "20" = .ok [⟨.number (.int 20), 0⟩, ⟨.endOfLine, 2⟩] := by cbv
    have parsed : Parser.line [⟨.number (.int 20), 0⟩, ⟨.endOfLine, 2⟩] =
        .ok (.programLine 20 .empty) := by
      cbv
    have first : Careful (fun call => ∃ line, call = .line line) _ :=
      Careful.start.stored rests_idle isLine_input ⟨_, rfl⟩
    have second := first.stored rests_idle isLine_end ⟨_, rfl⟩
    have waits := (second.asking ⟨_, rfl⟩ rfl rfl rfl).reached
    have erased := waits.erased rests_awaiting ⟨_, rfl⟩ rfl isRead parsed
    have answered := (erased.step (.answered rfl "X")).step (.advanced rfl)
    exact ⟨_, _, answered, rfl⟩
  · have isRead : tokens "10" = .ok [⟨.number (.int 10), 0⟩, ⟨.endOfLine, 2⟩] := by cbv
    have parsed : Parser.line [⟨.number (.int 10), 0⟩, ⟨.endOfLine, 2⟩] =
        .ok (.programLine 10 .empty) := by
      cbv
    have first : Careful (fun call => ∃ line, call = .line line) _ :=
      Careful.start.stored rests_idle isLine_input ⟨_, rfl⟩
    have waits := (first.asking ⟨_, rfl⟩ rfl rfl rfl).reached
    have erased := waits.erased rests_awaiting ⟨_, rfl⟩ rfl isRead parsed
    have typed := (erased.step (.called rests_awaiting (.line "RUN") ⟨_, rfl⟩)).step
      (.advanced (Session.step_typedRun _))
    exact ⟨_, _, _, typed, rfl⟩

end Asking

end Sitting

end LineBasic
