/-
**A terminal that is shut down.**

On a terminal whose work comes to rest, whoever has not ended reads, and there is one at most: a
task that is started while another one reads is refused a line of its own, and ends before that one
goes on. So between any two actions the prompt loop is at its prompt, or at a question of its
command. Shutting the terminal down ends it there, with nothing in the first case, and as cancelled
in the second one, where the command is broken off like a call that is not answered. What is left
is a blank screen on which nobody reads, and a session at rest that has lost nothing; the next loop
sets the terminal up again and prompts.

* `Terminal.SetsGoing`, `Terminal.Settles` — what actions set going, and that it comes to rest;
* `Desk.perform_reached` — work at a desk takes steps of a sitting;
* `Terminal.Tended` — a terminal between two actions, or while one of its tasks is at work;
* `tended_apply`, `tended_run` — what an action keeps, and any number of them;
* `shutDown_cleanly` — what is left of a terminal that is shut down after any actions.
-/

import LineBasic.Proofs.Geometry
import LineBasic.Proofs.Move
import LineBasic.Proofs.Prompting
import LineBasic.Proofs.Sitting

namespace LineBasic

/-! ### Work at a desk -/

section Desk

variable {session after : Session} {activity waiting : Activity} {prompt : String} {desk : Desk}

/-- Only an activity that waits for a line asks. -/
theorem Session.awaits_of_ask (asks : session.step activity = (after, .ask prompt)) :
    ∃ name, activity.stage = .awaiting prompt name := by
  cases Session.moves_of_step asks with
  | read _ reads => cases reads
  | awaits stage => exact ⟨_, stage⟩

theorem Session.awaits_of_comesTo
    (comes : session.comesTo activity = (after, .waiting prompt waiting)) :
    ∃ name, waiting.stage = .awaiting prompt name := by
  obtain ⟨events, driven⟩ : ∃ events, session.drive Scene.watch patience [] activity =
      (events, after, .waiting prompt waiting) := ⟨_, Prod.ext rfl comes⟩
  have reached : Scene.Reached _ (session.drive Scene.watch patience [] activity) :=
    @Scene.reached_drive (.opening session activity fun _ => "") rfl patience
  rw [driven] at reached
  exact awaits_of_ask reached.2

/-- **Work at a desk takes steps of a sitting**, and writes on the screen. Where it comes to a
question, it waits for the answer. -/
theorem Desk.perform_reached {allowed : Call → Prop} {others : List Activity} (questions : Nat)
    (roomy : desk.screen.grid.Roomy)
    (reached : Sitting.Reached allowed ⟨session, activity :: others⟩) :
    let result := desk.perform questions session activity
    desk.screen.Leaves result.1.screen ∧ Sitting.Reached allowed (Sitting.driven others result) ∧
      ∀ prompt waiting, result.2.2 = .waiting prompt waiting →
        ∃ name, waiting.stage = .awaiting prompt name := by
  induction questions generalizing desk session activity with
  | zero => exact ⟨⟨roomy, rfl, rfl, rfl⟩, reached, by rintro _ _ ⟨⟩⟩
  | succ questions hypothesis =>
    obtain ⟨after, driven, _, leaves⟩ :=
      ((Screen.Lasting.leaves desk.screen).takes desk.wired).comesTo
        ⟨rfl, roomy, rfl, rfl, rfl⟩ session activity
    have reached' := @Sitting.Reached.drive _ _ Desk.deliver Session.patience desk _ _ _ reached
    rw [driven] at reached'
    unfold Desk.perform
    rw [driven]
    rcases comes : session.comesTo activity with
      ⟨session', ⟨prompt, waiting⟩ | _ | failure | fault | rest⟩
    all_goals rw [comes] at reached'
    · obtain ⟨name, awaits⟩ := Session.awaits_of_comesTo comes
      simp only
      split
      · refine ⟨leaves, reached', fun prompt' waiting' same => ?_⟩
        cases same
        exact ⟨name, awaits⟩
      · -- Nobody can be asked, and the empty answer is one more step.
        obtain ⟨leaves', rest⟩ := hypothesis leaves.roomy (reached'.step (.answered awaits ""))
        exact ⟨leaves.trans leaves', rest⟩
    all_goals exact ⟨leaves, reached', by rintro _ _ ⟨⟩⟩

end Desk

/-- What is under way for a reader: the activity that waits for an answer. -/
def Purpose.underWay : Purpose → List Activity
  | .answer _ activity => [activity]
  | _ => []

namespace Terminal

/-! ### Work that comes to rest -/

/-- What is under way on a terminal, where all of it waits. -/
def underWay (terminal : Terminal) : List Activity :=
  terminal.readers.flatMap fun reader => reader.purpose.underWay

theorem underWay_none {terminal : Terminal} (none : terminal.readers = []) :
    terminal.underWay = [] := by
  unfold underWay
  rw [none, List.flatMap_nil]

theorem underWay_only {terminal : Terminal} {reader : Reader} (only : terminal.readers = [reader]) :
    terminal.underWay = reader.purpose.underWay := by
  unfold underWay
  rw [only, List.flatMap_singleton]

/-- The work that a line leads to which is read as a command or as an answer. -/
inductive Resumes (terminal : Terminal) (line : String) :
    Purpose → Terminal → Activity → Prop where
  | command : Resumes terminal line .command
      { terminal with desk := terminal.desk.note (.commandRead line) } (.ofLine line)
  | answer (role : Role) (activity : Activity) : Resumes terminal line (.answer role activity)
      { terminal with session := (terminal.session.answer activity line).1 }
      (terminal.session.answer activity line).2

/-- The work that an action sets going: a line is executed, or keys complete a line for a reader
who has work to go on with. -/
inductive SetsGoing (terminal : Terminal) : Action → Terminal → Activity → Prop where
  | line (line : String) : SetsGoing terminal (.executeLine line) terminal.withTask (.ofLine line)
  | keys {action : Action} {screen : Screen} {delivery : Delivery} {reader : Reader}
      {given : Terminal} {activity : Activity}
      (pressed : terminal.screen.pressAll action.keys = (screen, .ok (some delivery)))
      (found : (terminal.readers.find? fun reader => reader.ticket == delivery.ticket) =
        some reader)
      (resumes : ((terminal.setScreen screen).remove reader).Resumes delivery.line reader.purpose
        given activity) : SetsGoing terminal action given activity

/-- Work comes to rest: to a question or to an end, before it is given up. -/
def ComesToRest (terminal : Terminal) (activity : Activity) : Prop :=
  ∀ rest, (terminal.desk.perform Session.patience terminal.session activity).2.2 ≠ .unfinished rest

/-- Actions that set nothing going but work that comes to rest. -/
def Settles : Terminal → List Action → Prop
  | _, [] => True
  | terminal, action :: rest =>
    (∀ given activity, terminal.SetsGoing action given activity → given.ComesToRest activity) ∧
      Settles (action.apply terminal).1 rest

theorem settles_append {terminal : Terminal} {first second : List Action} :
    terminal.Settles (first ++ second) ↔
      terminal.Settles first ∧ (terminal.run first).Settles second := by
  induction first generalizing terminal with
  | nil => exact ⟨fun settles => ⟨trivial, settles⟩, And.right⟩
  | cons action rest hypothesis => exact (and_congr_right fun _ => hypothesis).trans and_assoc.symm

/-- What a line sets going that is typed to a prompt loop comes to rest where the session comes to
rest with it. -/
theorem comesToRest_type {terminal given : Terminal} {talk : Talk} {line : String}
    {activity : Activity} (holds : terminal.Holds talk)
    (printable : ∀ c ∈ line.toList, Text.isPrintable c = true)
    (settled : Session.Settled (talk.outcome (Text.capitals line)))
    (goes : terminal.SetsGoing (.type [line]) given activity) : given.ComesToRest activity := by
  obtain ⟨task, ticket, purpose, only, typing, reads⟩ := holds.reads
  obtain ⟨screen, pressed, quiet⟩ := typing.pressLine printable
  have only' : (terminal.setScreen screen).readers = [⟨task, ticket, purpose⟩] := only
  cases goes with
  | keys pressed' found resumes =>
    cases pressed.symm.trans pressed'
    rw [only, List.find?_cons_of_pos (by simp)] at found
    cases found
    rw [remove_only only' quiet.pending] at resumes
    have begins : talk.outcome (Text.capitals line) = given.session.comesTo activity ∧
        given.desk.wired = true ∧ given.desk.screen.Quiet := by
      obtain ⟨session, asking⟩ := talk
      obtain rfl := holds.session
      cases reads with
      | command =>
        cases resumes
        exact ⟨rfl, holds.wired, quiet⟩
      | answer typed asking =>
        cases resumes
        exact ⟨rfl, holds.wired, quiet⟩
    obtain ⟨same, wired, quiet'⟩ := begins
    obtain ⟨after, performed, _⟩ := Desk.perform_wired wired quiet' given.session activity
    unfold ComesToRest
    rw [performed, ← same]
    exact settled.lasts

/-- **Lines that are typed to a prompt loop come to rest** where a session comes to rest with
them. -/
theorem settles_typed {terminal : Terminal} {talk : Talk} (holds : terminal.Holds talk)
    {lines : List String}
    (printable : ∀ line ∈ lines, ∀ c ∈ line.toList, Text.isPrintable c = true)
    (settles : talk.Settles (lines.map Text.capitals)) :
    terminal.Settles (lines.map fun line => .type [line]) := by
  induction lines generalizing terminal talk with
  | nil => trivial
  | cons line rest hypothesis =>
    obtain ⟨first, later⟩ := List.forall_mem_cons.mp printable
    obtain ⟨settled, settles'⟩ := settles
    exact ⟨fun _ _ => comesToRest_type holds first settled,
      hypothesis (holds_type holds first settled) later settles'⟩

/-- An activity that is broken off leaves nothing on a terminal but notes. -/
theorem breakOff_notes (terminal : Terminal) (task : Nat) (role : Role) (activity : Activity)
    (fault : Fault) :
    ∃ notes, terminal.breakOff task role activity fault =
      conclude task role (some fault)
        { terminal with desk := { terminal.desk with notes },
                        session := (terminal.session.abandon activity).1 } := by
  unfold Terminal.breakOff Session.breakOff Session.abandon
  cases activity.cursor with
  | none => exact ⟨terminal.desk.notes, rfl⟩
  | some cursor => exact ⟨_, rfl⟩

/-! ### A terminal that is tended -/

/-- A reader as they are: a task that was started, and an activity that waits for a line. Whoever
is a prompt loop reads a command, or an answer for its command. -/
structure Waits (isLoop : Nat → Prop) (tasks : Nat) (reader : Reader) : Prop where
  known : reader.task < tasks
  awaits : ∀ activity ∈ reader.purpose.underWay, ∃ prompt name,
    activity.stage = .awaiting prompt name
  loop : isLoop reader.task → ∃ asking, ReadsFor asking reader.purpose

/-- Who reads on a screen: nobody, or one reader, for whom the keys make a line. -/
inductive ReadBy (isLoop : Nat → Prop) (tasks : Nat) (readers : List Reader) (screen : Screen) :
    Prop where
  | nobody (none : readers = []) (quiet : screen.Quiet) : ReadBy isLoop tasks readers screen
  | one {task ticket : Nat} {purpose : Purpose} {line : List Char}
      (only : readers = [⟨task, ticket, purpose⟩]) (typing : screen.Typing ticket line)
      (waits : Waits isLoop tasks ⟨task, ticket, purpose⟩) : ReadBy isLoop tasks readers screen

/-- **A terminal with at most one task at work**, for whom some activities are under way: all other
tasks have ended or read, and the session is where calls have led it. -/
structure Tended (isLoop : Nat → Prop) (busy : Option Nat) (activities : List Activity)
    (terminal : Terminal) : Prop where
  reached : Sitting.Reached (fun _ => True) ⟨terminal.session, activities ++ terminal.underWay⟩
  unfinished : ∀ task, terminal.IsUnfinished task →
    busy = some task ∨ ∃ reader ∈ terminal.readers, reader.task = task
  known : ∀ task, busy = some task ∨ isLoop task → task < terminal.tasks
  read : ReadBy isLoop terminal.tasks terminal.readers terminal.screen

section Tended

variable {terminal : Terminal} {isLoop isLoop' : Nat → Prop} {busy : Option Nat}
  {activities : List Activity} {activity : Activity} {task ticket tasks : Nat}
  {readers : List Reader} {screen after : Screen} {purpose : Purpose} {role : Role}

theorem ReadBy.roomy (read : ReadBy isLoop tasks readers screen) : screen.grid.Roomy := by
  cases read with
  | nobody none quiet => exact quiet.roomy
  | one only typing waits => exact typing.roomy

/-- What is written does not concern who reads. -/
theorem ReadBy.leaves (read : ReadBy isLoop tasks readers screen) (leaves : screen.Leaves after) :
    ReadBy isLoop tasks readers after := by
  cases read with
  | nobody none quiet => exact .nobody none (quiet.leaves leaves)
  | one only typing waits => exact .one only (typing.leaves leaves) waits

/-- A task that is started does not concern who reads, if no other one turns into a loop. -/
theorem ReadBy.started (read : ReadBy isLoop tasks readers screen)
    (loops : ∀ task, isLoop' task → isLoop task ∨ task = tasks) :
    ReadBy isLoop' (tasks + 1) readers screen := by
  cases read with
  | nobody none quiet => exact .nobody none quiet
  | one only typing waits =>
    exact .one only typing ⟨Nat.lt_succ_of_lt waits.known, waits.awaits,
      fun isOne => waits.loop ((loops _ isOne).resolve_right waits.known.ne)⟩

/-- The latest activity of those that read waits. -/
theorem ReadBy.rests (read : ReadBy isLoop terminal.tasks terminal.readers screen) :
    Sitting.Rests ⟨terminal.session, terminal.underWay⟩ := by
  intro activity latest
  cases read with
  | nobody none quiet =>
    rw [underWay_none none] at latest
    cases latest
  | one only typing waits =>
    rw [underWay_only only] at latest
    exact waits.awaits activity (List.mem_of_mem_head? latest)

theorem Tended.atDesk (tended : terminal.Tended isLoop busy activities) {desk : Desk}
    (read : ReadBy isLoop terminal.tasks terminal.readers desk.screen) :
    Tended isLoop busy activities { terminal with desk } :=
  ⟨tended.reached, tended.unfinished, tended.known, read⟩

/-- What is written on the screen does not matter. -/
theorem Tended.setScreen (tended : terminal.Tended isLoop busy activities)
    (leaves : terminal.screen.Leaves screen) :
    (terminal.setScreen screen).Tended isLoop busy activities :=
  tended.atDesk (tended.read.leaves leaves)

theorem Tended.onScreen (tended : terminal.Tended isLoop busy activities)
    {work : Screen → Attempt Screen GridFault}
    (fits : ∃ after, work terminal.screen = (after, none) ∧ terminal.screen.Leaves after) :
    ∃ after, terminal.onScreen work = (after, none) ∧ after.Tended isLoop busy activities := by
  obtain ⟨after, done, leaves⟩ := onScreen_of_kind fits
  exact ⟨_, done, tended.setScreen leaves⟩

/-- A task that is at work ends. -/
theorem Tended.finish (tended : terminal.Tended isLoop (some task) []) (ending : Ending) :
    (terminal.finish task ending).Tended isLoop none [] := by
  refine ⟨tended.reached, fun other isUnfinished => .inr ?_,
    fun other isOne => tended.known other (.inr (isOne.resolve_left nofun)), tended.read⟩
  obtain ⟨known, unended⟩ := isUnfinished
  have before : terminal.IsUnfinished other :=
    ⟨known, fun earlier member => unended earlier (List.mem_cons_of_mem _ member)⟩
  refine (tended.unfinished other before).resolve_left fun same => ?_
  cases same
  exact unended ending List.mem_cons_self

/-- A task is started, which may be a loop. -/
theorem Tended.withTask (tended : terminal.Tended isLoop none [])
    (loops : ∀ task, isLoop' task → isLoop task ∨ task = terminal.tasks) :
    terminal.withTask.Tended isLoop' (some terminal.tasks) [] := by
  refine ⟨tended.reached, fun other isUnfinished => ?_, ?_, tended.read.started loops⟩
  · obtain ⟨known, unended⟩ := isUnfinished
    rcases Nat.lt_succ_iff_lt_or_eq.mp known with earlier | rfl
    · exact .inr ((tended.unfinished other ⟨earlier, unended⟩).resolve_left nofun)
    · exact .inl rfl
  · rintro other (same | isOne)
    · cases same
      exact Nat.lt_succ_self _
    · rcases loops other isOne with before | rfl
      · exact Nat.lt_succ_of_lt (tended.known other (.inr before))
      · exact Nat.lt_succ_self _

/-- A task that is at work begins with a line. -/
theorem Tended.begins (tended : terminal.Tended isLoop busy []) (line : String) :
    terminal.Tended isLoop busy [.ofLine line] :=
  ⟨tended.reached.step (.called tended.read.rests (.line line) trivial), tended.unfinished,
    tended.known, tended.read⟩

/-- A task reads a line where nobody else does. -/
theorem Tended.rest (tended : terminal.Tended isLoop (some task) activities)
    (none : terminal.readers = []) (typing : screen.Typing ticket [])
    (same : purpose.underWay = activities)
    (waits : Waits isLoop terminal.tasks ⟨task, ticket, purpose⟩) :
    ((terminal.setScreen screen).rest ⟨task, ticket, purpose⟩).Tended isLoop .none [] := by
  have reached := tended.reached
  rw [underWay_none none, List.append_nil] at reached
  have only : ((terminal.setScreen screen).rest ⟨task, ticket, purpose⟩).readers =
      [⟨task, ticket, purpose⟩] := congrArg _ none
  refine ⟨?_, fun other isUnfinished => .inr ?_,
    fun other isOne => tended.known other (.inr (isOne.resolve_left nofun)),
    .one only typing waits⟩
  · rw [underWay_only only, same]
    exact reached
  · rw [only]
    refine ⟨_, List.mem_cons_self, ?_⟩
    rcases tended.unfinished other isUnfinished with atWork | ⟨reader, member, _⟩
    · exact Option.some.inj atWork
    · rw [none] at member
      cases member

/-- A task reads a line, or ends if another one does. -/
theorem Tended.await (tended : terminal.Tended isLoop (some task) [])
    {read : Screen → Screen × Except Fault Nat} (opens : Screen.Opens read)
    (idle : purpose.underWay = []) (loop : isLoop task → ∃ asking, ReadsFor asking purpose) :
    (terminal.await task purpose read).Tended isLoop none [] := by
  unfold Terminal.await
  cases tended.read with
  | nobody none quiet =>
    obtain ⟨after, ticket, opened, typing⟩ := opens.opened _ quiet
    rw [opened]
    refine tended.rest none typing idle ⟨tended.known task (.inl rfl), ?_, loop⟩
    rw [idle]
    exact List.forall_mem_nil _
  | one only typing waits =>
    obtain ⟨after, refused, typing'⟩ := opens.refused _ _ _ typing
    rw [refused]
    have left : (terminal.setScreen after).Tended isLoop (some task) [] :=
      tended.atDesk (.one only typing' waits)
    exact left.finish _

theorem Tended.prompt (tended : terminal.Tended isLoop (some task) []) :
    (terminal.prompt task).Tended isLoop none [] := by
  unfold Terminal.prompt
  split
  · exact tended.await Screen.opens_openCommand rfl fun _ => ⟨none, .command⟩
  · exact tended.finish _

/-- A task whose line has come to its end goes on prompting, or ends. -/
theorem Tended.conclude (tended : terminal.Tended isLoop (some task) []) (role : Role)
    (fault : Option Fault) : (terminal.conclude task role fault).Tended isLoop none [] := by
  unfold Terminal.conclude
  split
  · exact tended.finish _
  · exact tended.finish _
  · exact tended.finish _
  · exact tended.prompt
  · next line reason _ =>
    have noted : Tended isLoop (some task) []
        { terminal with desk := terminal.desk.note (.commandBroken line) } :=
      tended.atDesk tended.read
    obtain ⟨after, printed, tended'⟩ :=
      noted.onScreen (Screen.print_fits noted.read.roomy (faultReport reason ++ "\n"))
    have printed' : Terminal.onScreen (Screen.printLine (faultReport reason)) _ = _ := printed
    simp only [printed']
    exact tended'.prompt

/-- An activity that waits is broken off, like a call that is not answered. -/
theorem Tended.breakOff (tended : terminal.Tended isLoop (some task) [activity])
    {prompt name : String} (awaits : activity.stage = .awaiting prompt name) (role : Role)
    (fault : Fault) : (terminal.breakOff task role activity fault).Tended isLoop none [] := by
  obtain ⟨notes, broken⟩ := terminal.breakOff_notes task role activity fault
  rw [broken]
  have left : Tended isLoop (some task) []
      { terminal with desk := { terminal.desk with notes },
                      session := (terminal.session.abandon activity).1 } :=
    ⟨tended.reached.step (.unanswered awaits), tended.unfinished, tended.known, tended.read⟩
  exact left.conclude role (some fault)

/-- **Work that comes to rest** comes to a question that is put, to one that is refused, or to its
end. -/
theorem Tended.work (tended : terminal.Tended isLoop (some task) [activity])
    (loop : isLoop task → ∃ line, role = .command line) (comes : terminal.ComesToRest activity) :
    (terminal.work task role activity).Tended isLoop none [] := by
  obtain ⟨leaves, reached, awaits⟩ :=
    Desk.perform_reached Session.patience tended.read.roomy tended.reached
  unfold ComesToRest at comes
  unfold Terminal.work
  generalize terminal.desk.perform Session.patience terminal.session activity = result at *
  obtain ⟨desk, session, progress⟩ := result
  have ended : Sitting.Reached (fun _ => True) ⟨session, terminal.underWay⟩ →
      Tended isLoop (some task) [] { terminal with desk, session } := fun reached =>
    ⟨reached, tended.unfinished, tended.known, tended.read.leaves leaves⟩
  cases progress with
  | waiting question waiting =>
    obtain ⟨name, stage⟩ := awaits question waiting rfl
    have left : Tended isLoop (some task) [waiting] { terminal with desk, session } :=
      ⟨reached, tended.unfinished, tended.known, tended.read.leaves leaves⟩
    simp only
    cases left.read with
    | nobody none quiet =>
      obtain ⟨after, ticket, opened, typing⟩ := (Screen.opens_openRead question).opened _ quiet
      rw [opened]
      refine left.rest none typing rfl ⟨tended.known task (.inl rfl), ?_, fun isOne => ?_⟩
      · exact List.forall_mem_singleton.mpr ⟨question, name, stage⟩
      · obtain ⟨line, rfl⟩ := loop isOne
        exact ⟨_, .answer line waiting⟩
    | one only typing waits =>
      -- Somebody else reads already, so that the question cannot be put.
      obtain ⟨after, refused, typing'⟩ := (Screen.opens_openRead question).refused _ _ _ typing
      rw [refused]
      have left' : Tended isLoop (some task) [waiting]
          (({ terminal with desk, session } : Terminal).setScreen after) :=
        left.atDesk (.one only typing' waits)
      exact left'.breakOff stage role _
  | finished => exact (ended reached).conclude role none
  | failed failure => exact (ended reached).conclude role none
  | fault fault => exact (ended reached).conclude role (some fault)
  | unfinished rest => exact absurd rfl (comes rest)

/-! ### Keys, and sending readers away -/

/-- When the only reader goes away its task is at work. -/
theorem Tended.released (tended : terminal.Tended isLoop none [])
    (only : terminal.readers = [⟨task, ticket, purpose⟩])
    (waits : Waits isLoop terminal.tasks ⟨task, ticket, purpose⟩) (quiet : screen.Quiet) :
    Tended isLoop (some task) purpose.underWay
      { terminal.setScreen screen with readers := [] } := by
  have reached := tended.reached
  rw [underWay_only only, List.nil_append] at reached
  refine ⟨?_, fun other isUnfinished => .inl ?_, ?_, .nobody rfl quiet⟩
  · rw [underWay_none rfl, List.append_nil]
    exact reached
  · obtain ⟨reader, member, same⟩ :=
      (tended.unfinished other isUnfinished).resolve_left nofun
    rw [only, List.mem_singleton] at member
    rw [← same, member]
  · rintro other (same | isOne)
    · cases same
      exact waits.known
    · exact tended.known other (.inr isOne)

/-- A reader goes on with the line it was given. -/
theorem Tended.resume (tended : terminal.Tended isLoop (some task) purpose.underWay)
    (waits : Waits isLoop tasks ⟨task, ticket, purpose⟩) {line : String}
    (comes : ∀ given activity, terminal.Resumes line purpose given activity →
      given.ComesToRest activity) :
    (terminal.resume ⟨task, ticket, purpose⟩ line).Tended isLoop none [] := by
  unfold Terminal.resume
  cases purpose with
  | handOver => exact tended.finish _
  | command =>
    have noted : Tended isLoop (some task) []
        { terminal with desk := terminal.desk.note (.commandRead line) } :=
      tended.atDesk tended.read
    exact (noted.begins line).work (fun _ => ⟨line, rfl⟩) (comes _ _ .command)
  | answer role activity =>
    obtain ⟨prompt, name, awaits⟩ := waits.awaits activity List.mem_cons_self
    have answered : Tended isLoop (some task) [(terminal.session.answer activity line).2]
        { terminal with session := (terminal.session.answer activity line).1 } :=
      ⟨tended.reached.step (.answered awaits line), tended.unfinished, tended.known, tended.read⟩
    refine answered.work (fun isOne => ?_) (comes _ _ (.answer role activity))
    obtain ⟨_, ⟨⟩⟩ := waits.loop isOne
    exact ⟨_, rfl⟩

/-- **Keys edit the line of the reader, or hand it over**, and then its work comes to rest. -/
theorem tended_press (tended : terminal.Tended isLoop none []) {action : Action}
    (comes : ∀ given activity, terminal.SetsGoing action given activity →
      given.ComesToRest activity) :
    (terminal.press action.keys).1.Tended isLoop none [] := by
  cases tended.read with
  | nobody none quiet =>
    rw [press_quiet quiet]
    exact tended
  | @one task ticket purpose line only typing waits =>
    by_cases enters : Key.enter ∈ action.keys
    · obtain ⟨front, rest, shape, goesOn⟩ := List.eq_append_cons_of_mem enters
      obtain ⟨after, pressed, quiet⟩ := typing.pressAll_enter goesOn rest
      rw [← shape] at pressed
      have only' : (terminal.setScreen after).readers = [⟨task, ticket, purpose⟩] := only
      have found : (terminal.readers.find? fun reader => reader.ticket == ticket) =
          some ⟨task, ticket, purpose⟩ := by
        rw [only]
        simp only [List.find?_cons, beq_self_eq_true]
      unfold press
      rw [pressed]
      simp only [receive_only only' quiet.pending]
      refine (tended.released only waits quiet).resume waits fun given activity resumes => ?_
      rw [← remove_only only' quiet.pending] at resumes
      exact comes given activity (.keys pressed found resumes)
    · obtain ⟨after, pressed, typing'⟩ := typing.pressAll enters
      unfold press
      rw [pressed]
      exact tended.atDesk (.one only typing' waits)

/-- A reader that is sent away ends. -/
theorem Tended.dismiss {before : Terminal}
    (tended : (before.remove ⟨task, ticket, purpose⟩).Tended isLoop (some task) purpose.underWay)
    (waits : Waits isLoop tasks ⟨task, ticket, purpose⟩) :
    (before.dismiss ⟨task, ticket, purpose⟩).Tended isLoop none [] := by
  unfold Terminal.dismiss
  cases purpose with
  | handOver => exact tended.finish _
  | command => exact tended.finish _
  | answer role activity =>
    obtain ⟨prompt, name, awaits⟩ := waits.awaits activity List.mem_cons_self
    exact tended.breakOff awaits role .cancelled

theorem tended_cancel (tended : terminal.Tended isLoop none []) (task : Nat) :
    (terminal.cancel task).Tended isLoop none [] := by
  by_cases member : ∃ reader ∈ terminal.readers, reader.task = task
  · obtain ⟨_, member, rfl⟩ := member
    cases tended.read with
    | nobody none quiet =>
      rw [none] at member
      cases member
    | @one task ticket purpose line only typing waits =>
      obtain ⟨after, quiet, left⟩ := remove_typing only typing
      have released := tended.released only waits quiet
      rw [← left] at released
      rw [only, List.mem_singleton] at member
      rw [member, cancel_only only]
      exact released.dismiss waits
  · rw [cancel_ended fun reader inside same => member ⟨reader, inside, same⟩]
    exact tended

theorem tended_abandon (tended : terminal.Tended isLoop none []) :
    terminal.abandonScreen.Tended isLoop none [] := by
  have quiet := Screen.quiet_abandoned tended.read.roomy
  cases tended.read with
  | nobody none _ =>
    rw [abandon_idle none]
    exact tended.atDesk (.nobody none quiet)
  | @one task ticket purpose line only typing waits =>
    have only' : (terminal.setScreen terminal.screen.abandoned).readers =
        [⟨task, ticket, purpose⟩] := only
    have released := tended.released only waits quiet
    rw [← remove_only only' quiet.pending] at released
    rw [abandon_only only typing.pending]
    exact released.dismiss waits

theorem tended_shutDown (tended : terminal.Tended isLoop none []) :
    terminal.shutDown.Tended isLoop none [] := by
  have stopped : Tended isLoop none [] { terminal.stop with ready := false } :=
    ⟨tended.reached, tended.unfinished, tended.known, tended.read⟩
  exact tended_abandon stopped

/-! ### Whatever is done to the terminal -/

theorem Tended.printLines (tended : terminal.Tended isLoop busy activities) (lines : List String) :
    (terminal.printLines lines).1.Tended isLoop busy activities := by
  obtain ⟨after, printed, leaves⟩ := (Screen.Lasting.leaves terminal.screen).printLines
    ⟨tended.read.roomy, rfl, rfl, rfl⟩ lines
  rw [printed]
  exact tended.setScreen leaves

theorem Tended.setUp (tended : terminal.Tended isLoop busy activities) :
    ∃ after, terminal.setUp = (after, none) ∧ after.Tended isLoop busy activities := by
  obtain ⟨after, done, leaves⟩ := (Screen.Lasting.leaves terminal.screen).setUp
    ⟨tended.read.roomy, rfl, rfl, rfl⟩
  exact ⟨_, done, tended.reached, tended.unfinished, tended.known, tended.read.leaves leaves⟩

/-- A reset is a call that throws the program away. -/
theorem tended_reset (tended : terminal.Tended isLoop none []) :
    terminal.reset.1.Tended isLoop none [] := by
  obtain ⟨desk, done, _, leaves⟩ := (Screen.Lasting.leaves terminal.screen).reset
    ⟨tended.read.roomy, rfl, rfl, rfl⟩
  rw [done]
  exact ⟨tended.reached.step (.called tended.read.rests .startNew trivial), tended.unfinished,
    tended.known, tended.read.leaves leaves⟩

/-- A loop that is started reads a command, or ends if somebody else reads. -/
theorem tended_startLoop (tended : terminal.Tended isLoop none [])
    (loops : ∀ task, isLoop' task → isLoop task ∨ task = terminal.tasks) :
    terminal.startLoop.Tended isLoop' none [] := by
  have started := tended.withTask loops
  have begins : ∀ {readied : Terminal}, readied.Tended isLoop' (some terminal.tasks) [] →
      ({ readied with looping := true }.prompt terminal.tasks).Tended isLoop' none [] := by
    intro readied tended'
    have looping : Tended isLoop' (some terminal.tasks) [] { readied with looping := true } :=
      ⟨tended'.reached, tended'.unfinished, tended'.known, tended'.read⟩
    exact looping.prompt
  unfold startLoop
  split
  · next readied same =>
    split at same
    · cases same
      exact begins started
    · obtain ⟨after, done, tended'⟩ := started.setUp
      rw [done] at same
      cases same
      exact begins tended'
  · next readied fault same =>
    split at same
    · cases same
    · obtain ⟨after, done, _⟩ := started.setUp
      rw [done] at same
      cases same

/-- **A terminal is tended after any action** whose work comes to rest. -/
theorem tended_apply (tended : terminal.Tended isLoop none []) {action : Action}
    (comes : ∀ given activity, terminal.SetsGoing action given activity →
      given.ComesToRest activity) :
    (action.apply terminal).1.Tended isLoop none [] := by
  have roomy := tended.read.roomy
  have written : ∀ {work : Screen → Attempt Screen GridFault},
      (∃ after, work terminal.screen = (after, none) ∧ terminal.screen.Leaves after) →
        (terminal.onScreen work).1.Tended isLoop none [] := by
    intro work fits
    obtain ⟨after, done, tended'⟩ := tended.onScreen fits
    rw [done]
    exact tended'
  have started := tended.withTask fun _ => .inl
  -- Only a task that was started can be one of the loops.
  have noLoop : ∀ {holds : Prop}, isLoop terminal.tasks → holds := fun isOne =>
    absurd (tended.known _ (.inr isOne)) (Nat.lt_irrefl _)
  cases action with
  | print text => exact written (Screen.print_fits roomy text)
  | printLine text => exact written (Screen.print_fits roomy (text ++ "\n"))
  | put text => exact written (Screen.onGrid_fits (Grid.fits_put roomy _))
  | newline => exact written (Screen.onGrid_fits (Grid.fits_newline roomy))
  | scroll => exact written (Screen.onGrid_fits (Grid.fits_scroll roomy.wide roomy.tall))
  | clear => exact tended.setScreen (Screen.leaves_clear roomy)
  | render => exact tended.setScreen (Screen.leaves_render roomy)
  | press keys => exact tended_press tended comes
  | type lines => exact tended_press tended comes
  | readLine prompt => exact started.await (Screen.opens_openRead prompt) rfl noLoop
  | readCommand => exact started.await Screen.opens_openCommand rfl noLoop
  | executeLine line => exact (started.begins line).work noLoop (comes _ _ (.line line))
  | startLoop => exact tended_startLoop tended fun _ => .inl
  | cancel task => exact tended_cancel tended task
  | abandonScreen => exact tended_abandon tended
  | setUp =>
    obtain ⟨after, done, tended'⟩ := tended.setUp
    show terminal.setUp.1.Tended isLoop none []
    rw [done]
    exact tended'
  | showBanner => exact tended.printLines banner
  | stop => exact ⟨tended.reached, tended.unfinished, tended.known, tended.read⟩
  | reset => exact tended_reset tended
  | shutDown => exact tended_shutDown tended

/-- **A terminal is tended all the time.** -/
theorem tended_run (tended : terminal.Tended isLoop none []) {actions : List Action}
    (settles : terminal.Settles actions) : (terminal.run actions).Tended isLoop none [] := by
  induction actions generalizing terminal with
  | nil => exact tended
  | cons action rest hypothesis =>
    obtain ⟨first, later⟩ := settles
    exact hypothesis (tended_apply tended first) later

/-- A task that has not ended is the only reader. -/
theorem Tended.reads_of_isUnfinished (tended : terminal.Tended isLoop none [])
    (isUnfinished : terminal.IsUnfinished task) :
    ∃ ticket purpose line, terminal.readers = [⟨task, ticket, purpose⟩] ∧
      terminal.screen.Typing ticket line ∧ Waits isLoop terminal.tasks ⟨task, ticket, purpose⟩ := by
  obtain ⟨reader, member, same⟩ := (tended.unfinished task isUnfinished).resolve_left nofun
  cases tended.read with
  | nobody none quiet =>
    rw [none] at member
    cases member
  | one only typing waits =>
    rw [only, List.mem_singleton] at member
    subst member
    cases same
    exact ⟨_, _, _, only, typing, waits⟩

/-- Where nobody reads all tasks have ended. -/
theorem Tended.ended (tended : terminal.Tended isLoop none []) (none : terminal.readers = [])
    (task : Nat) : ¬terminal.IsUnfinished task := by
  intro isUnfinished
  obtain ⟨_, _, _, only, _⟩ := tended.reads_of_isUnfinished isUnfinished
  cases none.symm.trans only

/-- Where nobody reads the session is at rest. -/
theorem Tended.atRest (tended : terminal.Tended isLoop none []) (none : terminal.readers = []) :
    terminal.session.AtRest := by
  have reached := tended.reached
  rw [underWay_none none] at reached
  exact Sitting.atRest_of_reached reached

end Tended

/-! ### Shut down -/

/-- How a prompt loop ends whose terminal is shut down: with nothing at its prompt, and as cancelled
at a question of its command. -/
inductive ShutFrom : Purpose → Ending → Prop where
  | prompt : ShutFrom .command (.value none)
  | question {activity : Activity} {prompt name : String} (line : String)
      (awaits : activity.stage = .awaiting prompt name) :
      ShutFrom (.answer (.command line) activity) .cancelled

/-- **What is left of a terminal that was shut down**: a blank screen with the cursor in the corner,
on which nobody reads, no task that has not ended, and a session at rest with the program, the
variables and the loops of before. -/
structure LeftBy (rows columns : Nat) (before : Session) (terminal : Terminal) : Prop where
  grid : terminal.screen.grid = .blank rows columns
  typed : terminal.screen.typed = []
  pending : terminal.screen.pending = none
  reading : terminal.screen.reading = false
  ready : terminal.ready = false
  looping : terminal.looping = false
  readers : terminal.readers = []
  ended : ∀ task, ¬terminal.IsUnfinished task
  atRest : terminal.session.AtRest
  keeps : terminal.session.Matches before

section Left

variable {terminal : Terminal} {isLoop : Nat → Prop} {task ticket : Nat} {purpose : Purpose}
  {ending : Ending}

/-- What waits is a loop at its prompt, or at a question of its command. -/
theorem Waits.shutFrom {tasks : Nat} (waits : Waits isLoop tasks ⟨task, ticket, purpose⟩)
    (isOne : isLoop task) : ∃ ending, ShutFrom purpose ending := by
  obtain ⟨asking, reads⟩ := waits.loop isOne
  cases reads with
  | command => exact ⟨_, .prompt⟩
  | answer line activity =>
    obtain ⟨prompt, name, awaits⟩ := waits.awaits activity List.mem_cons_self
    exact ⟨_, .question line awaits⟩

/-- **Shutting down ends the loop**, and changes nothing else but the screen, the flags, the notes
and the traces that the command has left in the session. -/
theorem shutDown_only (only : terminal.readers = [⟨task, ticket, purpose⟩])
    (pending : terminal.screen.pending = some ticket) (shut : ShutFrom purpose ending) :
    ∃ notes session, session.Matches terminal.session ∧ terminal.shutDown =
      { terminal with
          desk := ⟨terminal.screen.abandoned, terminal.desk.wired, notes⟩
          session
          ready := false
          looping := false
          readers := []
          endings := (task, ending) :: terminal.endings } := by
  let stopped : Terminal := { terminal.stop with ready := false }
  have only' : (stopped.setScreen terminal.screen.abandoned).readers = [⟨task, ticket, purpose⟩] :=
    only
  have left : terminal.shutDown =
      (stopped.setScreen terminal.screen.abandoned).dismiss ⟨task, ticket, purpose⟩ :=
    @abandon_only stopped _ _ _ only pending
  rw [left, dismiss, remove_only only' rfl]
  cases shut with
  | prompt => exact ⟨terminal.desk.notes, terminal.session, ⟨rfl, rfl, rfl⟩, rfl⟩
  | @question activity prompt name line awaits =>
    obtain ⟨notes, broken⟩ := breakOff_notes
      { stopped.setScreen terminal.screen.abandoned with readers := [] } task (.command line)
      activity .cancelled
    exact ⟨notes, _, terminal.session.matches_abandon activity, broken⟩

/-- **Shutting down leaves a clean terminal**, on which the next loop prompts. -/
theorem Tended.leftBy (tended : terminal.Tended isLoop none []) {rows columns : Nat}
    (framed : terminal.Framed rows columns) (only : terminal.readers = [⟨task, ticket, purpose⟩])
    (pending : terminal.screen.pending = some ticket) (shut : ShutFrom purpose ending) :
    let left := terminal.shutDown
    left.endings = (task, ending) :: terminal.endings ∧
      left.LeftBy rows columns terminal.session ∧ left.startLoop.ready = true ∧
      left.startLoop.AtPrompt left.tasks left.session := by
  intro left
  obtain ⟨notes, session, keeps, ends⟩ := shutDown_only only pending shut
  have tended' : left.Tended isLoop none [] := tended_shutDown tended
  have nobody : left.readers = [] := congrArg readers ends
  have unready : left.ready = false := congrArg ready ends
  have same : left.session = session := congrArg Terminal.session ends
  have abandoned : left.screen = terminal.screen.abandoned := congrArg Terminal.screen ends
  have blank : terminal.screen.abandoned.grid = .blank rows columns :=
    framed.screen.sized.cleared_eq
  refine ⟨congrArg endings ends, ?_, ?_⟩
  · exact {
      grid := abandoned ▸ blank
      typed := congrArg Screen.typed abandoned
      pending := congrArg Screen.pending abandoned
      reading := congrArg Screen.reading abandoned
      ready := unready
      looping := congrArg looping ends
      readers := nobody
      ended := tended'.ended nobody
      atRest := tended'.atRest nobody
      keeps := same ▸ keeps }
  · exact startLoop_atPrompt unready nobody
      (abandoned ▸ Screen.quiet_abandoned framed.screen.roomy)

/-- **A terminal is tended from the start**, and a loop that is started on it is told apart from
all other tasks. -/
theorem tended_since {screen : Screen} (quiet : screen.Quiet) {before since : List Action}
    (settles : (Terminal.ofScreen screen).Settles (before ++ .startLoop :: since)) :
    Tended (fun task => task = ((Terminal.ofScreen screen).run before).tasks) none []
      ((Terminal.ofScreen screen).run (before ++ .startLoop :: since)) := by
  have begins : (Terminal.ofScreen screen).Tended (fun _ => False) none [] :=
    ⟨.start, fun task known => absurd known.1 (Nat.not_lt_zero task),
      fun _ isOne => isOne.elim nofun False.elim, .nobody rfl quiet⟩
  obtain ⟨first, _, later⟩ := settles_append.mp settles
  rw [run_append]
  exact tended_run (tended_startLoop (tended_run begins first) fun _ => .inr) later

/-- **A terminal is shut down cleanly from every point** at which its prompt loop has not ended:
whatever has been done to it, if the work that this led to comes to rest, the loop reads a command
or an answer, and shutting down ends it there. A loop that is started then sets the terminal up and
prompts. -/
theorem shutDown_cleanly {setup : Setup} {watched : Bool} {screen : Screen}
    (made : Screen.new setup watched = .ok screen) (tall : 1 ≤ setup.rows)
    (wide : 1 ≤ setup.columns) {before since : List Action}
    (settles : (Terminal.ofScreen screen).Settles (before ++ .startLoop :: since)) :
    let task := ((Terminal.ofScreen screen).run before).tasks
    let terminal := (Terminal.ofScreen screen).run (before ++ .startLoop :: since)
    let left := terminal.shutDown
    terminal.IsUnfinished task →
      ∃ ticket purpose ending, terminal.readers = [⟨task, ticket, purpose⟩] ∧
        ShutFrom purpose ending ∧ left.endings = (task, ending) :: terminal.endings ∧
        left.LeftBy setup.rows.toNat setup.columns.toNat terminal.session ∧
        left.startLoop.ready = true ∧ left.startLoop.AtPrompt left.tasks left.session := by
  intro task terminal left isUnfinished
  obtain ⟨roomy, reading, pending⟩ := Screen.new_fits made tall wide
  have sized : (Terminal.ofScreen screen).Framed setup.rows.toNat setup.columns.toNat :=
    ⟨Screen.framed_new made tall wide, nofun⟩
  have framed : terminal.Framed setup.rows.toNat setup.columns.toNat := framed_run sized _
  have tended := tended_since ⟨roomy, reading, pending⟩ settles
  obtain ⟨ticket, purpose, line, only, typing, waits⟩ := tended.reads_of_isUnfinished isUnfinished
  obtain ⟨ending, shut⟩ := waits.shutFrom rfl
  exact ⟨ticket, purpose, ending, only, shut, tended.leftBy framed only typing.pending shut⟩

/-- A program is run and asks for a text, and the terminal is shut down meanwhile. -/
theorem shutDown_cleanly_asking :
    let since : List Action := ["10 input a$", "run"].map fun line => .type [line]
    ∃ screen, Screen.new ⟨2, 3, "]", "_"⟩ true = .ok screen ∧
      (Terminal.ofScreen screen).Settles ([] ++ .startLoop :: since) ∧
      let terminal := (Terminal.ofScreen screen).run ([] ++ .startLoop :: since)
      terminal.IsUnfinished 0 ∧ terminal.session.current = some 10 ∧
        terminal.shutDown.endings = [(0, .cancelled)] ∧
        terminal.shutDown.session.AtRest ∧ terminal.shutDown.session.program.numbers = [10] ∧
        terminal.shutDown.screen.grid = .blank 2 3 ∧ terminal.shutDown.startLoop.ready = true := by
  intro since
  have comes : ∃ screen, Screen.new ⟨2, 3, "]", "_"⟩ true = .ok screen ∧
      let terminal := (Terminal.ofScreen screen).run ([] ++ .startLoop :: since)
      terminal.tasks = 1 ∧ terminal.endings = [] ∧ terminal.session.current = some 10 ∧
        terminal.session.program.numbers = [10] ∧
        terminal.shutDown.endings = [(0, .cancelled)] :=
    ⟨_, rfl, by decide +kernel⟩
  obtain ⟨screen, made, tasks, endings, current, numbers, cancelled⟩ := comes
  let entry : Entry := ⟨"10 INPUT A$", .input "" "A$"⟩
  let stored : Session := { Session.fresh with program := Program.empty.insert 10 entry }
  let asking : Activity := ⟨true, some ⟨[10], 0⟩, .awaiting Session.defaultPrompt "A$"⟩
  have isRead : tokens "10 INPUT A$" = .ok [⟨.number (.int 10), 0⟩, ⟨.keyword "INPUT", 3⟩,
      ⟨.identifier "A$", 9⟩, ⟨.endOfLine, 11⟩] := by cbv
  have isLine : entry.IsLine 10 := ⟨by decide, by rintro ⟨⟩, _, isRead, by cbv⟩
  have stores : Talk.fresh.outcome "10 INPUT A$" = (stored, .finished) :=
    Talk.outcome_ofLine .fresh isLine
  have enough : Session.patience = 999999999993 + 7 := rfl
  have asks : Talk.outcome "RUN" ⟨stored, none⟩ =
      ({ stored with current := some 10, running := true },
        .waiting Session.defaultPrompt asking) := by
    show Session.comesTo stored (.ofLine "RUN") = _
    rw [Session.comesTo, enough, Session.drive, Session.step_typedRun]
    rfl
  have capitals : ["10 input a$", "run"].map Text.capitals = ["10 INPUT A$", "RUN"] := by decide
  have printable : ∀ line ∈ ["10 input a$", "run"], ∀ c ∈ line.toList,
      Text.isPrintable c = true := by
    simp only [← List.all_eq_true]
    decide
  have settles : Talk.fresh.Settles (["10 input a$", "run"].map Text.capitals) := by
    rw [capitals]
    refine Talk.settles_of_terminates ?_
      (.cons stores (by rintro _ ⟨⟩) (.cons asks (by rintro _ ⟨⟩) trivial))
    simp only [List.forall_mem_cons]
    exact ⟨readable_of_tokens isRead, readable_of_tokens tokens_run, List.forall_mem_nil _⟩
  obtain ⟨roomy, reading, pending⟩ := Screen.new_fits made (by decide) (by decide)
  have begins : (Terminal.ofScreen screen).Settles ([] ++ .startLoop :: since) := by
    refine ⟨?_, settles_typed (holds_startLoop ⟨roomy, reading, pending⟩) printable settles⟩
    rintro _ _ (_ | ⟨⟨⟩⟩)
  have isUnfinished :
      ((Terminal.ofScreen screen).run ([] ++ .startLoop :: since)).IsUnfinished 0 := by
    unfold IsUnfinished
    rw [tasks, endings]
    exact ⟨Nat.zero_lt_one, fun _ => List.not_mem_nil⟩
  obtain ⟨_, _, _, _, _, _, left, ready, _⟩ :=
    shutDown_cleanly made (by decide) (by decide) begins isUnfinished
  refine ⟨screen, made, begins, isUnfinished, current, cancelled, left.atRest, ?_, left.grid,
    ready⟩
  rw [left.keeps.program, numbers]

end Left

end Terminal

end LineBasic
