/-
**A prompt loop waits for one line.**

As long as nothing but its prompt loop is started on a terminal, the ledger of the reads accounts
for the loop too: it waits in the ledger with the line of its one read, whether that is a command
or an answer, and while it is at work with a line nobody else does anything. The work comes to a
question or to the prompt, whatever the line comes to, unless the loop has been told to stop. So
a loop that has not ended waits, and it ends only by being told to stop or by being sent away.

* `Terminal.Alone` — actions among which the prompt loop is the only task;
* `Ending.Due`, `Ledger.Turns` — how a loop ends, and what the ledger comes to;
* `Terminal.Keeps`, `Terminal.Busy` — a terminal between two actions, and while its loop works;
* `keeps_press`, `keeps_dismissed` — keys for the loop, and what sends it away;
* `keeps_apply`, `keeps_run` — what an action does to the loop, and any number of them;
* `loop_waits` — what this says of a terminal after any actions.
-/

import LineBasic.Proofs.FrontEnds

namespace LineBasic

/-! ### What is done while a loop waits -/

namespace Action

/-- Whether the prompt loop is to go on after an action, if it was or was not before. -/
def looping (before : Bool) : Action → Bool
  | startLoop => true
  | stop => false
  | shutDown => false
  | _ => before

/-- Whether an action tells the prompt loop to stop. -/
def Stops (action : Action) : Prop :=
  action = .stop ∨ action = .shutDown

/-- Whether an action sends a task away: it cancels the task or leaves its screen behind. -/
def Dismisses (task : Nat) (action : Action) : Prop :=
  action = .cancel task ∨ action = .abandonScreen ∨ action = .shutDown

/-- A loop that is not to go on after an action was not to before, or is told by it to stop. -/
theorem stops_of_looping {action : Action} {before : Bool}
    (told : action.looping before = false) : before = false ∨ action.Stops := by
  cases action with
  | startLoop => cases told
  | stop => exact .inr (.inl rfl)
  | shutDown => exact .inr (.inr rfl)
  | _ => exact .inl told

end Action

/-- How a prompt loop may end: with nothing if it was told to stop, or cancelled if it was sent
away. -/
inductive Ending.Due (told away : Prop) : Ending → Prop where
  | stopped (was : told) : Due told away (.value none)
  | cancelled (was : away) : Due told away .cancelled

theorem Ending.Due.imp {told told' away away' : Prop} {ending : Ending}
    (due : ending.Due told away) (first : told → told') (second : away → away') :
    ending.Due told' away' := by
  cases due with
  | stopped was => exact .stopped (first was)
  | cancelled was => exact .cancelled (second was)

/-- How a loop ends that is sent away from a read: with nothing from its prompt if it has been told
to stop, and as cancelled otherwise. -/
def Purpose.leaving (looping : Bool) : Purpose → Ending
  | .command => if looping then .cancelled else .value none
  | _ => .cancelled

theorem Purpose.due_leaving (looping : Bool) (purpose : Purpose) {away : Prop} (sent : away) :
    (purpose.leaving looping).Due (looping = false) away := by
  cases purpose with
  | command =>
    cases looping with
    | true => exact .cancelled sent
    | false => exact .stopped rfl
  | handOver => exact .cancelled sent
  | answer role activity => exact .cancelled sent

namespace Ledger

/-- What a ledger comes to in which at most one loop waits: the loop is not concerned, goes on
reading, starts, or ends in one of some ways. -/
inductive Turns (ends : Nat → Ending → Prop) (ledger : Ledger) : Ledger → Prop where
  | stays : Turns ends ledger ledger
  | reads {task : Nat} {line : List Char} (waits : ledger.waiting = some (task, line))
      (typed : List Char) : Turns ends ledger { ledger with waiting := some (task, typed) }
  | starts (idle : ledger.waiting = none) : Turns ends ledger ledger.start
  | ends {task : Nat} {line : List Char} {ending : Ending}
      (waits : ledger.waiting = some (task, line)) (due : ends task ending) :
      Turns ends ledger (ledger.close fun _ => ending)

section Turns

variable {ledger after : Ledger} {ends ends' : Nat → Ending → Prop}

theorem Turns.imp (turns : ledger.Turns ends after)
    (implies : ∀ task ending, ends task ending → ends' task ending) :
    ledger.Turns ends' after := by
  cases turns with
  | stays => exact .stays
  | reads waits typed => exact .reads waits typed
  | starts idle => exact .starts idle
  | ends waits due => exact .ends waits (implies _ _ due)

theorem Turns.sound (turns : ledger.Turns ends after) (sound : ledger.Sound) : after.Sound := by
  cases turns with
  | stays => exact sound
  | reads waits typed =>
    refine sound.follow ?_ rfl
    unfold known
    rw [waits]
    rfl
  | starts idle => exact sound_start sound
  | ends waits due => exact sound_close sound _

theorem Turns.started_le (turns : ledger.Turns ends after) : ledger.started ≤ after.started := by
  cases turns with
  | stays => exact Nat.le_refl _
  | reads waits typed => exact Nat.le_refl _
  | starts idle => exact started_start ledger ▸ Nat.le_succ _
  | ends waits due => rw [close_waiting waits]

/-- Who has ended had ended before, or has come to one of the ends. -/
theorem Turns.ended (turns : ledger.Turns ends after) {task : Nat} {ending : Ending}
    (member : (task, ending) ∈ after.ended) : (task, ending) ∈ ledger.ended ∨ ends task ending := by
  cases turns with
  | stays => exact .inl member
  | reads waits typed => exact .inl member
  | starts idle =>
    unfold start at member
    rw [idle] at member
    exact .inl member
  | @ends ended _ _ waits due =>
    rw [close_waiting waits] at member
    rcases List.mem_cons.mp member with latest | earlier
    · cases latest
      exact .inr due
    · exact .inl earlier

end Turns

end Ledger

namespace Terminal

/-! ### A terminal with a prompt loop -/

/-- Where the prompt loop of a terminal is: it has not begun or has ended, or it waits for a
command or an answer, with the line as it is by now. -/
inductive Prompts (terminal : Terminal) : Option (Nat × List Char) → Prop where
  | idle (readers : terminal.readers = []) (quiet : terminal.screen.Quiet) :
      Prompts terminal none
  | waiting {task ticket : Nat} {line : List Char} {asking : Option Activity} {purpose : Purpose}
      (readers : terminal.readers = [⟨task, ticket, purpose⟩])
      (typing : terminal.screen.Typing ticket line) (wired : terminal.desk.wired = true)
      (reads : ReadsFor asking purpose) : Prompts terminal (some (task, line))

/-- **A terminal between two actions**: its ledger accounts for the prompt loop, and its session is
connected to the screen once it has been set up. -/
structure Keeps (terminal : Terminal) (looping : Bool) (ledger : Ledger) : Prop where
  looping : terminal.looping = looping
  wired : terminal.ready = true → terminal.desk.wired = true
  tallies : terminal.Tallies ledger
  prompts : terminal.Prompts ledger.waiting

/-- **A terminal while its prompt loop is at work**: nobody reads, and in the ledger the loop has
not ended. -/
structure Busy (terminal : Terminal) (looping : Bool) (ledger : Ledger) (task : Nat) : Prop where
  looping : terminal.looping = looping
  wired : terminal.desk.wired = true
  tallies : terminal.Tallies ledger
  waits : ∃ line, ledger.waiting = some (task, line)
  readers : terminal.readers = []
  quiet : terminal.screen.Quiet

/-- A terminal has come to rest after an action, and its loop has ended in none but some ways. -/
def Rests (terminal : Terminal) (looping : Bool) (ledger : Ledger)
    (ends : Nat → Ending → Prop) : Prop :=
  ∃ after, terminal.Keeps looping after ∧ ledger.Turns ends after

section Keeps

variable {terminal after : Terminal} {looping : Bool} {ledger : Ledger} {task : Nat}
  {ends ends' : Nat → Ending → Prop} {screen : Screen}

theorem Rests.imp (rests : terminal.Rests looping ledger ends)
    (implies : ∀ task ending, ends task ending → ends' task ending) :
    terminal.Rests looping ledger ends' := by
  obtain ⟨after, keeps, turns⟩ := rests
  exact ⟨after, keeps, turns.imp implies⟩

theorem Keeps.rests (keeps : terminal.Keeps looping ledger) :
    terminal.Rests looping ledger ends :=
  ⟨ledger, keeps, .stays⟩

theorem Keeps.roomy (keeps : terminal.Keeps looping ledger) : terminal.screen.grid.Roomy := by
  have prompts := keeps.prompts
  generalize ledger.waiting = read at prompts
  cases prompts with
  | idle readers quiet => exact quiet.roomy
  | waiting readers typing wired reads => exact typing.roomy

/-- What is written does not concern a prompt loop, nor does connecting the session. -/
theorem Prompts.leaves {read : Option (Nat × List Char)} (prompts : terminal.Prompts read)
    (readers : after.readers = terminal.readers)
    (wired : terminal.desk.wired = true → after.desk.wired = true)
    (leaves : terminal.screen.Leaves after.screen) : after.Prompts read := by
  cases prompts with
  | idle none quiet => exact .idle (readers.trans none) (quiet.leaves leaves)
  | waiting one typing wired' reads =>
    exact .waiting (readers.trans one) (typing.leaves leaves) (wired wired') reads

theorem Keeps.setScreen (keeps : terminal.Keeps looping ledger)
    (leaves : terminal.screen.Leaves screen) :
    (terminal.setScreen screen).Keeps looping ledger :=
  ⟨keeps.looping, keeps.wired, ⟨keeps.tallies.started, keeps.tallies.ended⟩,
    keeps.prompts.leaves rfl id leaves⟩

theorem Keeps.onScreen (keeps : terminal.Keeps looping ledger)
    {work : Screen → Attempt Screen GridFault}
    (fits : ∃ after, work terminal.screen = (after, none) ∧ terminal.screen.Leaves after) :
    (terminal.onScreen work).1.Keeps looping ledger := by
  obtain ⟨after, done, leaves⟩ := onScreen_of_kind fits
  rw [done]
  exact keeps.setScreen leaves

/-! ### A loop at work -/

theorem Busy.beside (busy : terminal.Busy looping ledger task) {desk : Desk} (session : Session)
    (wired : desk.wired = true) (quiet : desk.screen.Quiet) :
    Busy { terminal with desk, session } looping ledger task :=
  ⟨busy.looping, wired, ⟨busy.tallies.started, busy.tallies.ended⟩, busy.waits, busy.readers,
    quiet⟩

theorem Busy.setScreen (busy : terminal.Busy looping ledger task) (quiet : screen.Quiet) :
    (terminal.setScreen screen).Busy looping ledger task :=
  busy.beside terminal.session busy.wired quiet

theorem Busy.finish (busy : terminal.Busy looping ledger task) (ending : Ending) :
    (terminal.finish task ending).Keeps looping (ledger.close fun _ => ending) := by
  obtain ⟨line, waits⟩ := busy.waits
  rw [Ledger.close_waiting waits]
  exact ⟨busy.looping, fun _ => busy.wired,
    ⟨busy.tallies.started, congrArg _ busy.tallies.ended⟩, .idle busy.readers busy.quiet⟩

/-- The loop reads its next line. -/
theorem Busy.rest (busy : terminal.Busy looping ledger task) {ticket : Nat} {purpose : Purpose}
    {asking : Option Activity} (typing : screen.Typing ticket [])
    (reads : ReadsFor asking purpose) :
    ((terminal.setScreen screen).rest ⟨task, ticket, purpose⟩).Keeps looping
      { ledger with waiting := some (task, []) } := by
  have readers : ((terminal.setScreen screen).rest ⟨task, ticket, purpose⟩).readers =
      [⟨task, ticket, purpose⟩] := congrArg _ busy.readers
  exact ⟨busy.looping, fun _ => busy.wired, ⟨busy.tallies.started, busy.tallies.ended⟩,
    .waiting readers typing busy.wired reads⟩

/-- A loop that goes on reading has not ended. -/
theorem Busy.rests (busy : terminal.Busy looping ledger task)
    (keeps : after.Keeps looping { ledger with waiting := some (task, []) }) :
    after.Rests looping ledger ends := by
  obtain ⟨line, waits⟩ := busy.waits
  exact ⟨_, keeps, .reads waits []⟩

/-- What a loop comes to by its own work: it ends only if it has been told to. -/
def ByItself (looping : Bool) (_ : Nat) (ending : Ending) : Prop :=
  ending.Due (looping = false) False

/-- A loop that is to go on prompts. -/
theorem Busy.prompt_looping (busy : terminal.Busy true ledger task) :
    (terminal.prompt task).Keeps true { ledger with waiting := some (task, []) } := by
  obtain ⟨after, ticket, opened, typing⟩ := Screen.opens_openCommand.opened _ busy.quiet
  unfold Terminal.prompt await
  rw [if_pos busy.looping, opened]
  exact busy.rest typing .command

/-- **The loop prompts**, unless it has been told to stop. -/
theorem Busy.prompt (busy : terminal.Busy looping ledger task) :
    (terminal.prompt task).Rests looping ledger (ByItself looping) := by
  cases looping with
  | true => exact busy.rests busy.prompt_looping
  | false =>
    have stopped : terminal.prompt task = terminal.finish task (.value none) :=
      if_neg (by rw [busy.looping]; exact Bool.false_ne_true)
    obtain ⟨line, waits⟩ := busy.waits
    rw [stopped]
    exact ⟨_, busy.finish (.value none), .ends waits (.stopped rfl)⟩

/-- **The loop survives what its command comes to.** -/
theorem Busy.conclude (busy : terminal.Busy looping ledger task) (line : String)
    {fault : Option Fault} (goesOn : fault ≠ some .cancelled) :
    (terminal.conclude task (.command line) fault).Rests looping ledger (ByItself looping) := by
  unfold Terminal.conclude
  split
  · exact absurd rfl goesOn
  · next same => cases same
  · next same => cases same
  · exact busy.prompt
  · next typed reason _ same =>
    cases same
    have noted : Busy { terminal with desk := terminal.desk.note (.commandBroken line) } looping
        ledger task := busy.beside terminal.session busy.wired busy.quiet
    obtain ⟨after, printed, quiet⟩ := Terminal.onScreen_of_kind
      (Screen.lasting_quiet.prints noted.quiet (faultReport reason ++ "\n"))
    have printed' : Terminal.onScreen (Screen.printLine (faultReport reason)) _ = _ := printed
    simp only [printed']
    exact (noted.setScreen quiet).prompt

/-- No command comes to a cancellation by itself. -/
theorem ne_cancelled_of_comesTo {session after : Session} {activity : Activity} {fault : Fault}
    (comes : session.comesTo activity = (after, .fault fault)) :
    some fault ≠ some .cancelled := by
  obtain ⟨_, _, breaks⟩ := Session.fault_drive comes
  cases breaks <;> exact nofun

/-- **The work of a loop comes to a question or to its prompt**, unless the loop has been told to
stop. A line that is given up when its steps run out has come to its end. -/
theorem Busy.work (busy : terminal.Busy looping ledger task) (line : String)
    (activity : Activity) :
    (terminal.work task (.command line) activity).Rests looping ledger (ByItself looping) := by
  obtain ⟨desk, performed, wired, quiet⟩ :=
    Desk.perform_wired busy.wired busy.quiet terminal.session activity
  unfold Terminal.work
  rw [performed]
  rcases comes : terminal.session.comesTo activity with
    ⟨session, ⟨question, waiting⟩ | _ | failure | fault | rest⟩
  · have left := busy.beside session wired quiet
    obtain ⟨after, ticket, opened, typing⟩ := (Screen.opens_openRead question).opened _ quiet
    have opened' : Screen.openRead question
        ({ terminal with desk, session } : Terminal).screen = (after, .ok ticket) := opened
    simp only [opened']
    exact left.rests (left.rest typing (.answer line waiting))
  · exact (busy.beside session wired quiet).conclude line nofun
  · exact (busy.beside session wired quiet).conclude line nofun
  · exact (busy.beside session wired quiet).conclude line (ne_cancelled_of_comesTo comes)
  · exact (busy.beside session wired quiet).conclude line nofun

/-- A loop goes on with the line that it was waiting for. -/
theorem Busy.resume (busy : terminal.Busy looping ledger task) {asking : Option Activity}
    {purpose : Purpose} (reads : ReadsFor asking purpose) (ticket : Nat) (line : String) :
    (terminal.resume ⟨task, ticket, purpose⟩ line).Rests looping ledger (ByItself looping) := by
  cases reads with
  | command =>
    have noted : Busy { terminal with desk := terminal.desk.note (.commandRead line) } looping
        ledger task := busy.beside terminal.session busy.wired busy.quiet
    exact noted.work line (.ofLine line)
  | answer typed activity =>
    let answered := terminal.session.answer activity line
    have given : Busy { terminal with session := answered.1 } looping ledger task :=
      busy.beside answered.1 busy.wired busy.quiet
    exact given.work typed answered.2

/-! ### Keys, and sending the loop away -/

/-- When the only reader has gone away its loop is at work. -/
theorem Keeps.busy (keeps : terminal.Keeps looping ledger) {line : List Char}
    (waits : ledger.waiting = some (task, line)) (wired : terminal.desk.wired = true)
    (quiet : screen.Quiet) :
    Busy { terminal.setScreen screen with readers := [] } looping ledger task :=
  ⟨keeps.looping, wired, ⟨keeps.tallies.started, keeps.tallies.ended⟩, ⟨line, waits⟩, rfl, quiet⟩

/-- **Keys edit the line of the loop, or hand it over**, and then the loop comes to rest. -/
theorem keeps_press (keeps : terminal.Keeps looping ledger) (keys : List Key) :
    (terminal.press keys).1.Rests looping ledger (ByItself looping) := by
  have prompts := keeps.prompts
  generalize waits : ledger.waiting = read at prompts
  cases prompts with
  | idle readers quiet =>
    rw [press_quiet quiet]
    exact keeps.rests
  | @waiting task ticket line asking purpose readers typing wired reads =>
    by_cases enters : Key.enter ∈ keys
    · obtain ⟨front, rest, rfl, goesOn⟩ := List.eq_append_cons_of_mem enters
      obtain ⟨after, pressed, quiet⟩ := typing.pressAll_enter goesOn rest
      have only : (terminal.setScreen after).readers = [⟨task, ticket, purpose⟩] := readers
      unfold press
      rw [pressed]
      simp only [receive_only only quiet.pending]
      exact (keeps.busy waits wired quiet).resume reads ticket _
    · obtain ⟨after, pressed, typing'⟩ := typing.pressAll enters
      unfold press
      rw [pressed]
      exact ⟨{ ledger with waiting := some (task, keys.foldl Key.edit line) },
        ⟨keeps.looping, keeps.wired, ⟨keeps.tallies.started, keeps.tallies.ended⟩,
          .waiting readers typing' wired reads⟩,
        .reads waits _⟩

/-- A loop that is sent away from a question ends as cancelled. -/
theorem Busy.breakOff (busy : terminal.Busy looping ledger task) (line : String)
    (activity : Activity) :
    (terminal.breakOff task (.command line) activity .cancelled).Keeps looping
      (ledger.close fun _ => .cancelled) := by
  obtain ⟨desk, broken, wired, quiet⟩ := (Screen.lasting_quiet.takes true).breakOff
    ⟨busy.wired, busy.quiet⟩ terminal.session activity .cancelled
  unfold Terminal.breakOff
  rw [broken]
  exact (busy.beside _ wired quiet).finish .cancelled

/-- A loop that is sent away ends. -/
theorem Busy.dismiss {before : Terminal} {ticket : Nat} {purpose : Purpose}
    {asking : Option Activity} (reads : ReadsFor asking purpose)
    (busy : (before.remove ⟨task, ticket, purpose⟩).Busy looping ledger task) :
    (before.dismiss ⟨task, ticket, purpose⟩).Keeps looping
      (ledger.close fun _ => purpose.leaving looping) := by
  unfold Terminal.dismiss
  cases reads with
  | command =>
    have same : before.looping = looping := busy.looping
    rw [same]
    exact busy.finish _
  | answer line activity => exact busy.breakOff line activity

/-- The only reader is the loop, and its task waits in the ledger. -/
theorem Prompts.of_readers {read : Option (Nat × List Char)} (prompts : terminal.Prompts read)
    {ticket : Nat} {purpose : Purpose} (only : terminal.readers = [⟨task, ticket, purpose⟩]) :
    ∃ line asking, read = some (task, line) ∧ terminal.screen.Typing ticket line ∧
      terminal.desk.wired = true ∧ ReadsFor asking purpose := by
  cases prompts with
  | idle readers quiet => cases readers.symm.trans only
  | @waiting _ _ line asking _ readers typing wired reads =>
    cases readers.symm.trans only
    exact ⟨line, asking, rfl, typing, wired, reads⟩

/-- A loop that is cancelled ends. -/
theorem keeps_cancel (keeps : terminal.Keeps looping ledger) {ticket : Nat} {purpose : Purpose}
    (only : terminal.readers = [⟨task, ticket, purpose⟩]) :
    (terminal.cancel task).Keeps looping (ledger.close fun _ => purpose.leaving looping) := by
  obtain ⟨line, asking, waits, typing, wired, reads⟩ := keeps.prompts.of_readers only
  obtain ⟨after, quiet, left⟩ := remove_typing only typing
  have busy := keeps.busy waits wired quiet
  rw [← left] at busy
  rw [cancel_only only]
  exact busy.dismiss reads

/-- A loop whose screen is left behind ends. -/
theorem keeps_abandon (keeps : terminal.Keeps looping ledger) {ticket : Nat} {purpose : Purpose}
    (only : terminal.readers = [⟨task, ticket, purpose⟩]) :
    terminal.abandonScreen.Keeps looping (ledger.close fun _ => purpose.leaving looping) := by
  obtain ⟨line, asking, waits, typing, wired, reads⟩ := keeps.prompts.of_readers only
  have quiet := Screen.quiet_abandoned keeps.roomy
  have only' : (terminal.setScreen terminal.screen.abandoned).readers =
      [⟨task, ticket, purpose⟩] := only
  have busy := keeps.busy waits wired quiet
  rw [← remove_only only' quiet.pending] at busy
  rw [abandon_only only typing.pending]
  exact busy.dismiss reads

/-- A screen may be left behind that no loop reads on. -/
theorem keeps_abandon_idle (keeps : terminal.Keeps looping ledger)
    (none : terminal.readers = []) : terminal.abandonScreen.Keeps looping ledger := by
  have quiet := Screen.quiet_abandoned keeps.roomy
  have prompts := keeps.prompts
  rw [abandon_idle none]
  generalize waits : ledger.waiting = read at prompts
  cases prompts with
  | idle readers _ =>
    exact ⟨keeps.looping, keeps.wired, ⟨keeps.tallies.started, keeps.tallies.ended⟩,
      waits ▸ .idle readers quiet⟩
  | waiting readers typing wired reads => cases none.symm.trans readers

/-- A loop can be told to stop at any time, and its terminal may have to be set up again. -/
theorem Keeps.stopped (keeps : terminal.Keeps looping ledger) (ready : Bool)
    (readied : ready = true → terminal.ready = true) :
    Keeps { terminal.stop with ready } false ledger :=
  ⟨rfl, fun isReady => keeps.wired (readied isReady),
    ⟨keeps.tallies.started, keeps.tallies.ended⟩,
    keeps.prompts.leaves rfl id ⟨keeps.roomy, rfl, rfl, rfl⟩⟩

/-- **A loop that is sent away ends**, in the way that depends on what it reads for and on whether
it has been told to stop. -/
theorem keeps_dismissed (keeps : terminal.Keeps looping ledger) {ticket : Nat} {purpose : Purpose}
    (only : terminal.readers = [⟨task, ticket, purpose⟩]) {action : Action}
    (dismisses : action.Dismisses task) :
    (action.apply terminal).1.Keeps (action.looping looping)
      (ledger.close fun _ => purpose.leaving (action.looping looping)) := by
  rcases dismisses with rfl | rfl | rfl
  · exact keeps_cancel keeps only
  · exact keeps_abandon keeps only
  · exact keeps_abandon (keeps.stopped false nofun) only

/-! ### What is done to the terminal as a whole -/

theorem Keeps.setUp (keeps : terminal.Keeps looping ledger) :
    terminal.setUp.1.Keeps looping ledger := by
  obtain ⟨after, done, leaves⟩ := (Screen.Lasting.leaves terminal.screen).setUp
    ⟨keeps.roomy, rfl, rfl, rfl⟩
  rw [done]
  exact ⟨keeps.looping, fun _ => rfl, ⟨keeps.tallies.started, keeps.tallies.ended⟩,
    keeps.prompts.leaves rfl (fun _ => rfl) leaves⟩

theorem Keeps.showBanner (keeps : terminal.Keeps looping ledger) :
    terminal.showBanner.1.Keeps looping ledger := by
  obtain ⟨after, shown, leaves⟩ := (Screen.Lasting.leaves terminal.screen).printLines
    ⟨keeps.roomy, rfl, rfl, rfl⟩ banner
  unfold Terminal.showBanner
  rw [shown]
  exact keeps.setScreen leaves

theorem Keeps.reset (keeps : terminal.Keeps looping ledger) :
    terminal.reset.1.Keeps looping ledger := by
  obtain ⟨desk, done, wired, leaves⟩ := (Screen.Lasting.leaves terminal.screen).reset
    ⟨keeps.roomy, rfl, rfl, rfl⟩
  rw [done]
  exact ⟨keeps.looping, fun ready => wired.trans (keeps.wired ready),
    ⟨keeps.tallies.started, keeps.tallies.ended⟩, keeps.prompts.leaves rfl wired.trans leaves⟩

/-- **A loop that is started prompts**, on a terminal that is set up if it was not. -/
theorem keeps_startLoop (keeps : terminal.Keeps looping ledger) (idle : ledger.waiting = none) :
    terminal.startLoop.Keeps true ledger.start := by
  have started : ledger.start =
      { ledger with started := terminal.tasks + 1, waiting := some (terminal.tasks, []) } := by
    unfold Ledger.start
    rw [idle, keeps.tallies.started]
  have prompts := keeps.prompts
  rw [idle] at prompts
  obtain ⟨readers, quiet⟩ := prompts
  have begins : ∀ (desk : Desk) (ready : Bool), desk.wired = true → desk.screen.Quiet →
      Busy { terminal.withTask with desk, ready, looping := true } true ledger.start
        terminal.tasks := by
    intro desk ready wired quiet
    rw [started]
    exact ⟨rfl, wired, ⟨rfl, keeps.tallies.ended⟩, ⟨[], rfl⟩, readers, quiet⟩
  have same : ({ ledger.start with waiting := some (terminal.tasks, []) } : Ledger) =
      ledger.start := by
    rw [started]
  rw [← same]
  unfold startLoop
  cases ready : terminal.ready with
  | true => exact (begins terminal.desk _ (keeps.wired ready) quiet).prompt_looping
  | false =>
    obtain ⟨after, done, quiet'⟩ := @Screen.Lasting.setUp Screen.Quiet terminal.withTask
      Screen.lasting_quiet quiet
    simp only [Bool.false_eq_true, if_false, done]
    exact (begins { terminal.desk with screen := after, wired := true } true rfl
      quiet').prompt_looping

/-- How a loop may end by an action. -/
def EndsBy (action : Action) (looping : Bool) (task : Nat) (ending : Ending) : Prop :=
  ending.Due (action.looping looping = false) (action.Dismisses task)

/-- What sends nobody away but the loop, and does nothing if the loop does not read. -/
theorem keeps_sentAway (keeps : terminal.Keeps looping ledger) {action : Action}
    (idle : (∀ reader ∈ terminal.readers, ¬action.Dismisses reader.task) →
      (action.apply terminal).1.Keeps (action.looping looping) ledger) :
    (action.apply terminal).1.Rests (action.looping looping) ledger (EndsBy action looping) := by
  have prompts := keeps.prompts
  generalize waits : ledger.waiting = read at prompts
  cases prompts with
  | idle readers quiet => exact (idle (by rw [readers]; exact List.forall_mem_nil _)).rests
  | @waiting task ticket line asking purpose readers typing wired reads =>
    by_cases dismisses : action.Dismisses task
    · exact ⟨_, keeps_dismissed keeps readers dismisses,
        .ends waits (purpose.due_leaving _ dismisses)⟩
    · exact (idle (by rw [readers]; exact List.forall_mem_singleton.mpr dismisses)).rests

/-- **What an action does to the prompt loop**, if it starts no other task. -/
theorem keeps_apply (keeps : terminal.Keeps looping ledger) (sound : ledger.Sound)
    {action : Action}
    (alone : action.starts = true → action = .startLoop ∧ ∀ task, ¬terminal.IsUnfinished task) :
    (action.apply terminal).1.Rests (action.looping looping) ledger (EndsBy action looping) := by
  have roomy := keeps.roomy
  have byItself : ∀ task ending, ByItself looping task ending →
      ending.Due (looping = false) (action.Dismisses task) :=
    fun _ _ due => due.imp id False.elim
  cases action with
  | print text => exact (keeps.onScreen (Screen.print_fits roomy text)).rests
  | printLine text => exact (keeps.onScreen (Screen.print_fits roomy (text ++ "\n"))).rests
  | put text => exact (keeps.onScreen (Screen.onGrid_fits (Grid.fits_put roomy _))).rests
  | newline => exact (keeps.onScreen (Screen.onGrid_fits (Grid.fits_newline roomy))).rests
  | scroll =>
    exact (keeps.onScreen (Screen.onGrid_fits (Grid.fits_scroll roomy.wide roomy.tall))).rests
  | clear => exact (keeps.setScreen (Screen.leaves_clear roomy)).rests
  | render => exact (keeps.setScreen (Screen.leaves_render roomy)).rests
  | press keys => exact (keeps_press keeps keys).imp byItself
  | type lines => exact (keeps_press keeps _).imp byItself
  | readLine prompt => cases (alone rfl).1
  | readCommand => cases (alone rfl).1
  | executeLine line => cases (alone rfl).1
  | startLoop =>
    have idle := (keeps.tallies.idle_iff sound).mpr (alone rfl).2
    exact ⟨_, keeps_startLoop keeps idle, .starts idle⟩
  | cancel task =>
    refine keeps_sentAway keeps fun spares => ?_
    have kept : terminal.cancel task = terminal :=
      cancel_ended fun reader member same => spares reader member (.inl (same ▸ rfl))
    show (terminal.cancel task).Keeps looping ledger
    rw [kept]
    exact keeps
  | abandonScreen =>
    refine keeps_sentAway keeps fun spares => keeps_abandon_idle keeps ?_
    exact List.eq_nil_iff_forall_not_mem.mpr fun reader member =>
      spares reader member (.inr (.inl rfl))
  | setUp => exact keeps.setUp.rests
  | showBanner => exact keeps.showBanner.rests
  | stop => exact (keeps.stopped terminal.ready id).rests
  | reset => exact keeps.reset.rests
  | shutDown =>
    refine keeps_sentAway keeps fun spares => keeps_abandon_idle (keeps.stopped false nofun) ?_
    exact List.eq_nil_iff_forall_not_mem.mpr fun reader member =>
      spares reader member (.inr (.inr rfl))

/-- Actions among which the prompt loop is the only task: no other one is started, and the loop
only while none is unfinished. -/
def Alone : Terminal → List Action → Prop
  | _, [] => True
  | terminal, action :: rest =>
    (action.starts = true → action = .startLoop ∧ ∀ task, ¬terminal.IsUnfinished task) ∧
      Alone (action.apply terminal).1 rest

theorem alone_append {first second : List Action} :
    terminal.Alone (first ++ second) ↔
      terminal.Alone first ∧ (terminal.run first).Alone second := by
  induction first generalizing terminal with
  | nil => exact ⟨fun alone => ⟨trivial, alone⟩, And.right⟩
  | cons action rest hypothesis =>
    exact (and_congr_right fun _ => hypothesis).trans and_assoc.symm

/-- How a loop may end by one of some actions, if it was to go on before or was not. -/
def EndsIn (actions : List Action) (looping : Bool) (task : Nat) (ending : Ending) : Prop :=
  ending.Due (looping = false ∨ ∃ action ∈ actions, action.Stops)
    (∃ action ∈ actions, action.Dismisses task)

/-- How a loop ends by the first of some actions. -/
theorem EndsBy.endsIn {action : Action} {rest : List Action} {ending : Ending}
    (ended : EndsBy action looping task ending) : EndsIn (action :: rest) looping task ending := by
  refine Ending.Due.imp ended (fun told => ?_) fun away => ⟨action, List.mem_cons_self, away⟩
  exact (Action.stops_of_looping told).imp_right fun stops =>
    ⟨action, List.mem_cons_self, stops⟩

/-- How a loop ends by the others. -/
theorem EndsIn.cons {action : Action} {rest : List Action} {ending : Ending}
    (ended : EndsIn rest (action.looping looping) task ending) :
    EndsIn (action :: rest) looping task ending := by
  refine Ending.Due.imp ended ?_ fun ⟨other, member, away⟩ =>
    ⟨other, List.mem_cons_of_mem _ member, away⟩
  rintro (told | ⟨other, member, stops⟩)
  · exact (Action.stops_of_looping told).imp_right fun stops =>
      ⟨action, List.mem_cons_self, stops⟩
  · exact .inr ⟨other, List.mem_cons_of_mem _ member, stops⟩

/-- **What any number of actions does to the prompt loop**, if it is the only task. -/
theorem keeps_run (keeps : terminal.Keeps looping ledger) (sound : ledger.Sound)
    {actions : List Action} (alone : terminal.Alone actions) :
    ∃ looping' after, (terminal.run actions).Keeps looping' after ∧ after.Sound ∧
      ledger.started ≤ after.started ∧
      ∀ task ending, (task, ending) ∈ after.ended →
        (task, ending) ∈ ledger.ended ∨ EndsIn actions looping task ending := by
  induction actions generalizing terminal looping ledger with
  | nil => exact ⟨looping, ledger, keeps, sound, Nat.le_refl _, fun _ _ => .inl⟩
  | cons action rest hypothesis =>
    obtain ⟨first, later⟩ := alone
    obtain ⟨middle, keeps', turns⟩ := keeps_apply keeps sound first
    obtain ⟨looping', after, keeps'', sound', started, ended⟩ :=
      hypothesis keeps' (turns.sound sound) later
    refine ⟨looping', after, keeps'', sound', turns.started_le.trans started, ?_⟩
    intro task ending member
    rcases ended task ending member with before | inRest
    · exact (turns.ended before).imp_right EndsBy.endsIn
    · exact .inr inRest.cons

end Keeps

/-! ### The loop waits -/

/-- **A live prompt loop waits for one line.** The screen waits exactly while a task is unfinished,
and then it is the only one: it is the only reader, and the line that the keys make is for it. What
sends it away ends it: with nothing from its prompt if it has been told to stop by then, and as
cancelled otherwise. No task ends twice. -/
structure WaitsForOne (terminal : Terminal) : Prop where
  waiting : terminal.screen.pending ≠ none ↔ ∃! task, terminal.IsUnfinished task
  idle : terminal.screen.pending = none ↔ ∀ task, ¬terminal.IsUnfinished task
  reads : ∀ task, terminal.IsUnfinished task → ∃ ticket purpose,
    terminal.readers = [⟨task, ticket, purpose⟩] ∧ terminal.screen.pending = some ticket ∧
      terminal.screen.reading = true
  leaves : ∀ reader ∈ terminal.readers, ∀ action : Action, action.Dismisses reader.task →
    (action.apply terminal).1.endings =
        (reader.task, reader.purpose.leaving (action.looping terminal.looping)) ::
          terminal.endings ∧
      ∀ task, ¬(action.apply terminal).1.IsUnfinished task
  once : (terminal.endings.map Prod.fst).Nodup

section Waits

variable {terminal : Terminal} {looping : Bool} {ledger : Ledger}

/-- The screen waits exactly while a loop waits in the ledger. -/
theorem Prompts.pending_iff {read : Option (Nat × List Char)} (prompts : terminal.Prompts read) :
    terminal.screen.pending = none ↔ read = none := by
  cases prompts with
  | idle readers quiet => simp [quiet.pending]
  | waiting readers typing wired reads => simp [typing.pending]

/-- A task that has not ended is the only reader, for whom the keys make a line. -/
theorem Keeps.reads (keeps : terminal.Keeps looping ledger) (sound : ledger.Sound) {task : Nat}
    (isUnfinished : terminal.IsUnfinished task) :
    ∃ ticket purpose, terminal.readers = [⟨task, ticket, purpose⟩] ∧
      terminal.screen.pending = some ticket ∧ terminal.screen.reading = true := by
  have waits := (keeps.tallies.isUnfinished_iff sound task).mp isUnfinished
  have prompts := keeps.prompts
  generalize ledger.waiting = read at waits prompts
  cases prompts with
  | idle readers quiet => cases waits
  | waiting readers typing wired reads =>
    cases waits
    exact ⟨_, _, readers, typing.pending, typing.reading⟩

/-- Who reads has ended when it has been sent away, and then nobody is unfinished. -/
theorem Keeps.leaves (keeps : terminal.Keeps looping ledger) (sound : ledger.Sound)
    {reader : Reader} (member : reader ∈ terminal.readers) {action : Action}
    (dismisses : action.Dismisses reader.task) :
    (action.apply terminal).1.endings =
        (reader.task, reader.purpose.leaving (action.looping terminal.looping)) ::
          terminal.endings ∧
      ∀ task, ¬(action.apply terminal).1.IsUnfinished task := by
  have prompts := keeps.prompts
  generalize waits : ledger.waiting = read at prompts
  cases prompts with
  | idle readers quiet =>
    rw [readers] at member
    cases member
  | waiting readers typing wired reads =>
    rw [readers, List.mem_singleton] at member
    subst member
    have keeps' := keeps_dismissed keeps readers dismisses
    have idle := (keeps'.tallies.idle_iff (Ledger.sound_close sound _)).mp
    have ended := keeps'.tallies.ended
    rw [Ledger.close_waiting waits] at idle ended
    rw [ended, keeps.tallies.ended, keeps.looping]
    exact ⟨rfl, idle rfl⟩

theorem Keeps.waitsForOne (keeps : terminal.Keeps looping ledger) (sound : ledger.Sound) :
    terminal.WaitsForOne := by
  have pending := keeps.prompts.pending_iff
  have once : (ledger.ended.map Prod.fst).Nodup :=
    sound.once.sublist (List.sublist_append_right _ _)
  exact {
    waiting := (not_congr pending).trans (keeps.tallies.waiting_iff sound)
    idle := pending.trans (keeps.tallies.idle_iff sound)
    reads := fun _ => keeps.reads sound
    leaves := fun _ member _ => keeps.leaves sound member
    once := keeps.tallies.ended ▸ once }

/-- **A loop that was started is unfinished or has ended by what was done since.** -/
theorem Keeps.since (keeps : terminal.Keeps looping ledger) (sound : ledger.Sound)
    (idle : ledger.waiting = none) {since : List Action} (alone : terminal.startLoop.Alone since) :
    (terminal.startLoop.run since).IsUnfinished terminal.tasks ∨
      ∃ ending, (terminal.tasks, ending) ∈ (terminal.startLoop.run since).endings ∧
        ending.Due (∃ action ∈ since, action.Stops)
          (∃ action ∈ since, action.Dismisses terminal.tasks) := by
  obtain ⟨_, after, keeps', _, started, ended⟩ :=
    keeps_run (keeps_startLoop keeps idle) (Ledger.sound_start sound) alone
  by_cases live : (terminal.startLoop.run since).IsUnfinished terminal.tasks
  · exact .inl live
  · have known : terminal.tasks < (terminal.startLoop.run since).tasks := by
      rw [keeps'.tallies.started, keeps.tallies.started]
      rw [Ledger.started_start] at started
      exact started
    obtain ⟨ending, member⟩ :
        ∃ ending, (terminal.tasks, ending) ∈ (terminal.startLoop.run since).endings := by
      by_contra none
      exact live ⟨known, not_exists.mp none⟩
    refine .inr ⟨ending, member, ?_⟩
    rw [keeps'.tallies.ended] at member
    rcases ended terminal.tasks ending member with early | due
    · -- This loop had not ended before it was started.
      have fresh : terminal.tasks ∉ ledger.ended.map Prod.fst := fun inside =>
        absurd ((sound.all _).mp (List.mem_append_right _ inside))
          (keeps.tallies.started ▸ Nat.lt_irrefl _)
      rw [Ledger.start, idle] at early
      exact absurd (List.mem_map_of_mem early) fresh
    · exact due.imp (fun told => told.resolve_left nofun) id

/-- **A prompt loop waits for one line or has ended**, whatever is done to a terminal on which it
is the only task, and whatever the lines come to that it executes. It ends only by being told to
stop, or as cancelled by being sent away, and not by any line. -/
theorem loop_waits {setup : Setup} {watched : Bool} {screen : Screen}
    (made : Screen.new setup watched = .ok screen) (tall : 1 ≤ setup.rows)
    (wide : 1 ≤ setup.columns) {actions : List Action}
    (alone : (Terminal.ofScreen screen).Alone actions) :
    let terminal := (Terminal.ofScreen screen).run actions
    terminal.WaitsForOne ∧ ∀ before since, actions = before ++ .startLoop :: since →
      let task := ((Terminal.ofScreen screen).run before).tasks
      terminal.IsUnfinished task ∨ ∃ ending, (task, ending) ∈ terminal.endings ∧
        ending.Due (∃ action ∈ since, action.Stops) (∃ action ∈ since, action.Dismisses task) := by
  intro terminal
  obtain ⟨roomy, reading, pending⟩ := Screen.new_fits made tall wide
  have begins : (Terminal.ofScreen screen).Keeps false .empty :=
    ⟨rfl, nofun, ⟨rfl, rfl⟩, .idle rfl ⟨roomy, reading, pending⟩⟩
  obtain ⟨_, ledger, keeps, sound, _⟩ := keeps_run begins Ledger.sound_empty alone
  refine ⟨keeps.waitsForOne sound, ?_⟩
  rintro before since rfl task
  -- The run has two stretches: one that comes to the start of this loop, and one since then.
  obtain ⟨alone₁, starts, alone₂⟩ := alone_append.mp alone
  obtain ⟨_, ledger₁, keeps₁, sound₁, _⟩ := keeps_run begins Ledger.sound_empty alone₁
  have idle := (keeps₁.tallies.idle_iff sound₁).mpr (starts rfl).2
  have same : terminal = ((Terminal.ofScreen screen).run before).startLoop.run since :=
    run_append before (.startLoop :: since) _
  rw [same]
  exact keeps₁.since sound₁ idle alone₂

/-- Two loops are sent away from their prompts, the first one after it was told to stop; a third one
waits still, after a line that fails and a reset while it asks. -/
theorem loop_waits_third :
    let before : List Action := [.startLoop, .shutDown, .startLoop, .cancel 1]
    let since : List Action := [.type ["PRINT 1/0"], .type ["INPUT A"], .reset]
    ∃ screen, Screen.new ⟨2, 3, "]", "_"⟩ true = .ok screen ∧
      (Terminal.ofScreen screen).Alone (before ++ .startLoop :: since) ∧
      ((Terminal.ofScreen screen).run before).endings = [(1, .cancelled), (0, .value none)] ∧
      let terminal := (Terminal.ofScreen screen).run (before ++ .startLoop :: since)
      terminal.IsUnfinished 2 ∧ terminal.screen.pending ≠ none := by
  intro before since
  have made : Screen.new ⟨2, 3, "]", "_"⟩ true = .ok _ := rfl
  refine ⟨_, made, ?_⟩
  generalize begins : Terminal.ofScreen _ = start
  have first : (start.run [.startLoop, .shutDown]).tasks = 1 ∧
      (start.run [.startLoop, .shutDown]).endings = [(0, .value none)] := by
    rw [← begins]
    exact ⟨rfl, rfl⟩
  have second : (start.run before).tasks = 2 ∧
      (start.run before).endings = [(1, .cancelled), (0, .value none)] := by
    rw [← begins]
    exact ⟨rfl, rfl⟩
  have fresh : ∀ task, ¬start.IsUnfinished task := by
    rw [← begins]
    rintro task ⟨small, _⟩
    exact absurd small (Nat.not_lt_zero task)
  have over₁ : ∀ task, ¬(start.run [.startLoop, .shutDown]).IsUnfinished task := by
    rintro task ⟨small, unended⟩
    rw [first.1] at small
    rw [first.2] at unended
    interval_cases task
    exact unended (.value none) (by decide)
  have over₂ : ∀ task, ¬(start.run before).IsUnfinished task := by
    rintro task ⟨small, unended⟩
    rw [second.1] at small
    rw [second.2] at unended
    interval_cases task
    · exact unended (.value none) (by decide)
    · exact unended .cancelled (by decide)
  have alone : start.Alone (before ++ .startLoop :: since) :=
    ⟨fun _ => ⟨rfl, fresh⟩, by rintro ⟨⟩, fun _ => ⟨rfl, over₁⟩, by rintro ⟨⟩,
      fun _ => ⟨rfl, over₂⟩, by rintro ⟨⟩, by rintro ⟨⟩, by rintro ⟨⟩, trivial⟩
  refine ⟨alone, second.2, ?_⟩
  rw [← begins] at alone
  obtain ⟨waits, ends⟩ := loop_waits made (by decide) (by decide) alone
  rw [begins] at waits ends
  have live : (start.run (before ++ .startLoop :: since)).IsUnfinished 2 := by
    have due := ends before since rfl
    rw [second.1] at due
    refine due.resolve_right ?_
    rintro ⟨ending, _, ⟨action, member, told⟩ | ⟨action, member, away⟩⟩
    · revert action
      unfold Action.Stops
      decide
    · revert action
      unfold Action.Dismisses
      decide
  exact ⟨live, fun none => waits.idle.mp none 2 live⟩

end Waits

end Terminal

end LineBasic
