/-
**A line is delivered once.**

A terminal that is used as a screen keeps to its ledger, whatever is written meanwhile: it has as
many tasks, they end in the same way, and the same read waits with the same line. So the keys are
read exactly when a read waits, that read is the only one that has not ended, and it ends once.

* `Screen.Typing`, `Screen.Quiet` — a screen on which a read waits, or none;
* `Typing.pressAll`, `Typing.pressAll_enter` — what keys do to the read;
* `Terminal.Follows`, `follows_apply`, `follows_run` — a terminal keeps to its ledger;
* `DeliversOnce`, `delivered_once` — what this says of a terminal after any actions.
-/

import LineBasic.Proofs.Ledger
import LineBasic.Proofs.Room

namespace LineBasic

/-! ### A screen that reads -/

namespace Screen

/-- A screen with room on which the read with a ticket waits, with the line as it is by now. -/
structure Typing (screen : Screen) (ticket : Nat) (line : List Char) : Prop where
  roomy : screen.grid.Roomy
  reading : screen.reading = true
  pending : screen.pending = some ticket
  typed : screen.typed = line

/-- A screen with room on which no read waits. -/
structure Quiet (screen : Screen) : Prop where
  roomy : screen.grid.Roomy
  reading : screen.reading = false
  pending : screen.pending = none

section Reading

variable {screen after : Screen} {ticket : Nat} {line : List Char}

theorem Typing.leaves (typing : screen.Typing ticket line) (leaves : screen.Leaves after) :
    after.Typing ticket line :=
  ⟨leaves.roomy, leaves.reading.trans typing.reading, leaves.pending.trans typing.pending,
    leaves.typed.trans typing.typed⟩

theorem Quiet.leaves (quiet : screen.Quiet) (leaves : screen.Leaves after) : after.Quiet :=
  ⟨leaves.roomy, leaves.reading.trans quiet.reading, leaves.pending.trans quiet.pending⟩

/-- Nobody reads on a screen that is left behind. -/
theorem quiet_abandoned (roomy : screen.grid.Roomy) : screen.abandoned.Quiet :=
  ⟨Grid.roomy_cleared roomy, rfl, rfl⟩

/-- A key that does not end the line edits it. -/
theorem Typing.press (typing : screen.Typing ticket line) {key : Key} (goesOn : key ≠ .enter) :
    ∃ after, screen.press key = (after, .ok none) ∧ after.Typing ticket (key.edit line) := by
  obtain ⟨roomy, reading, pending, rfl⟩ := typing
  have shown : ∀ typed : List Char,
      Typing (render { screen with typed, reading := true }) ticket typed := by
    intro typed
    have bare : Typing { screen with typed, reading := true } ticket typed :=
      ⟨roomy, rfl, pending, rfl⟩
    exact bare.leaves (leaves_render roomy)
  have stays : screen.Typing ticket screen.typed := ⟨roomy, reading, pending, rfl⟩
  cases key with
  | enter => exact absurd rfl goesOn
  | backspace =>
    simp only [Screen.press, reading, Key.edit]
    split
    · next empty =>
      rw [empty] at stays ⊢
      exact ⟨screen, rfl, stays⟩
    · exact ⟨_, rfl, shown _⟩
  | character c =>
    simp only [Screen.press, reading, Key.edit]
    split
    · exact ⟨_, rfl, shown _⟩
    · exact ⟨screen, rfl, stays⟩
  | other name =>
    simp only [Screen.press, reading, Key.edit]
    exact ⟨screen, rfl, stays⟩

/-- The key that ends the line delivers it, and nobody reads any more. -/
theorem Typing.pressEnter (typing : screen.Typing ticket line) :
    ∃ after, screen.press .enter = (after, .ok (some ⟨ticket, String.ofList line⟩)) ∧
      after.Quiet := by
  obtain ⟨roomy, reading, pending, rfl⟩ := typing
  let left : Screen := { screen with typed := [], pending := none, reading := false }
  let echo := fun grid : Grid =>
    (grid.putAll (screen.typed.map Cell.ofChar)).andThen Grid.newline
  have fits : Grid.Fits (echo left.grid) :=
    (Grid.fits_putAll roomy _).andThen fun _ => Grid.fits_newline
  obtain ⟨after, written, leaves⟩ := writing_fits fits
  refine ⟨after, ?_, leaves.roomy, leaves.reading, leaves.pending⟩
  simp only [Screen.press, reading, Screen.pressEnter, pending, Option.map_some]
  rw [written]

/-- **Keys without an Enter edit the line.** -/
theorem Typing.pressAll (typing : screen.Typing ticket line) {keys : List Key}
    (goesOn : Key.enter ∉ keys) :
    ∃ after, screen.pressAll keys = (after, .ok none) ∧
      after.Typing ticket (keys.foldl Key.edit line) := by
  induction keys generalizing screen line with
  | nil => exact ⟨screen, rfl, typing⟩
  | cons key rest hypothesis =>
    obtain ⟨notFirst, notLater⟩ := List.ne_and_not_mem_of_not_mem_cons goesOn
    obtain ⟨middle, pressed, typing'⟩ := typing.press notFirst.symm
    obtain ⟨after, pressed', typing''⟩ := hypothesis typing' notLater
    refine ⟨after, ?_, typing''⟩
    rw [Screen.pressAll, pressed]
    exact pressed'

/-- **Keys up to an Enter deliver the line**, and those behind it do nothing. -/
theorem Typing.pressAll_enter (typing : screen.Typing ticket line) {keys : List Key}
    (goesOn : Key.enter ∉ keys) (rest : List Key) :
    ∃ after, screen.pressAll (keys ++ .enter :: rest) =
        (after, .ok (some ⟨ticket, String.ofList (keys.foldl Key.edit line)⟩)) ∧ after.Quiet := by
  induction keys generalizing screen line with
  | nil =>
    obtain ⟨after, pressed, quiet⟩ := typing.pressEnter
    refine ⟨after, ?_, quiet⟩
    rw [List.nil_append, Screen.pressAll, pressed]
    rfl
  | cons key later hypothesis =>
    obtain ⟨notFirst, notLater⟩ := List.ne_and_not_mem_of_not_mem_cons goesOn
    obtain ⟨middle, pressed, typing'⟩ := typing.press notFirst.symm
    obtain ⟨after, pressed', quiet⟩ := hypothesis typing' notLater
    refine ⟨after, ?_, quiet⟩
    rw [List.cons_append, Screen.pressAll, pressed]
    exact pressed'

/-- Keys do nothing while no read waits. -/
theorem Quiet.pressAll (quiet : screen.Quiet) (keys : List Key) :
    screen.pressAll keys = (screen, .ok none) := by
  induction keys with
  | nil => rfl
  | cons key rest hypothesis =>
    rw [Screen.pressAll, press_idle quiet.reading]
    exact hypothesis

/-- **How a read opens**: it waits with an empty line where no other one waits, and is refused
otherwise. -/
structure Opens (read : Screen → Screen × Except Fault Nat) : Prop where
  opened : ∀ screen : Screen, screen.Quiet →
    ∃ after ticket, read screen = (after, .ok ticket) ∧ after.Typing ticket []
  refused : ∀ (screen : Screen) (ticket : Nat) (line : List Char), screen.Typing ticket line →
    ∃ after, read screen = (after, .error .readPending) ∧ after.Typing ticket line

theorem opens_openRead (prompt : String) : Opens (openRead prompt) where
  opened := by
    intro screen quiet
    obtain ⟨after, printed, leaves⟩ : ∃ after,
        (if prompt = "" then (screen, none) else screen.print prompt) = (after, none) ∧
          screen.Leaves after := by
      split
      · exact ⟨screen, rfl, quiet.roomy, rfl, rfl, rfl⟩
      · exact print_fits quiet.roomy prompt
    have opened : Typing { after with
        pending := some after.tickets, tickets := after.tickets + 1, reading := true,
        typed := [] } after.tickets [] :=
      ⟨leaves.roomy, rfl, rfl, rfl⟩
    refine ⟨_, after.tickets, ?_, opened.leaves (leaves_render leaves.roomy)⟩
    simp only [openRead, quiet.pending, Option.isSome_none, Bool.false_eq_true, if_false, printed]
  refused screen ticket line typing :=
    ⟨screen, openRead_refused typing.pending prompt, typing⟩

theorem opens_openCommand : Opens openCommand where
  opened := by
    intro screen quiet
    obtain ⟨after, printed, leaves⟩ := print_fits quiet.roomy (screen.promptGlyph ++ " ")
    obtain ⟨last, ticket, opened, typing⟩ := (opens_openRead "").opened after (quiet.leaves leaves)
    refine ⟨last, ticket, ?_, typing⟩
    simp only [openCommand, printed, opened]
  refused := by
    intro screen ticket line typing
    obtain ⟨after, printed, leaves⟩ := print_fits typing.roomy (screen.promptGlyph ++ " ")
    have typing' := typing.leaves leaves
    refine ⟨after, ?_, typing'⟩
    simp only [openCommand, printed, openRead_refused typing'.pending]

end Reading

end Screen

namespace Terminal

/-! ### A terminal keeps to its ledger -/

/-- Who reads on a terminal: nobody, and the keys go nowhere, or one task, to whose line the keys
go. -/
inductive Attends (terminal : Terminal) : Option (Nat × List Char) → Prop where
  | idle (readers : terminal.readers = []) (quiet : terminal.screen.Quiet) :
      Attends terminal none
  | waiting {task ticket : Nat} {line : List Char}
      (readers : terminal.readers = [⟨task, ticket, .handOver⟩])
      (typing : terminal.screen.Typing ticket line) : Attends terminal (some (task, line))

/-- **A terminal keeps to a ledger**: as many tasks were started, they have ended in the same way,
and the same read waits with the same line. -/
structure Follows (terminal : Terminal) (ledger : Ledger) : Prop where
  started : terminal.tasks = ledger.started
  ended : terminal.endings = ledger.ended
  attends : terminal.Attends ledger.waiting

section Follows

variable {terminal : Terminal} {ledger : Ledger} {screen : Screen}

theorem Follows.roomy (follows : terminal.Follows ledger) : terminal.screen.grid.Roomy := by
  have attends := follows.attends
  generalize ledger.waiting = read at attends
  cases attends with
  | idle readers quiet => exact quiet.roomy
  | waiting readers typing => exact typing.roomy

/-- What is written does not concern the ledger. -/
theorem Follows.setScreen (follows : terminal.Follows ledger)
    (leaves : terminal.screen.Leaves screen) : (terminal.setScreen screen).Follows ledger := by
  obtain ⟨started, ended, attends⟩ := follows
  refine ⟨started, ended, ?_⟩
  generalize ledger.waiting = read at attends ⊢
  cases attends with
  | idle readers quiet => exact .idle readers (quiet.leaves leaves)
  | waiting readers typing => exact .waiting readers (typing.leaves leaves)

/-- Writing that fits is done without breaking off. -/
theorem Follows.onScreen (follows : terminal.Follows ledger)
    {work : Screen → Attempt Screen GridFault}
    (fits : ∃ after, work terminal.screen = (after, none) ∧ terminal.screen.Leaves after) :
    (terminal.onScreen work).1.Follows ledger ∧ (terminal.onScreen work).2 = none := by
  obtain ⟨after, done, leaves⟩ := onScreen_of_kind fits
  rw [done]
  exact ⟨follows.setScreen leaves, rfl⟩

/-- The only reader of a quiet screen goes away. -/
theorem remove_only {reader : Reader} (only : terminal.readers = [reader])
    (pending : terminal.screen.pending = none) :
    terminal.remove reader = { terminal with readers := [] } := by
  have kept : terminal.screen.release reader.ticket = terminal.screen := by
    unfold Screen.release
    rw [pending, if_neg nofun]
  unfold remove
  rw [kept, only]
  simp [Terminal.setScreen, Terminal.screen]

/-- The only reader of a screen that waits for it goes away, and nobody reads any more. -/
theorem remove_typing {task ticket : Nat} {purpose : Purpose} {line : List Char}
    (only : terminal.readers = [⟨task, ticket, purpose⟩])
    (typing : terminal.screen.Typing ticket line) :
    ∃ after : Screen, after.Quiet ∧ terminal.remove ⟨task, ticket, purpose⟩ =
      { terminal.setScreen after with readers := [] } := by
  refine ⟨{ terminal.screen with pending := none, reading := false }, ⟨typing.roomy, rfl, rfl⟩, ?_⟩
  have left : terminal.screen.release ticket =
      { terminal.screen with pending := none, reading := false } := if_pos typing.pending
  unfold remove
  rw [left, only]
  simp

/-- The only reader is the one that a line with its ticket reaches. -/
theorem receive_only {task ticket : Nat} {purpose : Purpose}
    (only : terminal.readers = [⟨task, ticket, purpose⟩])
    (pending : terminal.screen.pending = none) (line : String) :
    terminal.receive ⟨ticket, line⟩ =
      ({ terminal with readers := [] } : Terminal).resume ⟨task, ticket, purpose⟩ line := by
  unfold receive
  rw [only]
  simp only [List.find?_cons, beq_self_eq_true]
  rw [remove_only only pending]

/-- The only reader is the one that is sent away when its task is cancelled. -/
theorem cancel_only {task ticket : Nat} {purpose : Purpose}
    (only : terminal.readers = [⟨task, ticket, purpose⟩]) :
    terminal.cancel task = terminal.dismiss ⟨task, ticket, purpose⟩ := by
  unfold cancel
  rw [only]
  simp only [List.find?_cons, beq_self_eq_true]

/-- Nobody is sent away from a screen that nobody reads on. -/
theorem abandon_idle (none : terminal.readers = []) :
    terminal.abandonScreen = terminal.setScreen terminal.screen.abandoned := by
  unfold abandonScreen awaited
  rw [none]
  rfl

/-- The only reader of a screen is sent away when the screen is left behind. -/
theorem abandon_only {task ticket : Nat} {purpose : Purpose}
    (only : terminal.readers = [⟨task, ticket, purpose⟩])
    (pending : terminal.screen.pending = some ticket) :
    terminal.abandonScreen =
      (terminal.setScreen terminal.screen.abandoned).dismiss ⟨task, ticket, purpose⟩ := by
  unfold abandonScreen awaited
  rw [only, pending]
  simp only [List.find?_cons, beq_self_eq_true]

/-- Keys do nothing while no read waits. -/
theorem press_quiet (quiet : terminal.screen.Quiet) (keys : List Key) :
    terminal.press keys = (terminal, none) := by
  unfold Terminal.press
  rw [quiet.pressAll]
  rfl

/-- **Keys that are pressed are entered.** -/
theorem follows_press (follows : terminal.Follows ledger) (keys : List Key) :
    (terminal.press keys).1.Follows (keys.foldl Ledger.key ledger) ∧
      (terminal.press keys).2 = none := by
  obtain ⟨started, ended, attends⟩ := follows
  generalize waits : ledger.waiting = read at attends
  cases attends with
  | idle readers quiet =>
    rw [press_quiet quiet, Ledger.keys_idle waits]
    exact ⟨⟨started, ended, waits ▸ .idle readers quiet⟩, rfl⟩
  | @waiting task ticket line readers typing =>
    by_cases enters : Key.enter ∈ keys
    · obtain ⟨front, rest, rfl, goesOn⟩ := List.eq_append_cons_of_mem enters
      obtain ⟨after, pressed, quiet⟩ := typing.pressAll_enter goesOn rest
      have pressed' : terminal.press (front ++ .enter :: rest) =
          ((terminal.setScreen after).receive
            ⟨ticket, String.ofList (front.foldl Key.edit line)⟩, none) := by
        unfold Terminal.press
        rw [pressed]
      have only : (terminal.setScreen after).readers = [⟨task, ticket, .handOver⟩] := readers
      rw [pressed', receive_only only quiet.pending, Ledger.keys_enter waits goesOn]
      exact ⟨⟨started, congrArg _ ended, .idle rfl quiet⟩, rfl⟩
    · obtain ⟨after, pressed, typing'⟩ := typing.pressAll enters
      have pressed' : terminal.press keys = (terminal.setScreen after, none) := by
        unfold Terminal.press
        rw [pressed]
      rw [pressed', Ledger.keys_edit waits enters]
      exact ⟨⟨started, ended, .waiting readers typing'⟩, rfl⟩

/-- **A read that is started is entered.** -/
theorem follows_await (follows : terminal.Follows ledger)
    {read : Screen → Screen × Except Fault Nat} (opens : Screen.Opens read) :
    (terminal.withTask.await terminal.tasks .handOver read).Follows ledger.start := by
  obtain ⟨started, ended, attends⟩ := follows
  have same : terminal.withTask.screen = terminal.screen := rfl
  unfold await Ledger.start
  rw [same]
  generalize ledger.waiting = waits at attends
  cases attends with
  | idle readers quiet =>
    obtain ⟨after, ticket, opened, typing⟩ := opens.opened _ quiet
    rw [opened, ← started]
    refine ⟨rfl, ended, .waiting ?_ typing⟩
    exact congrArg (_ :: ·) readers
  | waiting readers typing =>
    obtain ⟨after, refused, typing'⟩ := opens.refused _ _ _ typing
    rw [refused, ← started]
    exact ⟨rfl, congrArg (_ :: ·) ended, .waiting readers typing'⟩

/-- A task that is cancelled is entered as ended, if it was the one that read. -/
theorem follows_cancel (follows : terminal.Follows ledger) (task : Nat) :
    (terminal.cancel task).Follows (ledger.cancel task) := by
  obtain ⟨started, ended, attends⟩ := follows
  generalize waits : ledger.waiting = read at attends
  unfold Ledger.cancel
  rw [waits]
  cases attends with
  | idle readers quiet =>
    have same : terminal.cancel task = terminal := cancel_ended (by rw [readers]; exact nofun)
    rw [same, Option.map_none, if_neg nofun]
    exact ⟨started, ended, waits ▸ .idle readers quiet⟩
  | @waiting reads ticket line readers typing =>
    by_cases same : reads = task
    · subst same
      rw [Option.map_some, if_pos rfl, Ledger.close_waiting waits]
      obtain ⟨after, quiet, left⟩ := remove_typing readers typing
      have cancelled : terminal.cancel reads =
          ({ terminal.setScreen after with readers := [] } : Terminal).finish reads
            .cancelled := by
        rw [cancel_only readers, dismiss, left]
      rw [cancelled]
      exact ⟨started, congrArg (_ :: ·) ended, .idle rfl quiet⟩
    · have kept : terminal.cancel task = terminal := by
        refine cancel_ended fun reader member => ?_
        rw [readers, List.mem_singleton] at member
        rw [member]
        exact same
      rw [kept, Option.map_some, if_neg fun equal => same (Option.some.inj equal)]
      exact ⟨started, ended, waits ▸ .waiting readers typing⟩

/-- A read that is left behind is entered as cancelled. -/
theorem follows_abandon (follows : terminal.Follows ledger) :
    terminal.abandonScreen.Follows (ledger.close fun _ => .cancelled) := by
  have quiet := Screen.quiet_abandoned follows.roomy
  obtain ⟨started, ended, attends⟩ := follows
  generalize waits : ledger.waiting = read at attends
  cases attends with
  | idle readers _ =>
    rw [abandon_idle readers, Ledger.close_idle waits]
    exact ⟨started, ended, waits ▸ .idle readers quiet⟩
  | @waiting task ticket line readers typing =>
    have only : (terminal.setScreen terminal.screen.abandoned).readers =
        [⟨task, ticket, .handOver⟩] := readers
    have left : terminal.abandonScreen =
        ({ terminal.setScreen terminal.screen.abandoned with readers := [] } : Terminal).finish
          task .cancelled := by
      rw [abandon_only readers typing.pending, dismiss, remove_only only quiet.pending]
    rw [left, Ledger.close_waiting waits]
    exact ⟨started, congrArg (_ :: ·) ended, .idle rfl quiet⟩

/-- **A terminal keeps to its ledger in whatever is done to its screen**, and nothing of it breaks
off. -/
theorem follows_apply (follows : terminal.Follows ledger) {action : Action}
    (ofScreen : action.isOfScreen = true) :
    (action.apply terminal).1.Follows (ledger.apply action) ∧ (action.apply terminal).2 = none := by
  have roomy := follows.roomy
  cases action with
  | print text => exact follows.onScreen (Screen.print_fits roomy text)
  | printLine text => exact follows.onScreen (Screen.print_fits roomy (text ++ "\n"))
  | put text => exact follows.onScreen (Screen.onGrid_fits (Grid.fits_put roomy _))
  | newline => exact follows.onScreen (Screen.onGrid_fits (Grid.fits_newline roomy))
  | scroll => exact follows.onScreen (Screen.onGrid_fits (Grid.fits_scroll roomy.wide roomy.tall))
  | clear => exact ⟨follows.setScreen (Screen.leaves_clear roomy), rfl⟩
  | render => exact ⟨follows.setScreen (Screen.leaves_render roomy), rfl⟩
  | press keys => exact follows_press follows keys
  | type lines => exact follows_press follows _
  | readLine prompt => exact ⟨follows_await follows (Screen.opens_openRead prompt), rfl⟩
  | readCommand => exact ⟨follows_await follows Screen.opens_openCommand, rfl⟩
  | cancel task => exact ⟨follows_cancel follows task, rfl⟩
  | abandonScreen => exact ⟨follows_abandon follows, rfl⟩
  | executeLine line => cases ofScreen
  | startLoop => cases ofScreen
  | setUp => cases ofScreen
  | showBanner => cases ofScreen
  | stop => cases ofScreen
  | reset => cases ofScreen
  | shutDown => cases ofScreen

/-- **A terminal keeps to its ledger all the time.** -/
theorem follows_run (follows : terminal.Follows ledger) {actions : List Action}
    (ofScreen : ∀ action ∈ actions, action.isOfScreen = true) :
    (terminal.run actions).Follows (actions.foldl Ledger.apply ledger) := by
  induction actions generalizing terminal ledger with
  | nil => exact follows
  | cons action rest hypothesis =>
    obtain ⟨first, later⟩ := List.forall_mem_cons.mp ofScreen
    exact hypothesis (follows_apply follows first).1 later

end Follows

/-! ### Delivered once -/

/-- A task was started and has not ended. -/
def IsUnfinished (terminal : Terminal) (task : Nat) : Prop :=
  task < terminal.tasks ∧ ∀ ending, (task, ending) ∉ terminal.endings

/-- **Lines are delivered once.** The keys are read exactly when a read waits, and then it is the
only one that has not ended. Another one that is started is refused and changes nothing else, and
keys do nothing while no read waits. An Enter ends the read that waits, and no other one, with the
line that the keys have made since it began; cancelling it or leaving the screen behind ends it as
cancelled. Each read ends at most once, and one that has ended cannot be cancelled. -/
structure DeliversOnce (terminal : Terminal) : Prop where
  reading : terminal.screen.reading = true ↔ terminal.screen.pending ≠ none
  waiting : terminal.screen.pending ≠ none ↔ ∃! task, terminal.IsUnfinished task
  idle : terminal.screen.pending = none ↔ ∀ task, ¬terminal.IsUnfinished task
  refused : terminal.screen.pending ≠ none → ∀ prompt, terminal.readLine prompt =
    { terminal with
        tasks := terminal.tasks + 1
        endings := (terminal.tasks, .broken .readPending) :: terminal.endings }
  ignored : terminal.screen.pending = none → ∀ keys, terminal.press keys = (terminal, none)
  delivered : terminal.screen.pending = none → ∀ opening : Action, opening.isRead = true →
    ∀ meanwhile : List Action, (∀ action ∈ meanwhile, action.isOfScreen = true) →
    (∀ action ∈ meanwhile, action.Spares terminal.tasks) →
    ∀ keys rest : List Key, Key.enter ∉ keys →
    let before := (opening.apply terminal).1.run meanwhile
    let after := (before.press (keys ++ .enter :: rest)).1
    let line := (meanwhile.flatMap Action.keys ++ keys).foldl Key.edit []
    before.IsUnfinished terminal.tasks ∧ after.screen.pending = none ∧
      after.endings =
        (terminal.tasks, .value (some (String.ofList line))) :: before.endings
  cancelled : ∀ task, terminal.IsUnfinished task →
    (terminal.cancel task).endings = (task, .cancelled) :: terminal.endings ∧
      terminal.abandonScreen.endings = (task, .cancelled) :: terminal.endings
  once : (terminal.endings.map Prod.fst).Nodup
  final : ∀ task ending, (task, ending) ∈ terminal.endings → terminal.cancel task = terminal

section Once

variable {terminal : Terminal} {ledger : Ledger}

/-- The keys are read, and the screen waits, exactly while a read waits in the ledger. -/
theorem Follows.waits_iff (follows : terminal.Follows ledger) :
    (terminal.screen.reading = true ↔ ledger.waiting ≠ none) ∧
      (terminal.screen.pending ≠ none ↔ ledger.waiting ≠ none) := by
  have attends := follows.attends
  generalize ledger.waiting = read at attends ⊢
  cases attends with
  | idle readers quiet => simp [quiet.reading, quiet.pending]
  | waiting readers typing => simp [typing.reading, typing.pending]

/-- A terminal that a ledger accounts for: as many tasks were started, and they have ended in the
same way. -/
structure Tallies (terminal : Terminal) (ledger : Ledger) : Prop where
  started : terminal.tasks = ledger.started
  ended : terminal.endings = ledger.ended

theorem Follows.tallies (follows : terminal.Follows ledger) : terminal.Tallies ledger :=
  ⟨follows.started, follows.ended⟩

/-- The tasks that have not ended are those that wait. -/
theorem Tallies.isUnfinished_iff (tallies : terminal.Tallies ledger) (sound : ledger.Sound)
    (task : Nat) : terminal.IsUnfinished task ↔ ledger.waiting.map Prod.fst = some task := by
  have notEnded : (∀ ending, (task, ending) ∉ ledger.ended) ↔ task ∉ ledger.ended.map Prod.fst := by
    simp
  have all := sound.all task
  have once := sound.once
  unfold IsUnfinished
  rw [tallies.started, tallies.ended, ← all, notEnded]
  unfold Ledger.known at once ⊢
  generalize ledger.waiting = waits at once ⊢
  cases waits with
  | none => simp
  | some read =>
    have apart : read.1 ∉ ledger.ended.map Prod.fst := (List.nodup_cons.mp once).1
    constructor
    · rintro ⟨known, unended⟩
      rcases List.mem_cons.mp known with rfl | ended
      · rfl
      · exact absurd ended unended
    · rintro ⟨⟩
      exact ⟨List.mem_cons_self, apart⟩

/-- While a task waits in the ledger, it is the only one that has not ended. -/
theorem Tallies.waiting_iff (tallies : terminal.Tallies ledger) (sound : ledger.Sound) :
    ledger.waiting ≠ none ↔ ∃! task, terminal.IsUnfinished task := by
  simp only [ExistsUnique, tallies.isUnfinished_iff sound]
  cases ledger.waiting with
  | none => exact ⟨fun waits => absurd rfl waits, nofun⟩
  | some read =>
    have only : ∀ task, some read.1 = some task → task = read.1 := fun task same =>
      (Option.some.inj same).symm
    exact ⟨fun _ => ⟨read.1, rfl, only⟩, fun _ => nofun⟩

/-- While no task waits in the ledger, all have ended. -/
theorem Tallies.idle_iff (tallies : terminal.Tallies ledger) (sound : ledger.Sound) :
    ledger.waiting = none ↔ ∀ task, ¬terminal.IsUnfinished task := by
  simp only [tallies.isUnfinished_iff sound]
  cases ledger.waiting with
  | none => exact ⟨fun _ _ => nofun, fun _ => rfl⟩
  | some read => exact ⟨nofun, fun ended => absurd rfl (ended read.1)⟩

/-- A second read is refused, and changes nothing else. -/
theorem readLine_refused {ticket : Nat} {line : List Char}
    (typing : terminal.screen.Typing ticket line) (prompt : String) :
    terminal.readLine prompt =
      { terminal with
          tasks := terminal.tasks + 1
          endings := (terminal.tasks, .broken .readPending) :: terminal.endings } := by
  have refused : terminal.withTask.screen.openRead prompt =
      (terminal.screen, .error .readPending) :=
    Screen.openRead_refused typing.pending prompt
  unfold readLine await
  rw [refused]
  rfl

/-- **An Enter ends the read that waits with the line that the keys have made since it began.** -/
theorem Follows.delivered (follows : terminal.Follows ledger) (sound : ledger.Sound)
    (idle : ledger.waiting = none) {opening : Action} (reads : opening.isRead = true)
    {meanwhile : List Action} (ofScreen : ∀ action ∈ meanwhile, action.isOfScreen = true)
    (spare : ∀ action ∈ meanwhile, action.Spares terminal.tasks) {keys : List Key}
    (goesOn : Key.enter ∉ keys) (rest : List Key) :
    let before := (opening.apply terminal).1.run meanwhile
    let after := (before.press (keys ++ .enter :: rest)).1
    let line := (meanwhile.flatMap Action.keys ++ keys).foldl Key.edit []
    before.IsUnfinished terminal.tasks ∧ after.screen.pending = none ∧
      after.endings = (terminal.tasks, .value (some (String.ofList line))) :: before.endings := by
  intro before after line
  have opened : (opening.apply terminal).1.Follows ledger.start := by
    cases opening with
    | readLine prompt => exact follows_await follows (Screen.opens_openRead prompt)
    | readCommand => exact follows_await follows Screen.opens_openCommand
    | _ => cases reads
  have begins : ledger.start.waiting = some (terminal.tasks, []) := by
    unfold Ledger.start
    rw [idle, follows.started]
  have waits := Ledger.waiting_run begins spare
  have follows' : before.Follows (meanwhile.foldl Ledger.apply ledger.start) :=
    follows_run opened ofScreen
  have sound' := Ledger.sound_run (Ledger.sound_start sound) meanwhile
  have ends := (follows_press follows' (keys ++ .enter :: rest)).1
  rw [Ledger.keys_enter waits goesOn rest, ← List.foldl_append] at ends
  refine ⟨(follows'.tallies.isUnfinished_iff sound' _).mpr (by rw [waits]; rfl), ?_, ?_⟩
  · have quiet := ends.waits_iff.2
    by_contra pending
    exact quiet.mp pending rfl
  · rw [show after.endings = _ from ends.ended, follows'.ended]

/-- A second read is refused while one waits. -/
theorem Follows.refused (follows : terminal.Follows ledger) (waits : ledger.waiting ≠ none)
    (prompt : String) :
    terminal.readLine prompt =
      { terminal with
          tasks := terminal.tasks + 1
          endings := (terminal.tasks, .broken .readPending) :: terminal.endings } := by
  have attends := follows.attends
  generalize ledger.waiting = read at attends waits
  cases attends with
  | idle readers quiet => exact absurd rfl waits
  | waiting readers typing => exact readLine_refused typing prompt

/-- Keys do nothing while no read waits. -/
theorem Follows.ignored (follows : terminal.Follows ledger) (idle : ledger.waiting = none)
    (keys : List Key) : terminal.press keys = (terminal, none) := by
  have attends := follows.attends
  rw [idle] at attends
  cases attends with
  | idle readers quiet => exact press_quiet quiet keys

/-- A read that has not ended ends as cancelled when it is cancelled or left behind. -/
theorem Follows.cancelled (follows : terminal.Follows ledger) (sound : ledger.Sound) {task : Nat}
    (isUnfinished : terminal.IsUnfinished task) :
    (terminal.cancel task).endings = (task, .cancelled) :: terminal.endings ∧
      terminal.abandonScreen.endings = (task, .cancelled) :: terminal.endings := by
  have found := (follows.tallies.isUnfinished_iff sound task).mp isUnfinished
  obtain ⟨⟨reads, line⟩, waits, rfl⟩ := Option.map_eq_some_iff.mp found
  have cancelled := (follows_cancel follows reads).ended
  have abandoned := (follows_abandon follows).ended
  rw [Ledger.cancel, if_pos found, Ledger.close_waiting waits] at cancelled
  rw [Ledger.close_waiting waits] at abandoned
  rw [cancelled, abandoned, follows.ended]
  exact ⟨rfl, rfl⟩

/-- A read that has ended cannot be cancelled any more. -/
theorem Follows.final (follows : terminal.Follows ledger) (sound : ledger.Sound) {task : Nat}
    {ending : Ending} (ended : (task, ending) ∈ terminal.endings) :
    terminal.cancel task = terminal := by
  refine cancel_ended fun reader member same => ?_
  have unfinished := follows.tallies.isUnfinished_iff sound task
  have attends := follows.attends
  generalize ledger.waiting = read at attends unfinished
  cases attends with
  | idle readers quiet =>
    rw [readers] at member
    cases member
  | waiting readers typing =>
    rw [readers, List.mem_singleton] at member
    have isUnfinished := unfinished.mpr (by rw [← same, member]; rfl)
    exact isUnfinished.2 ending ended

/-- **A terminal that keeps to its ledger delivers lines once.** -/
theorem Follows.deliversOnce (follows : terminal.Follows ledger) (sound : ledger.Sound) :
    terminal.DeliversOnce := by
  obtain ⟨reading, pending⟩ := follows.waits_iff
  have idle : terminal.screen.pending = none ↔ ledger.waiting = none :=
    not_iff_not.mp pending
  have once : (ledger.ended.map Prod.fst).Nodup :=
    sound.once.sublist (List.sublist_append_right _ _)
  exact {
    reading := reading.trans pending.symm
    waiting := pending.trans (follows.tallies.waiting_iff sound)
    idle := idle.trans (follows.tallies.idle_iff sound)
    refused := fun waits => follows.refused (pending.mp waits)
    ignored := fun none => follows.ignored (idle.mp none)
    delivered := fun none opening reads meanwhile ofScreen spare keys rest goesOn =>
      follows.delivered sound (idle.mp none) reads ofScreen spare goesOn rest
    cancelled := fun _ => follows.cancelled sound
    once := follows.ended ▸ once
    final := fun _ _ => follows.final sound }

/-- **Line input is delivered once**, whatever is done to a screen with a row and a column: the
terminal keeps to its ledger, nothing that is done breaks off, and lines are delivered once. -/
theorem delivered_once {setup : Setup} {watched : Bool} {screen : Screen}
    (made : Screen.new setup watched = .ok screen) (tall : 1 ≤ setup.rows)
    (wide : 1 ≤ setup.columns) {actions : List Action}
    (ofScreen : ∀ action ∈ actions, action.isOfScreen = true) :
    let terminal := (Terminal.ofScreen screen).run actions
    terminal.Follows (actions.foldl Ledger.apply .empty) ∧ terminal.DeliversOnce ∧
      ∀ action : Action, action.isOfScreen = true → (action.apply terminal).2 = none := by
  intro terminal
  obtain ⟨roomy, reading, pending⟩ := Screen.new_fits made tall wide
  have begins : (Terminal.ofScreen screen).Follows .empty :=
    ⟨rfl, rfl, .idle rfl ⟨roomy, reading, pending⟩⟩
  have follows := follows_run begins ofScreen
  have sound := Ledger.sound_run Ledger.sound_empty actions
  exact ⟨follows, follows.deliversOnce sound, fun action ofScreen' =>
    (follows_apply follows ofScreen').2⟩

/-- A read that is refused while another one waits, a line that is edited, and a read that is
cancelled. -/
theorem delivered_once_reads :
    let actions : List Action := [.readLine "?", .readCommand,
      .press [.character 'a', .backspace, .character 'b', .enter, .character 'c'],
      .readLine "", .cancel 2]
    ∃ screen, Screen.new ⟨2, 3, "]", "_"⟩ false = .ok screen ∧
      (∀ action ∈ actions, action.isOfScreen = true) ∧
      ((Terminal.ofScreen screen).run actions).DeliversOnce ∧
      ((Terminal.ofScreen screen).run actions).endings =
        [(2, .cancelled), (0, .value (some "B")), (1, .broken .readPending)] := by
  intro actions
  have made : Screen.new ⟨2, 3, "]", "_"⟩ false =
      .ok ⟨.blank 2 3, "]", "_", [], false, none, 0, false, []⟩ := rfl
  have ofScreen : ∀ action ∈ actions, action.isOfScreen = true := by decide
  obtain ⟨follows, once, _⟩ := delivered_once made (by decide) (by decide) ofScreen
  have entered : (actions.foldl Ledger.apply .empty).ended =
      [(2, .cancelled), (0, .value (some "B")), (1, .broken .readPending)] := by
    decide +kernel
  exact ⟨_, made, ofScreen, once, follows.ended.trans entered⟩

end Once

end Terminal

end LineBasic
