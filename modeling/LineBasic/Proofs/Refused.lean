/-
**A read that is refused.**

Only one read waits at a time, and a further one is refused. A plain read is refused before it does
anything: but for the task that it was and the way this task ended, the terminal goes on as if it
had not been tried. The command read, and with it the prompt loop, prints the prompt glyph first
and is refused then. The line that is being typed stays as it is and is delivered to the read that
waits, but it is echoed behind a glyph that nobody was shown a prompt for; and where the grid has no
room for the glyph, the task ends with the fault of the grid instead.

* `Terminal.recording` — a terminal with another account of its tasks;
* `recording_apply`, `recording_run` — what starts no task does not look at this account;
* `Screen.openCommand_refused` — a command read that is refused has printed the glyph;
* `RefusesReads`, `reads_refused` — what a terminal on which a read waits does with further ones.
-/

import LineBasic.Proofs.Echo
import LineBasic.Terminal.Action

namespace LineBasic

/-! ### Another account of the tasks -/

namespace Terminal

/-- The terminal with another number of tasks, and with tasks that had ended before all others. -/
def recording (tasks : Nat) (past : List (Nat × Ending)) (terminal : Terminal) : Terminal :=
  { terminal with tasks, endings := terminal.endings ++ past }

section Recording

variable (tasks : Nat) (past : List (Nat × Ending))

/-- Work that does not look at the account of the tasks. -/
def Overlooks (work : Terminal → Attempt Terminal Fault) : Prop :=
  ∀ terminal, work (terminal.recording tasks past) =
    ((work terminal).1.recording tasks past, (work terminal).2)

variable {tasks past} (terminal : Terminal)

@[simp] theorem recording_desk : (terminal.recording tasks past).desk = terminal.desk := rfl

@[simp] theorem recording_screen : (terminal.recording tasks past).screen = terminal.screen := rfl

@[simp] theorem recording_session : (terminal.recording tasks past).session = terminal.session :=
  rfl

@[simp] theorem recording_looping : (terminal.recording tasks past).looping = terminal.looping :=
  rfl

@[simp] theorem recording_readers : (terminal.recording tasks past).readers = terminal.readers :=
  rfl

theorem Overlooks.andThen {first second : Terminal → Attempt Terminal Fault}
    (before : Overlooks tasks past first) (behind : Overlooks tasks past second) :
    Overlooks tasks past fun terminal => (first terminal).andThen second := by
  intro terminal
  show (first _).andThen second = (recording tasks past ((first terminal).andThen second).1,
    ((first terminal).andThen second).2)
  rw [before terminal]
  rcases first terminal with ⟨after, _ | fault⟩
  · exact behind after
  · rfl

theorem overlooks_onScreen (work : Screen → Attempt Screen GridFault) :
    Overlooks tasks past (onScreen work) :=
  fun _ => rfl

theorem recording_await (task : Nat) (purpose : Purpose)
    (read : Screen → Screen × Except Fault Nat) :
    (terminal.recording tasks past).await task purpose read =
      (terminal.await task purpose read).recording tasks past := by
  unfold await
  rw [recording_screen]
  rcases read terminal.screen with ⟨screen, fault | ticket⟩ <;> rfl

theorem recording_prompt (task : Nat) :
    (terminal.recording tasks past).prompt task =
      (terminal.prompt task).recording tasks past := by
  unfold prompt
  rw [recording_looping]
  split
  · exact recording_await terminal task .command Screen.openCommand
  · rfl

theorem recording_conclude (task : Nat) (role : Role) (fault : Option Fault) :
    (terminal.recording tasks past).conclude task role fault =
      (terminal.conclude task role fault).recording tasks past := by
  unfold conclude
  split
  · rfl
  · rfl
  · rfl
  · exact recording_prompt terminal task
  · next line fault _ =>
    have reported : Overlooks tasks past (onScreen (Screen.printLine (faultReport fault))) :=
      overlooks_onScreen _
    have noted : { terminal.recording tasks past with
        desk := (terminal.recording tasks past).desk.note (.commandBroken line) } =
      recording tasks past { terminal with desk := terminal.desk.note (.commandBroken line) } := rfl
    simp only
    rw [noted, reported]
    rcases onScreen _ _ with ⟨after, _ | broken⟩
    · exact recording_prompt after task
    · rfl

theorem recording_breakOff (task : Nat) (role : Role) (activity : Activity) (fault : Fault) :
    (terminal.recording tasks past).breakOff task role activity fault =
      (terminal.breakOff task role activity fault).recording tasks past :=
  recording_conclude { terminal with
    desk := (terminal.session.breakOff Desk.deliver terminal.desk activity fault).1
    session := (terminal.session.breakOff Desk.deliver terminal.desk activity fault).2.1 }
    task role (some fault)

/-- **The work of a task** does not look at the account of the tasks. -/
theorem recording_work (task : Nat) (role : Role) (activity : Activity) :
    (terminal.recording tasks past).work task role activity =
      (terminal.work task role activity).recording tasks past := by
  unfold work
  rw [recording_desk, recording_session]
  rcases terminal.desk.perform Session.patience terminal.session activity with
    ⟨desk, session, progress⟩
  cases progress with
  | waiting question waiting =>
    simp only
    rw [show (screen { terminal.recording tasks past with desk, session }) =
      screen { terminal with desk, session } from rfl]
    rcases Screen.openRead question _ with ⟨screen, fault | ticket⟩
    · exact recording_breakOff (setScreen screen { terminal with desk, session }) task role
        waiting fault
    · rfl
  | fault fault => exact recording_conclude { terminal with desk, session } task role (some fault)
  | _ => exact recording_conclude { terminal with desk, session } task role none

theorem recording_receive (delivery : Delivery) :
    (terminal.recording tasks past).receive delivery =
      (terminal.receive delivery).recording tasks past := by
  unfold receive
  rw [recording_readers]
  split
  · next reader _ =>
    rw [show (terminal.recording tasks past).remove reader =
      (terminal.remove reader).recording tasks past from rfl]
    generalize terminal.remove reader = left
    unfold resume
    split
    · rfl
    · exact recording_work { left with desk := left.desk.note (.commandRead delivery.line) } _ _ _
    · next role activity _ =>
      exact recording_work
        { left with session := (left.session.answer activity delivery.line).1 } _ _ _
  · rfl

theorem recording_dismiss (reader : Reader) :
    (terminal.recording tasks past).dismiss reader =
      (terminal.dismiss reader).recording tasks past := by
  unfold dismiss
  split
  · rfl
  · rfl
  · exact recording_breakOff (terminal.remove reader) _ _ _ _

theorem recording_cancel (task : Nat) :
    (terminal.recording tasks past).cancel task = (terminal.cancel task).recording tasks past := by
  unfold cancel
  rw [recording_readers]
  split
  · exact recording_dismiss terminal _
  · rfl

theorem recording_abandonScreen :
    (terminal.recording tasks past).abandonScreen =
      terminal.abandonScreen.recording tasks past := by
  unfold abandonScreen
  rw [show (terminal.recording tasks past).awaited = terminal.awaited from rfl]
  cases terminal.awaited with
  | some reader => exact recording_dismiss (terminal.setScreen terminal.screen.abandoned) reader
  | none => rfl

theorem overlooks_press (keys : List Key) : Overlooks tasks past (press keys) := by
  intro terminal
  unfold press
  rw [recording_screen]
  rcases terminal.screen.pressAll keys with ⟨screen, fault | _ | delivery⟩
  · rfl
  · rfl
  · exact congrArg (·, none) (recording_receive (terminal.setScreen screen) delivery)

theorem overlooks_showBanner : Overlooks tasks past showBanner := by
  have prints : ∀ lines, Overlooks tasks past (printLines lines) := by
    intro lines
    induction lines with
    | nil => exact fun _ => rfl
    | cons line rest hypothesis =>
      exact (overlooks_onScreen (Screen.printLine line)).andThen hypothesis
  exact prints banner

theorem overlooks_setUp : Overlooks tasks past setUp := fun terminal =>
  (overlooks_showBanner.andThen fun _ => rfl)
    { terminal with desk := { terminal.desk with wired := true } }

theorem overlooks_reset : Overlooks tasks past reset := by
  have delivers : Overlooks tasks past fun terminal => atDesk (fun desk => desk.deliver (.line ""))
      { terminal with session := terminal.session.cleared } := fun _ => rfl
  exact (delivers.andThen fun _ => rfl).andThen overlooks_showBanner

/-- **What starts no task does not look at the account of the tasks.** -/
theorem recording_apply {action : Action} (startsNone : action.starts = false) :
    Overlooks tasks past action.apply := by
  intro terminal
  cases action with
  | print text => exact overlooks_onScreen _ terminal
  | printLine text => exact overlooks_onScreen _ terminal
  | put text => exact overlooks_onScreen _ terminal
  | newline => exact overlooks_onScreen _ terminal
  | scroll => exact overlooks_onScreen _ terminal
  | clear => rfl
  | render => rfl
  | press keys => exact overlooks_press keys terminal
  | type lines => exact overlooks_press _ terminal
  | cancel task => exact congrArg (·, none) (recording_cancel terminal task)
  | abandonScreen => exact congrArg (·, none) (recording_abandonScreen terminal)
  | setUp => exact overlooks_setUp terminal
  | showBanner => exact overlooks_showBanner terminal
  | stop => rfl
  | reset => exact overlooks_reset terminal
  | shutDown =>
    exact congrArg (·, none) (recording_abandonScreen { terminal.stop with ready := false })
  | _ => cases startsNone

/-- **Nor does a run of such actions.** -/
theorem recording_run {actions : List Action}
    (startNone : ∀ action ∈ actions, action.starts = false) (terminal : Terminal) :
    (terminal.recording tasks past).run actions = (terminal.run actions).recording tasks past := by
  induction actions generalizing terminal with
  | nil => rfl
  | cons action rest hypothesis =>
    obtain ⟨first, later⟩ := List.forall_mem_cons.mp startNone
    have overlooks : Overlooks tasks past action.apply := recording_apply first
    show ((action.apply (terminal.recording tasks past)).1).run rest = _
    rw [overlooks terminal]
    exact hypothesis later _

end Recording

end Terminal

/-! ### A command read that is refused -/

namespace Screen

variable {screen : Screen} {ticket : Nat} {keys : List Key}

/-- Writing leaves the line that is typed and the read that waits as they are, also where it breaks
off. -/
theorem writing_spares (write : Grid → Attempt Grid GridFault) (screen : Screen) :
    (screen.writing write).1.typed = screen.typed ∧
      (screen.writing write).1.reading = screen.reading ∧
      (screen.writing write).1.pending = screen.pending := by
  unfold writing onGrid
  rcases write screen.grid with ⟨grid, _ | fault⟩
  · simp only [Attempt.andThen_none]
    unfold render
    split <;> exact ⟨rfl, rfl, rfl⟩
  · exact ⟨rfl, rfl, rfl⟩

/-- A command read that is refused has printed the glyph, or has broken off at it. -/
theorem openCommand_refused (waits : screen.pending = some ticket) :
    screen.openCommand = ((screen.print (screen.promptGlyph ++ " ")).1,
      .error ((screen.print (screen.promptGlyph ++ " ")).2.elim .readPending .grid)) := by
  have pending := (screen.writing_spares (Grid.write (screen.promptGlyph ++ " ").toList)).2.2
  have kept : (screen.print (screen.promptGlyph ++ " ")).1.pending = some ticket :=
    pending.trans waits
  unfold openCommand
  generalize screen.print (screen.promptGlyph ++ " ") = result at kept
  obtain ⟨printed, _ | fault⟩ := result
  · exact openRead_refused kept ""
  · rfl

end Screen

/-! ### Further reads -/

namespace Terminal

/-- The terminal after a task that has ended with a fault as soon as it was started. -/
def refused (fault : Fault) (terminal : Terminal) : Terminal :=
  terminal.withTask.finish terminal.tasks (.broken fault)

/-- What a terminal on which a read waits does with further ones.

* `readLine` — a plain read is refused.
* `readCommand` — a command read prints the prompt glyph, and is refused or ends with the fault of
  the grid; the line that is typed and the read that waits stay as they are.
* `startLoop` — the prompt loop of a terminal that is set up ends in the same way.
* `unnoticed` — whatever is done after a task that is refused, other than starting tasks, goes as
  it would have gone without that task.
* `echoed` — on a grid with a row and a column the glyph is printed, and the line that is being
  typed is delivered behind it as it would have been without it; it is echoed behind the glyph. -/
structure RefusesReads (terminal : Terminal) (ticket : Nat) : Prop where
  readLine : ∀ prompt, terminal.readLine prompt = terminal.refused .readPending
  readCommand : ∃ printed fault,
    terminal.screen.print (terminal.screen.promptGlyph ++ " ") = (printed, fault) ∧
      printed.typed = terminal.screen.typed ∧ printed.reading = terminal.screen.reading ∧
      printed.pending = terminal.screen.pending ∧
      terminal.readCommand = (terminal.setScreen printed).refused (fault.elim .readPending .grid)
  startLoop : terminal.ready = true →
    terminal.startLoop = { terminal.readCommand with looping := true }
  unnoticed : ∀ fault actions, (∀ action ∈ actions, Action.starts action = false) →
    ∃ after : Terminal,
      terminal.run actions = after.recording terminal.tasks terminal.endings ∧
      (terminal.refused fault).run actions =
        after.recording (terminal.tasks + 1) ((terminal.tasks, .broken fault) :: terminal.endings)
  echoed : 1 ≤ terminal.screen.grid.width → 1 ≤ terminal.screen.grid.height →
    terminal.screen.reading = true → '\n' ∉ terminal.screen.typed →
    (terminal.readCommand.screen.grid, none) =
      terminal.screen.grid.write (terminal.screen.promptGlyph ++ " ").toList ∧
    terminal.readCommand.endings = (terminal.tasks, .broken .readPending) :: terminal.endings ∧
    ∀ keys : List Key, Key.enter ∉ keys →
      let line := keys.foldl Key.edit terminal.screen.typed
      ∃ alone behind,
        terminal.screen.pressAll (keys ++ [.enter]) =
          (alone, .ok (some ⟨ticket, String.ofList line⟩)) ∧
        terminal.readCommand.screen.pressAll (keys ++ [.enter]) =
          (behind, .ok (some ⟨ticket, String.ofList line⟩)) ∧
        (alone.grid, none) = terminal.screen.grid.write (line ++ ['\n']) ∧
        (behind.grid, none) = terminal.screen.grid.write
          ((terminal.screen.promptGlyph ++ " ").toList ++ (line ++ ['\n']))

section Refused

variable {terminal : Terminal} {ticket : Nat}

theorem await_refused {task : Nat} {purpose : Purpose} {read : Screen → Screen × Except Fault Nat}
    {screen : Screen} {fault : Fault} (refuses : read terminal.screen = (screen, .error fault)) :
    terminal.await task purpose read = (terminal.setScreen screen).finish task (.broken fault) := by
  unfold await
  rw [refuses]

/-- A task that was refused is not noticed by what starts no task. -/
theorem refused_unnoticed (fault : Fault) {actions : List Action}
    (startNone : ∀ action ∈ actions, action.starts = false) (terminal : Terminal) :
    ∃ after : Terminal,
      terminal.run actions = after.recording terminal.tasks terminal.endings ∧
      (terminal.refused fault).run actions =
        after.recording (terminal.tasks + 1)
          ((terminal.tasks, .broken fault) :: terminal.endings) := by
  -- Both are the run of the terminal without its endings, with these behind what the run adds.
  let bare : Terminal := { terminal with endings := [] }
  exact ⟨bare.run actions, recording_run startNone bare, recording_run startNone bare⟩

/-- **A terminal on which a read waits refuses further ones.** A plain read changes nothing but the
account of the tasks, and nothing that follows notices it. A command read and the prompt loop print
the prompt glyph before they are refused; the line that is being typed is delivered as before, but
echoed behind that glyph. -/
theorem reads_refused (waits : terminal.screen.pending = some ticket) :
    terminal.RefusesReads ticket := by
  have commands : terminal.readCommand =
      (terminal.setScreen (terminal.screen.print (terminal.screen.promptGlyph ++ " ")).1).refused
        ((terminal.screen.print (terminal.screen.promptGlyph ++ " ")).2.elim .readPending .grid) :=
    await_refused (Screen.openCommand_refused waits)
  refine ⟨fun prompt => ?_, ?_, fun ready => ?_, fun fault actions startNone => ?_, ?_⟩
  · exact await_refused (Screen.openRead_refused waits prompt)
  · obtain ⟨typed, reading, pending⟩ := terminal.screen.writing_spares
      (Grid.write (terminal.screen.promptGlyph ++ " ").toList)
    exact ⟨_, _, rfl, typed, reading, pending, commands⟩
  · have loops : terminal.startLoop =
        { terminal.withTask with looping := true }.prompt terminal.tasks := by
      unfold startLoop
      rw [if_pos ready]
    rw [loops, commands]
    exact await_refused (Screen.openCommand_refused waits)
  · exact refused_unnoticed fault startNone terminal
  · intro wide tall reading plain
    have some : terminal.screen.promptGlyph ++ " " ≠ "" := by simp
    obtain ⟨printed, prints, roomy, written⟩ := Screen.print_drawn wide tall some
    have spared := terminal.screen.writing_spares
      (Grid.write (terminal.screen.promptGlyph ++ " ").toList)
    rw [show terminal.screen.writing _ = (printed, none) from prints] at spared
    obtain ⟨typed, reading', pending⟩ := spared
    rw [prints] at commands
    rw [commands]
    refine ⟨written, rfl, fun keys goesOn => ?_⟩
    obtain ⟨alone, delivered, echoes⟩ :=
      Screen.pressAll_echoes wide tall reading waits plain goesOn
    obtain ⟨behind, delivered', echoes'⟩ := Screen.pressAll_echoes roomy.wide roomy.tall
      (reading'.trans reading) (pending.trans waits) (typed ▸ plain) goesOn
    rw [typed] at delivered' echoes'
    refine ⟨alone, behind, delivered, delivered', echoes, ?_⟩
    rw [Grid.write_append, ← written]
    exact echoes'

/-- While an A has been typed behind a prompt, a second prompt loop puts a glyph behind the first
one. The B that is typed next still completes the line, which goes to a row of its own. -/
theorem reads_refused_prompting :
    let screen : Screen :=
      ⟨⟨4, [[some ']', some ' ', some ' ', some ' '], Grid.blankRow 4], 2, 0⟩,
        "]", "_", ['A'], true, some 0, 1, false, []⟩
    let terminal : Terminal := ⟨⟨screen, true, []⟩, .fresh, true, true, [⟨0, 0, .command⟩], 1, []⟩
    terminal.screen.pending = some 0 ∧ terminal.readLine "? " = terminal.refused .readPending ∧
      terminal.startLoop.screen.grid =
        ⟨4, [[some ']', some ' ', some ']', some ' '], Grid.blankRow 4], 4, 0⟩ ∧
      ∃ behind, terminal.readCommand.screen.pressAll [.character 'b', .enter] =
          (behind, .ok (some ⟨0, "AB"⟩)) ∧
        behind.grid = ⟨4, [[some 'A', some 'B', some ' ', some ' '], Grid.blankRow 4], 0, 1⟩ := by
  intro screen terminal
  have refuses : terminal.RefusesReads 0 := reads_refused rfl
  obtain ⟨printed, -, delivers⟩ :=
    refuses.echoed (by decide) (by decide) rfl (show '\n' ∉ ['A'] by decide)
  have goesOn : Key.enter ∉ [Key.character 'b'] := by decide
  obtain ⟨alone, behind, -, delivered, -, echoed⟩ := delivers [.character 'b'] goesOn
  have line : [Key.character 'b'].foldl Key.edit terminal.screen.typed = ['A', 'B'] := by
    decide +kernel
  have glyph : (terminal.screen.promptGlyph ++ " ").toList = [']', ' '] := by decide +kernel
  rw [line] at delivered echoed
  rw [glyph] at printed echoed
  have marked : screen.grid.write [']', ' '] =
      (⟨4, [[some ']', some ' ', some ']', some ' '], Grid.blankRow 4], 4, 0⟩, none) := by
    decide +kernel
  have shown : screen.grid.write ([']', ' '] ++ (['A', 'B'] ++ ['\n'])) =
      (⟨4, [[some 'A', some 'B', some ' ', some ' '], Grid.blankRow 4], 0, 1⟩, none) := by
    decide +kernel
  refine ⟨rfl, refuses.readLine "? ", ?_, behind, delivered, ?_⟩
  · rw [refuses.startLoop rfl]
    exact congrArg Prod.fst (printed.trans marked)
  · exact congrArg Prod.fst (echoed.trans shown)

/-- Both a command read and a second prompt loop have written on the grid when they are refused;
where there is no grid to write on, a command read is not even refused as such. -/
theorem refused_glyph_printed :
    ∃ terminal flat : Terminal, terminal.screen.pending = some 0 ∧ terminal.ready = true ∧
      terminal.readCommand.screen.grid ≠ terminal.screen.grid ∧
      terminal.startLoop.screen.grid ≠ terminal.screen.grid ∧
      flat.screen.pending = some 0 ∧ flat.readCommand.endings ≠ [(1, .broken .readPending)] := by
  let terminal (grid : Grid) : Terminal :=
    ⟨⟨⟨grid, "]", "_", ['A'], true, some 0, 1, false, []⟩, true, []⟩, .fresh, true, true,
      [⟨0, 0, .command⟩], 1, []⟩
  refine ⟨terminal (.blank 1 4), terminal (.blank 0 0), rfl, rfl, ?_, ?_, rfl, ?_⟩
  · decide +kernel
  · decide +kernel
  · decide +kernel

end Refused

end Terminal

end LineBasic
