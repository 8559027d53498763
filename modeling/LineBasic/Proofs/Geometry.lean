/-
**The geometry of a screen.**

A screen keeps its rows and columns whatever is done to the terminal it belongs to, and whatever
programs run there. Between any two strokes on its grid the cursor is on a row, and in a column or
just behind the last one. Nothing that is put there misses the grid, and a cell that is put never
finds the cursor below the last row. A frame has as many lines as there are rows.

* `Screen.lasting_framed`, `Desk.framed_perform` — a desk with a screen of a size, and an activity
  at it;
* `Terminal.Framed` — a terminal with such a screen, on which no task has ended with a fault of the
  grid;
* `framed_apply`, `framed_run` — whatever is done to it;
* `geometry_kept` — what this says of a terminal after any actions.
-/

import LineBasic.Proofs.Size
import LineBasic.Proofs.Taking
import LineBasic.Terminal.Action

namespace LineBasic

/-! ### Terminals with a screen of a size -/

/-- A fault that the grid has no part in. -/
def Fault.Elsewhere (fault : Fault) : Prop :=
  ∀ reason, fault ≠ .grid reason

/-- No session comes to a fault of the grid. -/
theorem Session.Breaks.elsewhere {session : Session} {activity : Activity} {fault : Fault}
    (breaks : session.Breaks activity fault) : fault.Elsewhere := by
  cases breaks <;> exact nofun

section Desk

variable {rows columns : Nat} {desk : Desk}

/-- Screens of a size take what is written. -/
theorem Screen.lasting_framed : Screen.Lasting (Screen.Framed rows columns) where
  prints framed text := framed.print text
  clears framed := framed.clear

/-- An activity at a desk comes to no fault of the grid. -/
theorem Desk.framed_perform (questions : Nat) (session : Session) (activity : Activity)
    (framed : desk.screen.Framed rows columns) :
    ∃ after session' progress, desk.perform questions session activity =
        (after, session', progress) ∧ after.screen.Framed rows columns ∧
      ∀ fault, progress = .fault fault → fault.Elsewhere := by
  induction questions generalizing desk session activity with
  | zero => exact ⟨desk, session, _, rfl, framed, nofun⟩
  | succ questions hypothesis =>
    obtain ⟨after, driven, _, framed'⟩ :=
      (Screen.lasting_framed.takes desk.wired).comesTo ⟨rfl, framed⟩ session activity
    rcases watched : session.comesTo activity with
      ⟨session', ⟨prompt, waiting⟩ | _ | failure | fault | rest⟩
    all_goals
      rw [watched] at driven
      unfold Desk.perform
      simp only [driven]
    · split
      · exact ⟨after, session', _, rfl, framed', nofun⟩
      · exact hypothesis _ _ framed'
    · exact ⟨after, session', _, rfl, framed', nofun⟩
    · exact ⟨after, session', _, rfl, framed', nofun⟩
    · refine ⟨after, session', _, rfl, framed', fun other same => ?_⟩
      cases same
      obtain ⟨_, _, breaks⟩ := Session.fault_drive watched
      exact breaks.elsewhere
    · exact ⟨after, session', _, rfl, framed', nofun⟩

end Desk

namespace Terminal

/-- A terminal with a screen of a size, on which no task has ended with a fault of the grid. -/
structure Framed (rows columns : Nat) (terminal : Terminal) : Prop where
  screen : terminal.screen.Framed rows columns
  ended : ∀ ending ∈ terminal.endings, ∀ fault, ending.2 = .broken fault → fault.Elsewhere

section Framed

variable {rows columns : Nat} {terminal after : Terminal} {screen : Screen}

/-- Only the screen and the endings matter. -/
theorem Framed.beside (framed : terminal.Framed rows columns)
    (same : after.screen = terminal.screen) (endings : after.endings = terminal.endings) :
    after.Framed rows columns :=
  ⟨same ▸ framed.screen, endings ▸ framed.ended⟩

theorem Framed.setScreen (framed : terminal.Framed rows columns)
    (framed' : screen.Framed rows columns) : (terminal.setScreen screen).Framed rows columns :=
  ⟨framed', framed.ended⟩

theorem Framed.finish (framed : terminal.Framed rows columns) (task : Nat) {ending : Ending}
    (elsewhere : ∀ fault, ending = .broken fault → fault.Elsewhere) :
    (terminal.finish task ending).Framed rows columns :=
  ⟨framed.screen, List.forall_mem_cons.mpr ⟨elsewhere, framed.ended⟩⟩

theorem Framed.onScreen (framed : terminal.Framed rows columns)
    {work : Screen → Attempt Screen GridFault}
    (works : ∃ after, work terminal.screen = (after, none) ∧ after.Framed rows columns) :
    ∃ after, terminal.onScreen work = (after, none) ∧ after.Framed rows columns := by
  obtain ⟨screen, worked, framed'⟩ := Terminal.onScreen_of_kind works
  exact ⟨_, worked, framed.setScreen framed'⟩

theorem Framed.printLines (framed : terminal.Framed rows columns) (lines : List String) :
    ∃ after, terminal.printLines lines = (after, none) ∧ after.Framed rows columns := by
  obtain ⟨screen, printed, framed'⟩ := Screen.lasting_framed.printLines framed.screen lines
  exact ⟨_, printed, framed.setScreen framed'⟩

/-! What the terminal does for its tasks. -/

theorem Framed.await (framed : terminal.Framed rows columns) (task : Nat) (purpose : Purpose)
    {read : Screen → Screen × Except Fault Nat}
    (reads : (read terminal.screen).1.Framed rows columns ∧
      ∀ fault, (read terminal.screen).2 = .error fault → fault = .readPending) :
    (terminal.await task purpose read).Framed rows columns := by
  unfold Terminal.await
  generalize read terminal.screen = result at reads
  obtain ⟨screen, fault | ticket⟩ := result
  · refine (framed.setScreen reads.1).finish task fun other same => ?_
    cases same
    rw [reads.2 fault rfl]
    exact nofun
  · exact (framed.setScreen reads.1).beside rfl rfl

theorem Framed.prompt (framed : terminal.Framed rows columns) (task : Nat) :
    (terminal.prompt task).Framed rows columns := by
  unfold Terminal.prompt
  split
  · exact framed.await task .command framed.screen.openCommand
  · exact framed.finish task nofun

theorem Framed.conclude (framed : terminal.Framed rows columns) (task : Nat) (role : Role)
    {fault : Option Fault} (elsewhere : ∀ reason, fault = some reason → reason.Elsewhere) :
    (terminal.conclude task role fault).Framed rows columns := by
  unfold Terminal.conclude
  split
  · exact framed.finish task nofun
  · exact framed.finish task nofun
  · next reason _ =>
    refine framed.finish task fun other same => ?_
    cases same
    exact elsewhere reason rfl
  · exact framed.prompt task
  · next line reason _ =>
    have noted : Framed rows columns
        { terminal with desk := terminal.desk.note (.commandBroken line) } := framed.beside rfl rfl
    obtain ⟨after, printed, framed'⟩ :=
      noted.onScreen (noted.screen.print (faultReport reason ++ "\n"))
    have printed' : Terminal.onScreen (Screen.printLine (faultReport reason)) _ = _ := printed
    simp only [printed']
    exact framed'.prompt task

theorem Framed.breakOff (framed : terminal.Framed rows columns) (task : Nat) (role : Role)
    (activity : Activity) {fault : Fault} (elsewhere : fault.Elsewhere) :
    (terminal.breakOff task role activity fault).Framed rows columns := by
  obtain ⟨desk, broken, _, framed'⟩ :=
    (Screen.lasting_framed.takes terminal.desk.wired).breakOff ⟨rfl, framed.screen⟩
      terminal.session activity fault
  unfold Terminal.breakOff
  rw [broken]
  have left : Framed rows columns
      { terminal with desk, session := (terminal.session.abandon activity).1 } :=
    ⟨framed', framed.ended⟩
  exact left.conclude task role fun reason same => Option.some.inj same ▸ elsewhere

theorem Framed.work (framed : terminal.Framed rows columns) (task : Nat) (role : Role)
    (activity : Activity) : (terminal.work task role activity).Framed rows columns := by
  obtain ⟨desk, session, progress, performed, framed', elsewhere⟩ :=
    Desk.framed_perform Session.patience terminal.session activity framed.screen
  have left : Framed rows columns { terminal with desk, session } := ⟨framed', framed.ended⟩
  unfold Terminal.work
  rw [performed]
  cases progress with
  | waiting question activity =>
    have reads := left.screen.openRead question
    simp only
    generalize Screen.openRead question _ = result at reads
    obtain ⟨screen, fault | ticket⟩ := result
    · refine (left.setScreen reads.1).breakOff task role activity ?_
      rw [reads.2 fault rfl]
      exact nofun
    · exact (left.setScreen reads.1).beside rfl rfl
  | fault fault =>
    exact left.conclude task role fun reason same => Option.some.inj same ▸ elsewhere fault rfl
  | finished => exact left.conclude task role nofun
  | failed failure => exact left.conclude task role nofun
  | unfinished activity => exact left.conclude task role nofun

theorem Framed.remove (framed : terminal.Framed rows columns) (reader : Reader) :
    (terminal.remove reader).Framed rows columns :=
  ⟨framed.screen.release reader.ticket, framed.ended⟩

theorem Framed.resume (framed : terminal.Framed rows columns) (reader : Reader) (line : String) :
    (terminal.resume reader line).Framed rows columns := by
  unfold Terminal.resume
  split
  · exact framed.finish _ nofun
  · have noted : Framed rows columns
        { terminal with desk := terminal.desk.note (.commandRead line) } := framed.beside rfl rfl
    exact noted.work _ _ _
  · next role activity _ =>
    have answered : Framed rows columns
        { terminal with session := (terminal.session.answer activity line).1 } :=
      framed.beside rfl rfl
    exact answered.work _ _ _

theorem Framed.receive (framed : terminal.Framed rows columns) (delivery : Delivery) :
    (terminal.receive delivery).Framed rows columns := by
  unfold Terminal.receive
  split
  · exact (framed.remove _).resume _ _
  · exact framed

theorem Framed.dismiss (framed : terminal.Framed rows columns) (reader : Reader) :
    (terminal.dismiss reader).Framed rows columns := by
  have left := framed.remove reader
  unfold Terminal.dismiss
  split
  · exact left.finish _ nofun
  · refine left.finish _ fun fault same => ?_
    split at same <;> cases same
  · exact left.breakOff _ _ _ nofun

theorem Framed.cancel (framed : terminal.Framed rows columns) (task : Nat) :
    (terminal.cancel task).Framed rows columns := by
  unfold Terminal.cancel
  split
  · exact framed.dismiss _
  · exact framed

theorem Framed.press (framed : terminal.Framed rows columns) (keys : List Key) :
    (terminal.press keys).2 = none ∧ (terminal.press keys).1.Framed rows columns := by
  obtain ⟨after, delivery, pressed, framed'⟩ := framed.screen.pressAll keys
  unfold Terminal.press
  rw [pressed]
  cases delivery with
  | none => exact ⟨rfl, framed.setScreen framed'⟩
  | some delivery => exact ⟨rfl, (framed.setScreen framed').receive delivery⟩

/-! What is done to the terminal as a whole. -/

theorem Framed.setUp (framed : terminal.Framed rows columns) :
    ∃ after, terminal.setUp = (after, none) ∧ after.Framed rows columns := by
  obtain ⟨screen, done, framed'⟩ := Screen.lasting_framed.setUp framed.screen
  exact ⟨_, done, framed', framed.ended⟩

theorem Framed.reset (framed : terminal.Framed rows columns) :
    ∃ after, terminal.reset = (after, none) ∧ after.Framed rows columns := by
  obtain ⟨desk, done, _, framed'⟩ := Screen.lasting_framed.reset framed.screen
  exact ⟨_, done, framed', framed.ended⟩

theorem Framed.abandonScreen (framed : terminal.Framed rows columns) :
    terminal.abandonScreen.Framed rows columns := by
  have left := framed.setScreen framed.screen.abandoned
  unfold Terminal.abandonScreen
  split
  · exact left.dismiss _
  · exact left

theorem Framed.startLoop (framed : terminal.Framed rows columns) :
    terminal.startLoop.Framed rows columns := by
  have started : terminal.withTask.Framed rows columns := framed.beside rfl rfl
  unfold Terminal.startLoop
  split
  · next readied same =>
    have framed' : readied.Framed rows columns := by
      split at same
      · cases same
        exact started
      · obtain ⟨after, done, framed'⟩ := started.setUp
        rw [done] at same
        cases same
        exact framed'
    have looping : Framed rows columns { readied with looping := true } := framed'.beside rfl rfl
    exact looping.prompt _
  · next readied fault same =>
    split at same
    · cases same
    · obtain ⟨after, done, _⟩ := started.setUp
      rw [done] at same
      cases same

/-- **Whatever is done to a terminal is done to its end**, and leaves a screen of the same size. -/
theorem framed_apply (framed : terminal.Framed rows columns) (action : Action) :
    (action.apply terminal).2 = none ∧ (action.apply terminal).1.Framed rows columns := by
  have done : ∀ {attempt : Attempt Terminal Fault},
      (∃ after, attempt = (after, none) ∧ after.Framed rows columns) →
        attempt.2 = none ∧ attempt.1.Framed rows columns := by
    rintro _ ⟨after, rfl, framed'⟩
    exact ⟨rfl, framed'⟩
  have drawn : ∀ stroke : Grid.Stroke,
      ∃ after, terminal.onScreen (Screen.onGrid (Grid.stroke stroke)) = (after, none) ∧
        after.Framed rows columns := by
    intro stroke
    exact framed.onScreen (framed.screen.onGrid (Grid.draw_single stroke _).symm)
  have started : terminal.withTask.Framed rows columns := framed.beside rfl rfl
  cases action with
  | print text => exact done (framed.onScreen (framed.screen.print text))
  | printLine text => exact done (framed.onScreen (framed.screen.print (text ++ "\n")))
  | put text => exact done (drawn (.put (Cell.ofText text)))
  | newline => exact done (drawn .newline)
  | scroll => exact done (drawn .scroll)
  | clear => exact ⟨rfl, framed.setScreen framed.screen.clear⟩
  | render => exact ⟨rfl, framed.setScreen framed.screen.render⟩
  | press keys => exact framed.press keys
  | type lines => exact framed.press _
  | readLine prompt => exact ⟨rfl, started.await _ _ (started.screen.openRead prompt)⟩
  | readCommand => exact ⟨rfl, started.await _ _ started.screen.openCommand⟩
  | executeLine line => exact ⟨rfl, started.work _ _ _⟩
  | startLoop => exact ⟨rfl, framed.startLoop⟩
  | cancel task => exact ⟨rfl, framed.cancel task⟩
  | abandonScreen => exact ⟨rfl, framed.abandonScreen⟩
  | setUp => exact done framed.setUp
  | showBanner => exact done (framed.printLines banner)
  | stop => exact ⟨rfl, framed.beside rfl rfl⟩
  | reset => exact done framed.reset
  | shutDown =>
    have stopped : Framed rows columns { terminal.stop with ready := false } :=
      framed.beside rfl rfl
    exact ⟨rfl, stopped.abandonScreen⟩

theorem framed_run (framed : terminal.Framed rows columns) (actions : List Action) :
    (terminal.run actions).Framed rows columns :=
  @run_preserves (Framed rows columns)
    (fun action _ framed => (framed_apply framed action).2) actions terminal framed

end Framed

end Terminal

/-! ### The geometry is kept -/

/-- A grid of a size: as many rows, as many cells in each of them, at most one character in a cell,
and the cursor on a row and no further than behind the last column. -/
structure Grid.InBounds (rows columns : Nat) (grid : Grid) : Prop where
  height : grid.cells.length = rows
  even : ∀ row ∈ grid.cells, row.length = columns
  single : ∀ row ∈ grid.cells, ∀ cell ∈ row, (Cell.shown [cell]).length ≤ 1
  y : grid.y < rows
  x : grid.x ≤ columns

theorem Grid.Sized.inBounds {rows columns : Nat} {grid : Grid} (sized : grid.Sized rows columns)
    (roomy : grid.Roomy) : grid.InBounds rows columns where
  height := sized.height
  even := sized.even
  single _ _ cell _ := List.length_filterMap_le id [cell]
  y := sized.height ▸ roomy.inside
  x := sized.inside

/-- **The geometry of a screen is kept**, whatever is done to the terminal it belongs to. Its grid
stays in bounds, a frame has a line for each row, nobody is handed a fault, and no task ends with
one of the grid. And so it stays between any two strokes on the grid: each is done to its end, and
a cell that is put next does not find the cursor below the last row. -/
theorem geometry_kept {setup : Setup} {watched : Bool} {screen : Screen}
    (made : Screen.new setup watched = .ok screen) (tall : 1 ≤ setup.rows)
    (wide : 1 ≤ setup.columns) (actions : List Action) :
    let rows := setup.rows.toNat
    let columns := setup.columns.toNat
    let terminal := (Terminal.ofScreen screen).run actions
    let grid := terminal.screen.grid
    grid.InBounds rows columns ∧
      terminal.screen.frame.length = rows ∧
      (∀ frame ∈ terminal.screen.frames, frame.length = rows) ∧
      (∀ action : Action, (action.apply terminal).2 = none) ∧
      (∀ ending ∈ terminal.endings, ∀ reason, ending.2 ≠ .broken (.grid reason)) ∧
      ∀ strokes, (grid.draw strokes).2 = none ∧ (grid.draw strokes).1.InBounds rows columns ∧
        (grid.draw strokes).1.wrap.1.y < rows := by
  intro rows columns terminal grid
  have start : (Terminal.ofScreen screen).Framed rows columns :=
    ⟨Screen.framed_new made tall wide, nofun⟩
  have framed : terminal.Framed rows columns := Terminal.framed_run start actions
  refine ⟨framed.screen.sized.inBounds framed.screen.roomy, framed.screen.frame_length,
    framed.screen.shown, fun action => (Terminal.framed_apply framed action).1,
    fun ending member reason same => framed.ended ending member _ same reason rfl, ?_⟩
  intro strokes
  have sized := framed.screen.sized.draw strokes
  have fits := Grid.fits_draw framed.screen.roomy strokes
  refine ⟨fits.unbroken, sized.inBounds fits.roomy, ?_⟩
  have wrapped := (Grid.fits_wrap fits.roomy).1.roomy.inside
  rwa [Grid.height, sized.wrap.height] at wrapped

/-- A full grid, with the cursor behind the last column of the last row, and a read that is
cancelled. -/
theorem geometry_kept_full :
    ∃ screen, Screen.new ⟨2, 3, "]", "_"⟩ true = .ok screen ∧
      let terminal := (Terminal.ofScreen screen).run
        [.print "ABCDEF", .render, .readCommand, .press [.character 'x'], .cancel 0, .print "!"]
      terminal.endings = [(0, .cancelled)] ∧
        ((Terminal.ofScreen screen).run [.print "ABCDEF"]).screen.grid.x = 3 ∧
        terminal.screen.grid.InBounds 2 3 ∧ terminal.screen.frame.length = 2 := by
  refine ⟨_, rfl, rfl, rfl, ?_⟩
  have made : Screen.new ⟨2, 3, "]", "_"⟩ true = .ok _ := rfl
  obtain ⟨inBounds, long, _⟩ := geometry_kept made (by decide) (by decide)
    [.print "ABCDEF", .render, .readCommand, .press [.character 'x'], .cancel 0, .print "!"]
  exact ⟨inBounds, long⟩

end LineBasic
