/-
**A screen with room.**

A grid with at least one row and one column holds its cursor on one of its rows, and takes whatever
is written to it: nothing that is put there breaks off. Writing does not concern the line that is
typed nor the read that waits for it. Desks and terminals take what their screens take.

* `Grid.Roomy`, `Grid.Fits` — a grid with room, and writing that keeps it so;
* `fits_put`, `fits_putAll`, `fits_write` — what is written fits;
* `Screen.Leaves` — a screen on which something was written;
* `Screen.Lasting` — a kind of screens that take what is written and stay of that kind;
* `Lasting.deliver`, `Lasting.printLines`, `Lasting.setUp`, `Lasting.reset` — desks and terminals
  with such a screen.
-/

import LineBasic.Terminal.Use
import Mathlib

namespace LineBasic

namespace Grid

/-- A grid that has a column, and a row that the cursor is on. -/
structure Roomy (grid : Grid) : Prop where
  wide : 0 < grid.width
  inside : grid.y < grid.height

/-- Work that does not break off, and leaves a grid with room. -/
structure Fits (attempt : Attempt Grid GridFault) : Prop where
  unbroken : attempt.2 = none
  roomy : attempt.1.Roomy

section Room

variable {grid : Grid}

theorem Roomy.tall (roomy : grid.Roomy) : 0 < grid.height :=
  Nat.zero_lt_of_lt roomy.inside

theorem fits_none (roomy : grid.Roomy) : Fits (grid, none) :=
  ⟨rfl, roomy⟩

theorem Fits.andThen {attempt : Attempt Grid GridFault} {next : Grid → Attempt Grid GridFault}
    (fits : Fits attempt) (after : ∀ grid : Grid, grid.Roomy → Fits (next grid)) :
    Fits (attempt.andThen next) := by
  obtain ⟨grid, fault⟩ := attempt
  obtain ⟨rfl, roomy⟩ := fits
  exact after grid roomy

theorem roomy_blank {height width : Nat} (tall : 0 < height) (wide : 0 < width) :
    (blank height width).Roomy := by
  refine ⟨wide, ?_⟩
  simpa [blank, Grid.height, blankRows_eq] using tall

theorem roomy_cleared (roomy : grid.Roomy) : grid.cleared.Roomy :=
  roomy_blank roomy.tall roomy.wide

theorem fits_scroll (wide : 0 < grid.width) (tall : 0 < grid.height) : Fits grid.scroll := by
  unfold scroll
  split
  · next none =>
    rw [height, none] at tall
    cases tall
  · next top below _ => exact ⟨rfl, wide, by simp [height]⟩

theorem fits_settle (wide : 0 < grid.width) (tall : 0 < grid.height) : Fits grid.settle := by
  unfold settle
  split
  · exact fits_scroll wide tall
  · next below => exact ⟨rfl, wide, Nat.lt_of_not_le below⟩

theorem fits_newline (roomy : grid.Roomy) : Fits grid.newline :=
  fits_settle roomy.wide roomy.tall

/-- A new row is begun at its start. -/
theorem x_newline (grid : Grid) : grid.newline.1.x = 0 := by
  unfold newline settle scroll
  split
  · split <;> rfl
  · rfl

/-- After wrapping there is room on the row of the cursor. -/
theorem fits_wrap (roomy : grid.Roomy) : Fits grid.wrap ∧ grid.wrap.1.x < grid.wrap.1.width := by
  unfold wrap
  split
  · have fits := fits_newline roomy
    exact ⟨fits, by rw [x_newline]; exact fits.roomy.wide⟩
  · next open_ => exact ⟨fits_none roomy, Nat.lt_of_not_le open_⟩

theorem fits_store (roomy : grid.Roomy) (free : grid.x < grid.width) (cell : Cell) :
    Fits (store cell grid) := by
  obtain ⟨row, found⟩ : ∃ row, grid.cells[grid.y]? = some row :=
    ⟨_, List.getElem?_eq_getElem roomy.inside⟩
  unfold store
  rw [found]
  simp only [if_pos free]
  exact ⟨rfl, roomy.wide, by simpa [height] using roomy.inside⟩

/-- **A cell fits.** -/
theorem fits_put (roomy : grid.Roomy) (cell : Cell) : Fits (grid.put cell) := by
  obtain ⟨wraps, free⟩ := fits_wrap roomy
  unfold put
  generalize grid.wrap = wrapped at wraps free
  obtain ⟨after, fault⟩ := wrapped
  obtain ⟨rfl, roomy'⟩ := wraps
  have settled : after.settle = (after, none) := by
    unfold settle
    rw [if_neg (Nat.not_le_of_lt roomy'.inside)]
  rw [Attempt.andThen_none, settled, Attempt.andThen_none]
  exact fits_store roomy' free cell

/-- **Cells fit.** -/
theorem fits_putAll (roomy : grid.Roomy) (cells : List Cell) : Fits (grid.putAll cells) := by
  induction cells generalizing grid with
  | nil => exact fits_none roomy
  | cons cell rest hypothesis =>
    exact (fits_put roomy cell).andThen fun after roomy' => hypothesis roomy'

/-- **A text fits.** -/
theorem fits_write (roomy : grid.Roomy) (text : List Char) : Fits (grid.write text) := by
  induction text generalizing grid with
  | nil => exact fits_none roomy
  | cons c rest hypothesis =>
    refine Fits.andThen ?_ fun after roomy' => hypothesis roomy'
    unfold writeChar
    split
    · exact fits_newline roomy
    · exact fits_put roomy _

end Room

end Grid

namespace Screen

/-- What is left of a screen on which something was written: a grid with room, and the same read
with the same line. -/
structure Leaves (screen after : Screen) : Prop where
  roomy : after.grid.Roomy
  reading : after.reading = screen.reading
  pending : after.pending = screen.pending
  typed : after.typed = screen.typed

section Leaves

variable {screen after later : Screen}

theorem Leaves.trans (first : screen.Leaves after) (second : after.Leaves later) :
    screen.Leaves later :=
  ⟨second.roomy, second.reading.trans first.reading, second.pending.trans first.pending,
    second.typed.trans first.typed⟩

theorem leaves_render (roomy : screen.grid.Roomy) : screen.Leaves screen.render := by
  unfold render
  split
  · exact ⟨roomy, rfl, rfl, rfl⟩
  · exact ⟨roomy, rfl, rfl, rfl⟩

theorem leaves_clear (roomy : screen.grid.Roomy) : screen.Leaves screen.clear := by
  have roomy' : ({ screen with grid := screen.grid.cleared } : Screen).grid.Roomy :=
    Grid.roomy_cleared roomy
  have rendered := leaves_render roomy'
  exact ⟨rendered.roomy, rendered.reading, rendered.pending, rendered.typed⟩

variable {write : Grid → Attempt Grid GridFault}

/-- What fits on the grid is written without breaking off. -/
theorem onGrid_fits (fits : Grid.Fits (write screen.grid)) :
    ∃ after, screen.onGrid write = (after, none) ∧ screen.Leaves after := by
  unfold onGrid
  generalize write screen.grid = written at fits
  obtain ⟨grid, fault⟩ := written
  obtain ⟨rfl, roomy⟩ := fits
  exact ⟨_, rfl, roomy, rfl, rfl, rfl⟩

/-- What fits on the grid is written and shown. -/
theorem writing_fits (fits : Grid.Fits (write screen.grid)) :
    ∃ after, screen.writing write = (after, none) ∧ screen.Leaves after := by
  obtain ⟨after, written, leaves⟩ := onGrid_fits fits
  refine ⟨after.render, ?_, leaves.trans (leaves_render leaves.roomy)⟩
  rw [writing, written, Attempt.andThen_none]

/-- **A screen with room takes any text.** -/
theorem print_fits (roomy : screen.grid.Roomy) (text : String) :
    ∃ after, screen.print text = (after, none) ∧ screen.Leaves after :=
  writing_fits (Grid.fits_write roomy text.toList)

/-- A new screen with a row and a column has room, and nobody reads on it. -/
theorem new_fits {setup : Setup} {watched : Bool} (made : Screen.new setup watched = .ok screen)
    (tall : 1 ≤ setup.rows) (wide : 1 ≤ setup.columns) :
    screen.grid.Roomy ∧ screen.reading = false ∧ screen.pending = none := by
  unfold Screen.new at made
  split at made
  · cases made
  · let bare : Screen := ⟨.blank setup.rows.toNat setup.columns.toNat, setup.promptGlyph,
      setup.cursorGlyph, [], false, none, 0, watched, []⟩
    have roomy : bare.grid.Roomy := Grid.roomy_blank (by omega) (by omega)
    have rendered := leaves_render roomy
    injection made with same
    rw [← same]
    exact ⟨rendered.roomy, rendered.reading, rendered.pending⟩

end Leaves

end Screen

/-! ### Writing on a screen -/

/-- A kind of screens that take what is written: printing does not break off, and neither printing
nor clearing leaves a screen of another kind. -/
structure Screen.Lasting (kind : Screen → Prop) : Prop where
  prints : ∀ {screen : Screen}, kind screen → ∀ text : String,
    ∃ after, screen.print text = (after, none) ∧ kind after
  clears : ∀ {screen : Screen}, kind screen → kind screen.clear

section Lasting

variable {kind : Screen → Prop} {desk : Desk} {terminal : Terminal}

theorem Desk.onScreen_of_kind {work : Screen → Attempt Screen GridFault}
    (works : ∃ after, work desk.screen = (after, none) ∧ kind after) :
    ∃ after, desk.onScreen work = ({ desk with screen := after }, none) ∧ kind after := by
  obtain ⟨after, worked, isKind⟩ := works
  refine ⟨after, ?_, isKind⟩
  unfold Desk.onScreen
  rw [worked]
  rfl

theorem Terminal.onScreen_of_kind {work : Screen → Attempt Screen GridFault}
    (works : ∃ after, work terminal.screen = (after, none) ∧ kind after) :
    ∃ after, terminal.onScreen work = (terminal.setScreen after, none) ∧ kind after := by
  obtain ⟨after, worked, isKind⟩ := Desk.onScreen_of_kind works
  refine ⟨after, ?_, isKind⟩
  unfold Terminal.onScreen Terminal.atDesk
  rw [worked]
  rfl

namespace Screen.Lasting

/-- A desk takes an effect, and stays connected or not. -/
theorem deliver (lasting : Lasting kind) (start : kind desk.screen) (effect : Effect) :
    ∃ after, desk.deliver effect = (after, none) ∧ after.wired = desk.wired ∧
      kind after.screen := by
  have written : ∀ {work : Screen → Attempt Screen GridFault},
      (∃ after, work desk.screen = (after, none) ∧ kind after) →
        ∃ after, (if desk.wired then desk.onScreen work else (desk, none)) = (after, none) ∧
          after.wired = desk.wired ∧ kind after.screen := by
    intro work works
    split
    · obtain ⟨screen, worked, isKind⟩ := Desk.onScreen_of_kind works
      exact ⟨_, worked, rfl, isKind⟩
    · exact ⟨desk, rfl, rfl, start⟩
  unfold Desk.deliver
  cases effect with
  | note note => exact ⟨_, rfl, rfl, start⟩
  | text text => exact written (lasting.prints start text)
  | line text => exact written (lasting.prints start (text ++ "\n"))
  | clear =>
    simp only
    split
    · exact ⟨_, rfl, rfl, lasting.clears start⟩
    · exact ⟨desk, rfl, rfl, start⟩

/-- Lines are printed on a terminal, which changes nothing but its screen. -/
theorem printLines (lasting : Lasting kind) (start : kind terminal.screen) (lines : List String) :
    ∃ after, terminal.printLines lines = (terminal.setScreen after, none) ∧ kind after := by
  induction lines generalizing terminal with
  | nil => exact ⟨terminal.screen, rfl, start⟩
  | cons line rest hypothesis =>
    obtain ⟨middle, printed, isKind⟩ :=
      @Terminal.onScreen_of_kind kind terminal (Screen.printLine line)
        (lasting.prints start (line ++ "\n"))
    obtain ⟨after, printed', isKind'⟩ := @hypothesis (terminal.setScreen middle) isKind
    refine ⟨after, ?_, isKind'⟩
    rw [Terminal.printLines, printed, Attempt.andThen_none, printed']
    rfl

/-- A terminal is set up, which shows the banner on its screen. -/
theorem setUp (lasting : Lasting kind) (start : kind terminal.screen) :
    ∃ after, terminal.setUp =
        ({ terminal with desk := { terminal.desk with screen := after, wired := true },
                         ready := true }, none) ∧ kind after := by
  obtain ⟨after, shown, isKind⟩ := @printLines kind
    { terminal with desk := { terminal.desk with wired := true } } lasting start banner
  refine ⟨after, ?_, isKind⟩
  unfold Terminal.setUp Terminal.showBanner
  rw [shown, Attempt.andThen_none]
  rfl

/-- A terminal is reset, which clears its session and shows the banner on a clear screen. -/
theorem reset (lasting : Lasting kind) (start : kind terminal.screen) :
    ∃ desk, terminal.reset =
        ({ terminal with desk, session := terminal.session.cleared }, none) ∧
      desk.wired = terminal.desk.wired ∧ kind desk.screen := by
  obtain ⟨desk, delivered, wired, isKind⟩ := lasting.deliver start (.line "")
  let written : Terminal :=
    { terminal with desk := { desk with screen := desk.screen.clear },
                    session := terminal.session.cleared }
  obtain ⟨after, shown, isKind'⟩ :=
    @printLines kind written lasting (lasting.clears isKind) banner
  refine ⟨{ desk with screen := after }, ?_, wired, isKind'⟩
  unfold Terminal.reset Terminal.atDesk Terminal.showBanner
  simp only [delivered, Attempt.andThen_none]
  exact shown

/-- What was written on a screen may be written on again. -/
theorem leaves (screen : Screen) : Lasting screen.Leaves where
  prints := by
    intro middle before text
    obtain ⟨after, printed, leaves⟩ := print_fits before.roomy text
    exact ⟨after, printed, before.trans leaves⟩
  clears before := before.trans (leaves_clear before.roomy)

end Screen.Lasting

end Lasting

end LineBasic
