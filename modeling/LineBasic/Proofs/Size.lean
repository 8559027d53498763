/-
**Grids and screens of a size.**

A grid keeps its rows and its columns, and its cursor comes no further than behind the last column,
whatever is done to it at the cursor. All that a screen does to its grid it does stroke by stroke:
it puts a cell, begins a row or scrolls, or blanks the grid as a whole. So a screen with a row and
a column takes whatever is written and typed, and shows frames of one size.

* `Grid.Sized` — a grid of a size, and `Sized.stroke`, `Sized.draw`, which keep it;
* `write_eq_draw`, `putAll_eq_draw` — what is written and echoed stroke by stroke;
* `Screen.Framed` — a screen of a size, and `Framed.print`, `Framed.pressAll`, which keep it.
-/

import LineBasic.Proofs.Room

namespace LineBasic

/-! ### Grids of a size -/

namespace Grid

/-- A grid with a number of rows that all have a number of columns, and a cursor that is no further
to the right than behind the last one. -/
structure Sized (rows columns : Nat) (grid : Grid) : Prop where
  width : grid.width = columns
  height : grid.cells.length = rows
  even : ∀ row ∈ grid.cells, row.length = columns
  inside : grid.x ≤ columns

section Sized

variable {rows columns : Nat} {grid : Grid}

theorem sized_blank (rows columns : Nat) : (blank rows columns).Sized rows columns where
  width := rfl
  height := by rw [blank, blankRows_eq, List.length_replicate]
  even := by
    rw [blank, blankRows_eq]
    intro row member
    rw [List.eq_of_mem_replicate member, blankRow, List.length_replicate]
  inside := Nat.zero_le _

theorem Sized.cleared_eq (sized : grid.Sized rows columns) : grid.cleared = blank rows columns := by
  rw [Grid.cleared, Grid.height, sized.height, sized.width]

theorem Sized.cleared (sized : grid.Sized rows columns) : grid.cleared.Sized rows columns :=
  sized.cleared_eq ▸ sized_blank rows columns

/-- Attempts that keep the size of a grid keep it together. -/
theorem sized_andThen {attempt : Attempt Grid GridFault} {next : Grid → Attempt Grid GridFault}
    (before : attempt.1.Sized rows columns)
    (keeps : ∀ grid : Grid, grid.Sized rows columns → (next grid).1.Sized rows columns) :
    (attempt.andThen next).1.Sized rows columns := by
  obtain ⟨grid, _ | reason⟩ := attempt
  · exact keeps grid before
  · exact before

theorem Sized.scroll (sized : grid.Sized rows columns) : grid.scroll.1.Sized rows columns := by
  obtain ⟨width, height, even, inside⟩ := sized
  unfold Grid.scroll
  split
  · exact ⟨width, height, even, inside⟩
  · next top below shape =>
    rw [shape] at height even
    refine ⟨width, by simpa using height, fun row member => ?_, inside⟩
    rcases List.mem_append.mp member with old | new
    · exact even row (List.mem_cons_of_mem top old)
    · rw [List.mem_singleton.mp new, blankRow, List.length_replicate, width]

theorem Sized.settle (sized : grid.Sized rows columns) : grid.settle.1.Sized rows columns := by
  unfold Grid.settle
  split
  · exact sized.scroll
  · exact sized

theorem Sized.newline (sized : grid.Sized rows columns) : grid.newline.1.Sized rows columns := by
  have started : Sized rows columns { grid with x := 0, y := grid.y + 1 } :=
    ⟨sized.width, sized.height, sized.even, Nat.zero_le _⟩
  exact started.settle

theorem Sized.wrap (sized : grid.Sized rows columns) : grid.wrap.1.Sized rows columns := by
  unfold Grid.wrap
  split
  · exact sized.newline
  · exact sized

theorem Sized.store (sized : grid.Sized rows columns) (cell : Cell) :
    (store cell grid).1.Sized rows columns := by
  obtain ⟨width, height, even, inside⟩ := sized
  unfold Grid.store
  split
  · exact ⟨width, height, even, inside⟩
  · next row found =>
    split
    · next free =>
      refine ⟨width, by simpa using height, fun other member => ?_, width ▸ free⟩
      rcases List.mem_or_eq_of_mem_set member with old | rfl
      · exact even other old
      · rw [List.length_set]
        exact even row (List.mem_of_getElem? found)
    · exact ⟨width, height, even, inside⟩

theorem Sized.put (sized : grid.Sized rows columns) (cell : Cell) :
    (grid.put cell).1.Sized rows columns :=
  sized_andThen (sized_andThen sized.wrap fun _ => Sized.settle) fun _ sized => sized.store cell

end Sized

/-! ### Strokes -/

/-- What can be done to a grid at its cursor. -/
inductive Stroke where
  | put (cell : Cell)
  | newline
  | scroll

/-- Do one thing at the cursor. -/
def stroke : Stroke → Grid → Attempt Grid GridFault
  | .put cell, grid => grid.put cell
  | .newline, grid => grid.newline
  | .scroll, grid => grid.scroll

/-- Do one thing after the other, up to the first fault. -/
def draw : List Stroke → Grid → Attempt Grid GridFault
  | [], grid => (grid, none)
  | first :: rest, grid => (grid.stroke first).andThen (draw rest)

theorem draw_single (stroke : Stroke) (grid : Grid) : grid.draw [stroke] = grid.stroke stroke := by
  rw [draw]
  obtain ⟨after, _ | reason⟩ := grid.stroke stroke <;> rfl

/-- The stroke that writes a character. -/
def Stroke.ofChar (c : Char) : Stroke :=
  if c = '\n' then .newline else .put (Cell.ofChar c)

/-- A text is written stroke by stroke. -/
theorem write_eq_draw (text : List Char) (grid : Grid) :
    grid.write text = grid.draw (text.map Stroke.ofChar) := by
  induction text generalizing grid with
  | nil => rfl
  | cons c rest hypothesis =>
    have first : grid.writeChar c = grid.stroke (.ofChar c) := by
      unfold writeChar Stroke.ofChar
      split <;> rfl
    rw [List.map_cons, write, draw, first]
    congr 1
    funext after
    exact hypothesis after

/-- Cells are put and a row is begun stroke by stroke. -/
theorem putAll_eq_draw (cells : List Cell) (grid : Grid) :
    (grid.putAll cells).andThen newline = grid.draw (cells.map .put ++ [.newline]) := by
  induction cells generalizing grid with
  | nil => exact (draw_single .newline grid).symm
  | cons cell rest hypothesis =>
    rw [putAll, Attempt.andThen_assoc, List.map_cons, List.cons_append, draw]
    show (grid.put cell).andThen _ = (grid.put cell).andThen _
    congr 1
    funext after
    exact hypothesis after

section Stroke

variable {rows columns : Nat} {grid : Grid}

/-- **A stroke keeps the size of a grid.** -/
theorem Sized.stroke (sized : grid.Sized rows columns) (stroke : Stroke) :
    (grid.stroke stroke).1.Sized rows columns := by
  cases stroke with
  | put cell => exact sized.put cell
  | newline => exact sized.newline
  | scroll => exact sized.scroll

/-- **A stroke fits on a grid with room.** -/
theorem fits_stroke (roomy : grid.Roomy) (stroke : Stroke) : Fits (grid.stroke stroke) := by
  cases stroke with
  | put cell => exact fits_put roomy cell
  | newline => exact fits_newline roomy
  | scroll => exact fits_scroll roomy.wide roomy.tall

theorem Sized.draw (sized : grid.Sized rows columns) (strokes : List Stroke) :
    (grid.draw strokes).1.Sized rows columns := by
  induction strokes generalizing grid with
  | nil => exact sized
  | cons first rest hypothesis =>
    exact sized_andThen (sized.stroke first) fun _ => hypothesis

theorem fits_draw (roomy : grid.Roomy) (strokes : List Stroke) : Fits (grid.draw strokes) := by
  induction strokes generalizing grid with
  | nil => exact fits_none roomy
  | cons first rest hypothesis =>
    exact (fits_stroke roomy first).andThen fun _ => hypothesis

end Stroke

end Grid

/-! ### Screens of a size -/

namespace Screen

/-- A screen of a size, with room, that has shown nothing but frames of that many rows. -/
structure Framed (rows columns : Nat) (screen : Screen) : Prop where
  sized : screen.grid.Sized rows columns
  roomy : screen.grid.Roomy
  shown : ∀ frame ∈ screen.frames, frame.length = rows

section Framed

variable {rows columns : Nat} {screen after : Screen}

/-- What does not concern the grid nor the frames does not matter. -/
theorem Framed.beside (framed : screen.Framed rows columns) (grid : after.grid = screen.grid)
    (frames : after.frames = screen.frames) : after.Framed rows columns :=
  ⟨grid ▸ framed.sized, grid ▸ framed.roomy, frames ▸ framed.shown⟩

theorem Framed.frame_length (framed : screen.Framed rows columns) : screen.frame.length = rows :=
  screen.frame_length.trans framed.sized.height

theorem Framed.render (framed : screen.Framed rows columns) :
    screen.render.Framed rows columns := by
  unfold Screen.render
  split
  · exact ⟨framed.sized, framed.roomy, List.forall_mem_cons.mpr
      ⟨framed.frame_length, framed.shown⟩⟩
  · exact framed

theorem Framed.clear (framed : screen.Framed rows columns) : screen.clear.Framed rows columns := by
  have blanked : Framed rows columns { screen with grid := screen.grid.cleared } :=
    ⟨framed.sized.cleared, Grid.roomy_cleared framed.roomy, framed.shown⟩
  exact blanked.render

theorem Framed.abandoned (framed : screen.Framed rows columns) :
    screen.abandoned.Framed rows columns :=
  ⟨framed.sized.cleared, Grid.roomy_cleared framed.roomy, framed.shown⟩

theorem Framed.release (framed : screen.Framed rows columns) (ticket : Nat) :
    (screen.release ticket).Framed rows columns := by
  unfold Screen.release
  split
  · exact framed.beside rfl rfl
  · exact framed

section Writing

variable {write : Grid → Attempt Grid GridFault} {strokes : List Grid.Stroke}

/-- What is drawn stroke by stroke is drawn to the end. -/
theorem Framed.onGrid (framed : screen.Framed rows columns)
    (draws : write screen.grid = screen.grid.draw strokes) :
    ∃ after, screen.onGrid write = (after, none) ∧ after.Framed rows columns := by
  have sized := framed.sized.draw strokes
  have fits := Grid.fits_draw framed.roomy strokes
  unfold Screen.onGrid
  rw [draws]
  generalize screen.grid.draw strokes = drawn at sized fits
  obtain ⟨grid, fault⟩ := drawn
  obtain ⟨rfl, roomy⟩ := fits
  exact ⟨_, rfl, sized, roomy, framed.shown⟩

theorem Framed.writing (framed : screen.Framed rows columns)
    (draws : write screen.grid = screen.grid.draw strokes) :
    ∃ after, screen.writing write = (after, none) ∧ after.Framed rows columns := by
  obtain ⟨after, written, framed'⟩ := framed.onGrid draws
  refine ⟨after.render, ?_, framed'.render⟩
  rw [Screen.writing, written, Attempt.andThen_none]

end Writing

/-- **A text is printed to its end.** -/
theorem Framed.print (framed : screen.Framed rows columns) (text : String) :
    ∃ after, screen.print text = (after, none) ∧ after.Framed rows columns :=
  framed.writing (Grid.write_eq_draw text.toList screen.grid)

/-- A read either waits or is refused since another one waits. -/
theorem Framed.openRead (framed : screen.Framed rows columns) (prompt : String) :
    (screen.openRead prompt).1.Framed rows columns ∧
      ∀ fault, (screen.openRead prompt).2 = .error fault → fault = .readPending := by
  obtain ⟨printed, prints, framed'⟩ : ∃ after,
      (if prompt = "" then (screen, none) else screen.print prompt) = (after, none) ∧
        after.Framed rows columns := by
    split
    · exact ⟨screen, rfl, framed⟩
    · exact framed.print prompt
  unfold Screen.openRead
  split
  · refine ⟨framed, fun fault same => ?_⟩
    cases same
    rfl
  · rw [prints]
    have waits : Framed rows columns { printed with
        pending := some printed.tickets, tickets := printed.tickets + 1, reading := true,
        typed := [] } := framed'.beside rfl rfl
    exact ⟨waits.render, nofun⟩

theorem Framed.openCommand (framed : screen.Framed rows columns) :
    screen.openCommand.1.Framed rows columns ∧
      ∀ fault, screen.openCommand.2 = .error fault → fault = .readPending := by
  obtain ⟨after, printed, framed'⟩ := framed.print (screen.promptGlyph ++ " ")
  unfold Screen.openCommand
  rw [printed]
  exact framed'.openRead ""

/-- A key is taken, and perhaps delivers a line. -/
theorem Framed.press (framed : screen.Framed rows columns) (key : Key) :
    ∃ after delivery, screen.press key = (after, .ok delivery) ∧ after.Framed rows columns := by
  unfold Screen.press
  split
  · exact ⟨_, _, rfl, framed⟩
  · have left : Framed rows columns
        { screen with typed := [], pending := none, reading := false } := framed.beside rfl rfl
    let echo := fun grid : Grid =>
      (grid.putAll (screen.typed.map Cell.ofChar)).andThen Grid.newline
    have draws : echo screen.grid = _ := Grid.putAll_eq_draw _ screen.grid
    obtain ⟨after, written, framed'⟩ := left.writing draws
    refine ⟨after, screen.pending.map fun ticket => ⟨ticket, String.ofList screen.typed⟩, ?_,
      framed'⟩
    unfold Screen.pressEnter
    simp only
    rw [written]
  · refine ⟨_, _, rfl, ?_⟩
    split
    · exact framed
    · have edited : Framed rows columns { screen with typed := screen.typed.dropLast } :=
        framed.beside rfl rfl
      exact edited.render
  · next c _ =>
    refine ⟨_, _, rfl, ?_⟩
    split
    · have edited : Framed rows columns { screen with typed := screen.typed ++ Text.capital c } :=
        framed.beside rfl rfl
      exact edited.render
    · exact framed
  · exact ⟨_, _, rfl, framed⟩

/-- **Keys are taken**, and perhaps deliver a line. -/
theorem Framed.pressAll (framed : screen.Framed rows columns) (keys : List Key) :
    ∃ after delivery, screen.pressAll keys = (after, .ok delivery) ∧
      after.Framed rows columns := by
  induction keys generalizing screen with
  | nil => exact ⟨screen, none, rfl, framed⟩
  | cons key rest hypothesis =>
    obtain ⟨middle, delivery, pressed, framed'⟩ := framed.press key
    rw [Screen.pressAll, pressed]
    cases delivery with
    | none => exact hypothesis framed'
    | some delivery => exact ⟨middle, some delivery, rfl, framed'⟩

/-- A new screen has the size that was asked for. -/
theorem framed_new {setup : Setup} {watched : Bool}
    (made : Screen.new setup watched = .ok screen) (tall : 1 ≤ setup.rows)
    (wide : 1 ≤ setup.columns) : screen.Framed setup.rows.toNat setup.columns.toNat := by
  unfold Screen.new at made
  split at made
  · cases made
  · have bare : Framed setup.rows.toNat setup.columns.toNat
        ⟨.blank setup.rows.toNat setup.columns.toNat, setup.promptGlyph, setup.cursorGlyph, [],
          false, none, 0, watched, []⟩ :=
      ⟨Grid.sized_blank _ _, Grid.roomy_blank (by omega) (by omega), nofun⟩
    cases made
    exact bare.render

end Framed

end Screen

end LineBasic
