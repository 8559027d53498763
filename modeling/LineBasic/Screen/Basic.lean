/-
**The screen.**

A screen is a grid with what belongs to it: the glyphs of its prompt and its cursor, the line
that is being typed, the read that waits for that line, and a viewer who may be shown every
frame. Printing shows one frame at its end, however long the text.

A frame is the grid with the cursor on it: the row of the cursor is cut there, and the line being
typed and the cursor glyph follow.

* `frame_length` — a frame has as many rows as the grid;
* `height_print` — printing does not change the number of rows.
-/

import LineBasic.Screen.Grid

namespace LineBasic

/-- The size and the glyphs of a screen that is asked for. -/
structure Setup where
  rows : Int
  columns : Int
  promptGlyph : String
  cursorGlyph : String
  deriving DecidableEq

/-- The setup of a screen about which nothing is said. -/
def Setup.standard : Setup :=
  ⟨24, 40, "]", "_"⟩

/-- A grid with a line being typed, whether the keys go to it, the ticket of the read that waits
for it, and the frames that were shown, the latest first. -/
structure Screen where
  grid : Grid
  promptGlyph : String
  cursorGlyph : String
  typed : List Char
  reading : Bool
  pending : Option Nat
  tickets : Nat
  watched : Bool
  frames : List (List String)
  deriving DecidableEq

namespace Screen

/-! ### Frames -/

/-- The row of the cursor as a frame shows it. -/
def cursorRow (screen : Screen) : String :=
  let row := (screen.grid.cells[screen.grid.y]?).getD []
  String.ofList (Cell.shown (row.take screen.grid.x) ++
    (if screen.reading then screen.typed else [])) ++ screen.cursorGlyph

/-- The rows as a viewer is shown them. -/
def frame (screen : Screen) : List String :=
  (screen.grid.cells.map fun row => String.ofList (Cell.shown row)).set screen.grid.y
    screen.cursorRow

/-- Show a frame to the viewer, if there is one. -/
def render (screen : Screen) : Screen :=
  if screen.watched then { screen with frames := screen.frame :: screen.frames } else screen

/-- The bytes that a cell takes up. -/
def cellSize : Nat :=
  4

/-- The most bytes that a grid takes up, and the largest dimension. -/
def sizeLimit : Nat :=
  Nat.pow 2 63 - 1

/-- Whether a dimension can be written down as a machine word. -/
def isWord (dimension : Int) : Bool :=
  -(sizeLimit : Int) - 1 ≤ dimension && dimension ≤ sizeLimit

/-- The bytes that a grid takes up; the dimensions are looked at in order, and one of zero is
passed over. -/
def bytes (soFar : Nat) : List Int → Except GridFault Nat
  | [] => .ok soFar
  | dimension :: rest =>
    if dimension = 0 then bytes soFar rest
    else if dimension < 0 then .error .negativeDimensions
    else if sizeLimit < soFar * dimension.toNat then .error .areaTooLarge
    else bytes (soFar * dimension.toNat) rest

/-- The fault of a grid of a size, if it cannot be. -/
def sizeFault? (rows columns : Int) : Option GridFault :=
  if !isWord rows || !isWord columns then some .dimensionTooLarge
  else
    match bytes cellSize [rows, columns] with
    | .error fault => some fault
    | .ok _ => none

/-- A new screen, which has shown its first frame. -/
def new (setup : Setup) (watched : Bool) : Except GridFault Screen :=
  match sizeFault? setup.rows setup.columns with
  | some fault => .error fault
  | none =>
    .ok (render ⟨.blank setup.rows.toNat setup.columns.toNat, setup.promptGlyph,
      setup.cursorGlyph, [], false, none, 0, watched, []⟩)

/-! ### Output -/

/-- Write to the grid, showing nothing yet. -/
def onGrid (write : Grid → Attempt Grid GridFault) (screen : Screen) : Attempt Screen GridFault :=
  let (grid, fault) := write screen.grid
  ({ screen with grid }, fault)

/-- Write to the grid and show the result, unless writing broke off. -/
def writing (write : Grid → Attempt Grid GridFault) (screen : Screen) :
    Attempt Screen GridFault :=
  (screen.onGrid write).andThen fun screen => (screen.render, none)

/-- Print a text. -/
def print (text : String) (screen : Screen) : Attempt Screen GridFault :=
  screen.writing (Grid.write text.toList)

/-- Print a line. -/
def printLine (text : String) (screen : Screen) : Attempt Screen GridFault :=
  screen.print (text ++ "\n")

/-- Blank the grid and show it; a line being typed goes on. -/
def clear (screen : Screen) : Screen :=
  render { screen with grid := screen.grid.cleared }

/-! ### Laws -/

/-- A frame has as many rows as the grid. -/
theorem frame_length (screen : Screen) : screen.frame.length = screen.grid.height := by
  simp [frame, Grid.height]

/-- Showing a frame changes nothing but what was shown. -/
@[simp] theorem grid_render (screen : Screen) : screen.render.grid = screen.grid := by
  unfold render
  split <;> rfl

/-- Printing acts on the grid as writing does. -/
theorem grid_print (text : String) (screen : Screen) :
    ((screen.print text).1.grid, (screen.print text).2) = screen.grid.write text.toList := by
  unfold print writing onGrid
  rcases screen.grid.write text.toList with ⟨grid, _ | reason⟩
  · simp
  · rfl

/-- Writing does not change the number of rows. -/
theorem height_write (text : List Char) (grid : Grid) :
    (grid.write text).1.height = grid.height := by
  induction text generalizing grid with
  | nil => rfl
  | cons c rest hypothesis =>
    refine Grid.height_andThen ?_ hypothesis
    unfold Grid.writeChar
    split
    · exact grid.height_newline
    · exact Grid.height_put _ grid

/-- Printing does not change the number of rows. -/
theorem height_print (text : String) (screen : Screen) :
    (screen.print text).1.grid.height = screen.grid.height := by
  have same := congrArg Prod.fst (screen.grid_print text)
  simp only at same
  rw [same]
  exact height_write text.toList screen.grid

end Screen

end LineBasic
