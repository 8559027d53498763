/-
**The grid: rows of characters with a cursor.**

A grid has a fixed width and a fixed number of rows. Putting a character advances the cursor; a
character that does not fit on the row goes to the next one, and past the last row everything
moves up by a row. A grid without rows or without columns cannot hold a character: writing to it
breaks off, with the cursor where it was by then.

* `height_scroll`, `height_put` — no writing changes the number of rows;
* `write_append` — texts written one after the other are one text.
-/

import LineBasic.Attempt
import LineBasic.Fault
import LineBasic.Text.Blank

namespace LineBasic

open Text

/-- A place of the grid: a character, or nothing at all, not even a blank. It stands for an element
of a `<U1` array, a text with room for one code point. Of a longer text only the first code point is
kept, and the code point zero, which such an array uses for padding, leaves the place empty. -/
abbrev Cell : Type :=
  Option Char

namespace Cell

/-- The cell of an untouched grid. -/
def blank : Cell :=
  some ' '

/-- The cell that holds a character; the character zero leaves nothing. -/
def ofChar (c : Char) : Cell :=
  if c.toNat = 0 then none else some c

/-- The cell that holds the first character of a text. -/
def ofText (text : String) : Cell :=
  text.toList.head?.bind ofChar

/-- The characters that a row of cells shows. -/
def shown (row : List Cell) : List Char :=
  row.filterMap id

end Cell

/-- Rows of cells, all of the same width, and the place of the cursor. The list of rows stands for
an array of two dimensions. Of its interface no more is taken than filling it, writing at a place,
with an error outside the bounds, moving all rows up by one and reading the rows. -/
structure Grid where
  width : Nat
  cells : List (List Cell)
  x : Nat
  y : Nat
  deriving DecidableEq

namespace Grid

/-- A row of blanks. -/
def blankRow (width : Nat) : List Cell :=
  List.replicate width Cell.blank

/-- Rows of blanks; where there are none, no row is laid out, however wide it would be. -/
def blankRows (width : Nat) : Nat → List (List Cell)
  | 0 => []
  | rows + 1 => List.replicate (rows + 1) (blankRow width)

/-- Rows of blanks are all alike. -/
theorem blankRows_eq (width height : Nat) :
    blankRows width height = List.replicate height (blankRow width) := by
  cases height <;> rfl

/-- A grid of blanks, with the cursor at the top left. -/
def blank (height width : Nat) : Grid :=
  ⟨width, blankRows width height, 0, 0⟩

/-- The number of rows. -/
def height (grid : Grid) : Nat :=
  grid.cells.length

/-- The grid with nothing on it. -/
def cleared (grid : Grid) : Grid :=
  blank grid.height grid.width

/-! ### Writing -/

/-- Drop the top row, open a blank one at the bottom, and go there. -/
def scroll (grid : Grid) : Attempt Grid GridFault :=
  match grid.cells with
  | [] => (grid, some (.outOfBounds (-1) 0 0))
  | _ :: below =>
    ({ grid with cells := below ++ [blankRow grid.width], y := below.length }, none)

/-- Make room for the row of the cursor. -/
def settle (grid : Grid) : Attempt Grid GridFault :=
  if grid.height ≤ grid.y then grid.scroll else (grid, none)

/-- Go to the start of the next row. -/
def newline (grid : Grid) : Attempt Grid GridFault :=
  { grid with x := 0, y := grid.y + 1 }.settle

/-- Go to the next row if the row of the cursor is full. -/
def wrap (grid : Grid) : Attempt Grid GridFault :=
  if grid.width ≤ grid.x then grid.newline else (grid, none)

/-- Store a cell at the cursor, and advance. -/
def store (cell : Cell) (grid : Grid) : Attempt Grid GridFault :=
  match grid.cells[grid.y]? with
  | none => (grid, some (.outOfBounds grid.y 0 grid.height))
  | some row =>
    if grid.x < grid.width then
      ({ grid with cells := grid.cells.set grid.y (row.set grid.x cell), x := grid.x + 1 }, none)
    else (grid, some (.outOfBounds grid.x 1 grid.width))

/-- Put a cell where there is room for it. -/
def put (cell : Cell) (grid : Grid) : Attempt Grid GridFault :=
  (grid.wrap.andThen settle).andThen (store cell)

/-- Put cells one after the other, up to the first fault. -/
def putAll : List Cell → Grid → Attempt Grid GridFault
  | [], grid => (grid, none)
  | cell :: rest, grid => (grid.put cell).andThen (putAll rest)

/-- Write a character; a line feed starts a new row. -/
def writeChar (c : Char) (grid : Grid) : Attempt Grid GridFault :=
  if c = '\n' then grid.newline else grid.put (Cell.ofChar c)

/-- Write a text, up to the first fault. -/
def write : List Char → Grid → Attempt Grid GridFault
  | [], grid => (grid, none)
  | c :: rest, grid => (grid.writeChar c).andThen (write rest)

/-! ### Reading -/

/-- The text of a row, without the blanks at its end. -/
def rowText (row : List Cell) : String :=
  String.ofList (trimEnd (Cell.shown row))

/-- The text of all rows, without the empty rows at the end. -/
def text (grid : Grid) : String :=
  let lines := (grid.cells.map rowText).reverse.dropWhile (· = "")
  "\n".intercalate lines.reverse

/-- The text of the row with a number; negative numbers count from the last row. -/
def rowAt (row : Int) (grid : Grid) : Except GridFault String :=
  let place := if row < 0 then row + grid.height else row
  if place < 0 then .error (.outOfBounds row 0 grid.height)
  else
    match grid.cells[place.toNat]? with
    | some cells => .ok (rowText cells)
    | none => .error (.outOfBounds row 0 grid.height)

/-- What a row shows, with no spaces at its end. -/
def unpadded (row : List Cell) : String :=
  String.ofList ((Cell.shown row).reverse.dropWhile (· = ' ')).reverse

/-- What the rows show, without the empty rows at the end. -/
def picture (grid : Grid) : List String :=
  ((grid.cells.map unpadded).reverse.dropWhile (· = "")).reverse

/-! ### Laws of writing -/

/-- Scrolling does not change the number of rows. -/
theorem height_scroll (grid : Grid) : grid.scroll.1.height = grid.height := by
  unfold scroll height
  split <;> simp_all

/-- Making room does not change the number of rows. -/
theorem height_settle (grid : Grid) : grid.settle.1.height = grid.height := by
  unfold settle
  split
  · exact grid.height_scroll
  · rfl

/-- A new row does not change the number of rows. -/
theorem height_newline (grid : Grid) : grid.newline.1.height = grid.height :=
  height_settle _

/-- Wrapping does not change the number of rows. -/
theorem height_wrap (grid : Grid) : grid.wrap.1.height = grid.height := by
  unfold wrap
  split
  · exact grid.height_newline
  · rfl

/-- Storing a cell does not change the number of rows. -/
theorem height_store (cell : Cell) (grid : Grid) : (grid.store cell).1.height = grid.height := by
  unfold store height
  split
  · rfl
  · split <;> simp

/-- Attempts that keep the number of rows keep it together. -/
theorem height_andThen {attempt : Attempt Grid GridFault} {next : Grid → Attempt Grid GridFault}
    {height : Nat} (before : attempt.1.height = height)
    (keeps : ∀ grid : Grid, (next grid).1.height = grid.height) :
    (attempt.andThen next).1.height = height := by
  obtain ⟨grid, _ | reason⟩ := attempt
  · exact (keeps grid).trans before
  · exact before

/-- Putting a cell does not change the number of rows. -/
theorem height_put (cell : Cell) (grid : Grid) : (grid.put cell).1.height = grid.height :=
  height_andThen (height_andThen grid.height_wrap height_settle) (height_store cell)

/-- Texts written one after the other are one text. -/
theorem write_append (first second : List Char) (grid : Grid) :
    grid.write (first ++ second) = (grid.write first).andThen (write second) := by
  induction first generalizing grid with
  | nil => rfl
  | cons c rest hypothesis =>
    rw [List.cons_append, write, write, Attempt.andThen_assoc]
    congr 1
    funext after
    exact hypothesis after

end Grid

end LineBasic
