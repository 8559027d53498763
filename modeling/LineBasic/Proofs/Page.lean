/-
**The page behind a screen.**

What is printed stands on a page without end: the text falls into pieces at its line feeds, and
each piece is cut into rows of the width of the screen. A screen that was blank at first shows the
end of this page, as many rows of it as there is room for. A row is left only when the next
character comes, so the cursor may stand behind a full row.

* `Page.rows` — the rows of a text on a page of some width;
* `flatten_cut`, `length_cut` — the rows of a piece hold all of it, and are all full but the last;
* `rows_character` — what one more character does to the rows;
* `showsEnd_newline`, `showsEnd_store` — what one more character does to the grid;
* `showsEnd_write` — a text written on the grid is written on the page;
* `printAll_showsEnd` — a blank screen shows the end of what is printed on it.
-/

import LineBasic.Outlet
import LineBasic.Screen.Basic
import Mathlib

namespace LineBasic

open Text

/-! ### Pages -/

namespace Page

/-- The rows of a piece without line feeds: each is filled before the next one begins, and a piece
without characters is one empty row. -/
def cut (width : Nat) (piece : List Char) : List (List Char) :=
  if _narrow : width = 0 ∨ piece.length ≤ width then [piece]
  else piece.take width :: cut width (piece.drop width)
termination_by piece.length
decreasing_by
  rw [List.length_drop]
  omega

/-- The rows of a text on a page of some width. -/
def rows (width : Nat) (text : List Char) : List (List Char) :=
  (pieces text).flatMap (cut width)

/-- A row of a page as cells, with blanks behind it. -/
def padded (width : Nat) (row : List Char) : List Cell :=
  row.map some ++ List.replicate (width - row.length) Cell.blank

/-- A piece that fits on a row is one row. -/
theorem cut_short {width : Nat} {piece : List Char} (short : piece.length ≤ width) :
    cut width piece = [piece] := by
  rw [cut, dif_pos (.inr short)]

/-- A piece that does not fit on a row fills one, and goes on behind it. -/
theorem cut_long {width : Nat} (positive : 0 < width) {piece : List Char}
    (long : width < piece.length) :
    cut width piece = piece.take width :: cut width (piece.drop width) := by
  rw [cut, dif_neg (by omega)]

/-- The rows of a piece hold all of it. -/
theorem flatten_cut (width : Nat) (piece : List Char) : (cut width piece).flatten = piece := by
  fun_induction cut width piece with
  | case1 piece narrow => exact List.append_nil piece
  | case2 piece wide hypothesis =>
    rw [List.flatten_cons, hypothesis, List.take_append_drop]

/-- A piece of as many characters as some full rows have is cut into those rows. -/
theorem length_cut {width : Nat} (positive : 0 < width) (count : Nat) (piece : List Char)
    (measure : piece.length = (count + 1) * width) : (cut width piece).length = count + 1 := by
  induction count generalizing piece with
  | zero => rw [cut_short (by omega), List.length_singleton]
  | succ count hypothesis =>
    have more : width ≤ (count + 1) * width := Nat.le_mul_of_pos_left width count.succ_pos
    have total : piece.length = (count + 1) * width + width := measure.trans (Nat.succ_mul _ _)
    have rest : (piece.drop width).length = (count + 1) * width := by
      rw [List.length_drop]
      omega
    rw [cut_long positive (by omega), List.length_cons, hypothesis _ rest]

/-- The last row of a page, and the rows above it. The last row is full before a new one begins. -/
structure EndsIn (width : Nat) (page above : List (List Char)) (last : List Char) : Prop where
  shape : page = above ++ [last]
  fits : last.length ≤ width

/-- One more character goes behind the last row, or begins a new one if that is full. -/
def extended (width : Nat) (above : List (List Char)) (last : List Char) (c : Char) :
    List (List Char) :=
  if last.length = width then above ++ [last, [c]] else above ++ [last ++ [c]]

/-- A piece ends in a row, which one more character extends. -/
theorem cut_character {width : Nat} (positive : 0 < width) (piece : List Char) :
    ∃ above last, EndsIn width (cut width piece) above last ∧
      ∀ c, cut width (piece ++ [c]) = extended width above last c := by
  by_cases short : piece.length ≤ width
  · refine ⟨[], piece, ⟨cut_short short, short⟩, fun c => ?_⟩
    unfold extended
    by_cases full : piece.length = width
    · have long : width < (piece ++ [c]).length := by
        rw [List.length_append, List.length_singleton]
        omega
      rw [if_pos full, cut_long positive long, List.take_left' full, List.drop_left' full,
        cut_short positive]
      rfl
    · have short' : (piece ++ [c]).length ≤ width := by
        rw [List.length_append, List.length_singleton]
        omega
      rw [if_neg full, cut_short short']
      rfl
  · have long : width < piece.length := by omega
    obtain ⟨above, last, ⟨shape, fits⟩, more⟩ := cut_character positive (piece.drop width)
    refine ⟨piece.take width :: above, last, ⟨?_, fits⟩, fun c => ?_⟩
    · rw [cut_long positive long, shape, List.cons_append]
    · have long' : width < (piece ++ [c]).length := by
        rw [List.length_append]
        omega
      rw [cut_long positive long', List.take_append_of_le_length long.le,
        List.drop_append_of_le_length long.le, more c]
      unfold extended
      split <;> rfl
termination_by piece.length
decreasing_by
  rw [List.length_drop]
  omega

/-- A text ends in a piece: a line feed begins another one, any other character extends it. -/
theorem pieces_character (text : List Char) :
    ∃ before last, pieces text = before ++ [last] ∧
      pieces (text ++ ['\n']) = before ++ [last, []] ∧
      ∀ c, c ≠ '\n' → pieces (text ++ [c]) = before ++ [last ++ [c]] := by
  induction text with
  | nil =>
    refine ⟨[], [], rfl, rfl, fun c inked => ?_⟩
    simp [pieces, inked]
  | cons d rest hypothesis =>
    obtain ⟨before, last, shape, ended, extended⟩ := hypothesis
    by_cases feed : d = '\n'
    · refine ⟨[] :: before, last, ?_, ?_, fun c inked => ?_⟩
      · simp [pieces, feed, shape]
      · simp [pieces, feed, ended]
      · simp [pieces, feed, extended c inked]
    · cases before with
      | nil =>
        refine ⟨[], d :: last, ?_, ?_, fun c inked => ?_⟩
        · simp [pieces, feed, shape]
        · simp [pieces, feed, ended]
        · simp [pieces, feed, extended c inked]
      | cons first others =>
        refine ⟨(d :: first) :: others, last, ?_, ?_, fun c inked => ?_⟩
        · simp [pieces, feed, shape]
        · simp [pieces, feed, ended]
        · simp [pieces, feed, extended c inked]

/-- **What one more character does to the rows of a text.** -/
theorem rows_character {width : Nat} (positive : 0 < width) (text : List Char) :
    ∃ above last, EndsIn width (rows width text) above last ∧
      rows width (text ++ ['\n']) = above ++ [last, []] ∧
      ∀ c, c ≠ '\n' → rows width (text ++ [c]) = extended width above last c := by
  obtain ⟨before, piece, shape, ended, more⟩ := pieces_character text
  obtain ⟨above, last, ⟨shape', fits⟩, more'⟩ := cut_character positive piece
  refine ⟨before.flatMap (cut width) ++ above, last, ⟨?_, fits⟩, ?_, fun c inked => ?_⟩
  · simp [rows, shape, shape']
  · have empty : cut width [] = [[]] := cut_short (Nat.zero_le width)
    simp [rows, ended, shape', empty]
  · rw [rows, more c inked, List.flatMap_append, List.flatMap_singleton, more' c]
    unfold extended
    split <;> simp

/-- A page on which nothing stands has one empty row. -/
theorem rows_nil (width : Nat) : rows width [] = [[]] := by
  simp [rows, pieces, cut_short]

/-- The end of a page, as many rows as there is room for, with blank rows below it. -/
def window (rows columns : Nat) (page : List (List Char)) : List (List Cell) :=
  (page.drop (page.length - rows)).map (padded columns) ++
    List.replicate (rows - page.length) (Grid.blankRow columns)

/-- A row with nothing on it is blank. -/
theorem padded_nil (width : Nat) : padded width [] = Grid.blankRow width := by
  simp [padded, Grid.blankRow]

/-- A character stored behind a row that is not full is the last one of the row. -/
theorem padded_set {width : Nat} {row : List Char} (free : row.length < width) (c : Char) :
    (padded width row).set row.length (some c) = padded width (row ++ [c]) := by
  obtain ⟨gap, spaces⟩ : ∃ gap, width - row.length = gap + 1 := ⟨width - row.length - 1, by omega⟩
  have shorter : width - (row ++ [c]).length = gap := by
    rw [List.length_append, List.length_singleton]
    omega
  have behind : row.length = (row.map some).length := (List.length_map some).symm
  unfold padded
  rw [shorter, spaces, List.replicate_succ, List.map_append]
  conv_lhs => rw [behind]
  simp

/-- A new row below a page for which there is room was blank before. -/
theorem window_room {rows columns : Nat} {page : List (List Char)} (room : page.length < rows) :
    window rows columns (page ++ [[]]) = window rows columns page := by
  obtain ⟨gap, free⟩ : ∃ gap, rows - page.length = gap + 1 := ⟨rows - page.length - 1, by omega⟩
  have none : page.length - rows = 0 := by omega
  have none' : (page ++ [[]]).length - rows = 0 := by
    rw [List.length_append, List.length_singleton]
    omega
  have free' : rows - (page ++ [[]]).length = gap := by
    rw [List.length_append, List.length_singleton]
    omega
  unfold window
  rw [none, none', free, free', List.replicate_succ]
  simp [padded_nil]

/-- A new row below a page that fills the window moves the window down by a row. -/
theorem window_full {rows : Nat} (columns : Nat) {page : List (List Char)}
    (full : rows ≤ page.length) (positive : 0 < rows) :
    ∃ top below, window rows columns page = top :: below ∧ below.length = rows - 1 ∧
      window rows columns (page ++ [[]]) = below ++ [Grid.blankRow columns] := by
  have inside : page.length - rows < page.length := by omega
  have next : (page ++ [[]]).length - rows = page.length - rows + 1 := by
    rw [List.length_append, List.length_singleton]
    omega
  have spare : rows - page.length = 0 := by omega
  have spare' : rows - (page ++ [[]]).length = 0 := by
    rw [List.length_append, List.length_singleton]
    omega
  refine ⟨padded columns page[page.length - rows],
    (page.drop (page.length - rows + 1)).map (padded columns), ?_, ?_, ?_⟩
  · unfold window
    rw [spare, List.drop_eq_getElem_cons inside, List.map_cons, List.replicate_zero,
      List.append_nil]
  · rw [List.length_map, List.length_drop]
    omega
  · unfold window
    rw [spare', next, List.drop_append_of_le_length (by omega)]
    simp [padded_nil]

/-- The last row of a page stands in the window below the rows above it that are still there. -/
theorem window_last {rows : Nat} (positive : 0 < rows) (columns : Nat) (above : List (List Char)) :
    ∃ shown blank, shown.length = min (above.length + 1) rows - 1 ∧
      ∀ last, window rows columns (above ++ [last]) = shown ++ padded columns last :: blank := by
  refine ⟨(above.drop (above.length + 1 - rows)).map (padded columns),
    List.replicate (rows - (above.length + 1)) (Grid.blankRow columns), ?_, fun last => ?_⟩
  · rw [List.length_map, List.length_drop]
    omega
  · unfold window
    rw [List.length_append, List.length_singleton, List.drop_append_of_le_length (by omega),
      List.map_append, List.append_assoc]
    rfl

/-- A window has as many rows as there is room for. -/
theorem window_length (rows columns : Nat) (page : List (List Char)) :
    (window rows columns page).length = rows := by
  unfold window
  rw [List.length_append, List.length_map, List.length_drop, List.length_replicate]
  omega

end Page

/-! ### The grid in front of a page -/

namespace Grid

/-- **A grid shows the end of a page**: as many rows as there is room for, from the top on, each
with blanks behind it, then blank rows; the cursor stands behind the last row of the page. -/
structure ShowsEnd (rows columns : Nat) (page : List (List Char)) (grid : Grid) : Prop where
  width : grid.width = columns
  cells : grid.cells = Page.window rows columns page
  y : grid.y = min page.length rows - 1
  x : grid.x = (page.getLastD []).length

section Steps

variable {rows columns : Nat} {grid : Grid}

/-- Below a row that is not the lowest there is another one. -/
theorem newline_room (room : grid.y + 1 < grid.height) :
    grid.newline = ({ grid with x := 0, y := grid.y + 1 }, none) :=
  if_neg (not_le.mpr room)

/-- Below the lowest row there is room once everything has moved up. -/
theorem newline_full (full : grid.height ≤ grid.y + 1) {top : List Cell}
    {below : List (List Cell)} (shape : grid.cells = top :: below) :
    grid.newline = (⟨grid.width, below ++ [blankRow grid.width], 0, below.length⟩, none) := by
  have scrolls : grid.newline = scroll { grid with x := 0, y := grid.y + 1 } := if_pos full
  rw [scrolls, scroll]
  simp only [shape]

/-- **A line feed begins a new row of the page**, whatever the last row is. -/
theorem showsEnd_newline (positive : 0 < rows) {page : List (List Char)}
    (shows : grid.ShowsEnd rows columns page) (somewhere : page ≠ []) :
    ∃ after, grid.newline = (after, none) ∧ after.ShowsEnd rows columns (page ++ [[]]) := by
  have low : 0 < page.length := List.length_pos_of_ne_nil somewhere
  have height : grid.height = rows := by
    rw [Grid.height, shows.cells, Page.window_length]
  have longer : (page ++ [[]]).length = page.length + 1 := List.length_append
  have place := shows.y
  by_cases room : page.length < rows
  · -- There is a blank row below the cursor.
    refine ⟨_, newline_room (by omega), ⟨shows.width, ?_, ?_, ?_⟩⟩
    · rw [Page.window_room room]
      exact shows.cells
    · show grid.y + 1 = min (page ++ [[]]).length rows - 1
      omega
    · rw [List.getLastD_concat]
      rfl
  · -- The cursor is on the lowest row, so everything moves up.
    obtain ⟨top, below, before, count, moved⟩ :=
      Page.window_full columns (not_lt.mp room) positive
    refine ⟨_, newline_full (by omega) (shows.cells.trans before), ⟨shows.width, ?_, ?_, ?_⟩⟩
    · rw [moved, shows.width]
    · show below.length = min (page ++ [[]]).length rows - 1
      omega
    · rw [List.getLastD_concat]
      rfl

/-- **A character goes behind the last row of the page** if that row is not full. -/
theorem showsEnd_store (positive : 0 < rows) {above : List (List Char)} {last : List Char}
    (shows : grid.ShowsEnd rows columns (above ++ [last])) (free : last.length < columns)
    (c : Char) :
    ∃ after, (grid.settle.andThen (store (some c))) = (after, none) ∧
      after.ShowsEnd rows columns (above ++ [last ++ [c]]) := by
  have count : ∀ row : List Char, (above ++ [row]).length = above.length + 1 := fun _ =>
    List.length_append
  obtain ⟨shown, blank, under, laid⟩ := Page.window_last positive columns above
  have place : grid.y = shown.length := by
    rw [shows.y, count, under]
  have column : grid.x = last.length := by
    rw [shows.x, List.getLastD_concat]
  have rowsOf : grid.cells = shown ++ Page.padded columns last :: blank := by
    rw [shows.cells, laid]
  have inside : ¬grid.height ≤ grid.y := by
    rw [Grid.height, rowsOf, place, List.length_append, List.length_cons]
    omega
  have found : grid.cells[grid.y]? = some (Page.padded columns last) := by
    rw [rowsOf, place, List.getElem?_append_right le_rfl, Nat.sub_self,
      List.getElem?_cons_zero]
  have free' : grid.x < grid.width := by
    rw [column, shows.width]
    exact free
  refine ⟨⟨grid.width, grid.cells.set grid.y ((Page.padded columns last).set grid.x (some c)),
    grid.x + 1, grid.y⟩, ?_, ⟨shows.width, ?_, ?_, ?_⟩⟩
  · rw [settle, if_neg inside, Attempt.andThen_none, store, found]
    simp only [if_pos free']
  · rw [laid, rowsOf, place, column, Page.padded_set free, List.set_append_right _ _ le_rfl,
      Nat.sub_self, List.set_cons_zero]
  · rw [shows.y, count, count]
  · rw [column, List.getLastD_concat, List.length_append, List.length_singleton]

/-- **Writing a character on the grid writes it on the page.** -/
theorem showsEnd_writeChar (tall : 0 < rows) (wide : 0 < columns) {text : List Char}
    (shows : grid.ShowsEnd rows columns (Page.rows columns text)) {c : Char}
    (visible : c.toNat ≠ 0) :
    ∃ after, grid.writeChar c = (after, none) ∧
      after.ShowsEnd rows columns (Page.rows columns (text ++ [c])) := by
  obtain ⟨above, last, ⟨shape, fits⟩, ended, more⟩ := Page.rows_character wide text
  rw [shape] at shows
  have somewhere : above ++ [last] ≠ [] := List.append_ne_nil_of_right_ne_nil _ (by simp)
  unfold writeChar
  by_cases feed : c = '\n'
  · have below : above ++ [last, []] = above ++ [last] ++ [[]] := by simp
    rw [if_pos feed, feed, ended, below]
    exact showsEnd_newline tall shows somewhere
  · have cell : Cell.ofChar c = some c := if_neg visible
    have column : grid.x = last.length := by
      rw [shows.x, List.getLastD_concat]
    rw [if_neg feed, cell, more c feed, put, wrap, column, shows.width]
    unfold Page.extended
    by_cases full : last.length = columns
    · -- The last row is left only now.
      obtain ⟨moved, moves, shows'⟩ := showsEnd_newline tall shows somewhere
      have below : above ++ [last, [c]] = above ++ [last] ++ [[] ++ [c]] := by simp
      rw [if_pos full.ge, moves, Attempt.andThen_none, if_pos full, below]
      exact showsEnd_store tall shows' wide c
    · rw [if_neg (by omega), Attempt.andThen_none, if_neg full]
      exact showsEnd_store tall shows (by omega) c

/-- **Writing a text on the grid writes it on the page.** -/
theorem showsEnd_write (tall : 0 < rows) (wide : 0 < columns) {text written : List Char}
    (shows : grid.ShowsEnd rows columns (Page.rows columns text))
    (visible : ∀ c ∈ written, c.toNat ≠ 0) :
    ∃ after, grid.write written = (after, none) ∧
      after.ShowsEnd rows columns (Page.rows columns (text ++ written)) := by
  induction written generalizing text grid with
  | nil =>
    refine ⟨grid, rfl, ?_⟩
    rw [List.append_nil]
    exact shows
  | cons c rest hypothesis =>
    obtain ⟨first, writes, shows'⟩ := showsEnd_writeChar tall wide shows (visible c (by simp))
    obtain ⟨after, others, shows''⟩ :=
      hypothesis shows' fun d listed => visible d (List.mem_cons_of_mem c listed)
    refine ⟨after, ?_, ?_⟩
    · rw [write, writes, Attempt.andThen_none, others]
    · rw [List.append_assoc, List.singleton_append] at shows''
      exact shows''

/-- A blank grid shows a page on which nothing stands. -/
theorem showsEnd_blank (tall : 0 < rows) (columns : Nat) :
    (blank rows columns).ShowsEnd rows columns (Page.rows columns []) := by
  obtain ⟨below, count⟩ : ∃ below, rows = below + 1 := ⟨rows - 1, by omega⟩
  rw [Page.rows_nil]
  refine ⟨rfl, ?_, ?_, rfl⟩
  · rw [blank, blankRows_eq, count, Page.window, List.length_singleton]
    simp [Page.padded_nil, List.replicate_succ]
  · rw [List.length_singleton]
    show 0 = min 1 rows - 1
    omega

end Steps

end Grid

/-! ### The screen in front of a page -/

namespace Screen

/-- Print pieces one after the other, up to the first fault. -/
def printAll : List Piece → Screen → Attempt Screen GridFault
  | [], screen => (screen, none)
  | .text text :: rest, screen => (screen.print text).andThen (printAll rest)
  | .line text :: rest, screen => (screen.printLine text).andThen (printAll rest)

/-- A piece is printed as the text it stands for, then the others. -/
theorem printAll_cons (piece : Piece) (rest : List Piece) (screen : Screen) :
    screen.printAll (piece :: rest) = (screen.print piece.chunk).andThen (printAll rest) := by
  rcases piece with text | text <;> rfl

/-- The screens with nothing on them: those that were just made, and those that were just
cleared. -/
inductive IsBlank : Nat → Nat → Screen → Prop where
  | made {setup : Setup} {watched : Bool} {screen : Screen}
      (made : Screen.new setup watched = .ok screen) :
      IsBlank setup.rows.toNat setup.columns.toNat screen
  | cleared (screen : Screen) : IsBlank screen.grid.height screen.grid.width screen.clear

/-- The grid of a screen with nothing on it. -/
theorem IsBlank.grid {rows columns : Nat} {screen : Screen}
    (blank : IsBlank rows columns screen) : screen.grid = .blank rows columns := by
  cases blank with
  | made made =>
    unfold Screen.new at made
    split at made
    · exact absurd made (by simp)
    · injection made with same
      rw [← same, grid_render]
  | cleared old => exact grid_render _

section Pages

variable {rows columns : Nat} {screen : Screen}

/-- Printing a piece on the screen writes it on the page. -/
theorem showsEnd_print (tall : 0 < rows) (wide : 0 < columns) {before : List Char} {text : String}
    (shows : screen.grid.ShowsEnd rows columns (Page.rows columns before))
    (visible : ∀ c ∈ text.toList, c.toNat ≠ 0) :
    ∃ after, screen.print text = (after, none) ∧
      after.grid.ShowsEnd rows columns (Page.rows columns (before ++ text.toList)) := by
  obtain ⟨written, writes, shows'⟩ := Grid.showsEnd_write tall wide shows visible
  have same := screen.grid_print text
  rw [writes] at same
  injection same with grid fault
  refine ⟨(screen.print text).1, ?_, ?_⟩
  · rw [← fault]
  · rw [grid]
    exact shows'

/-- Printing pieces on the screen writes them on the page, one after the other. -/
theorem showsEnd_printAll (tall : 0 < rows) (wide : 0 < columns) {before : List Char}
    {pieces : List Piece}
    (shows : screen.grid.ShowsEnd rows columns (Page.rows columns before))
    (visible : ∀ piece ∈ pieces, ∀ c ∈ piece.chunk.toList, c.toNat ≠ 0) :
    ∃ after, screen.printAll pieces = (after, none) ∧
      after.grid.ShowsEnd rows columns
        (Page.rows columns (before ++ Outlet.whole (pieces.map Piece.chunk))) := by
  induction pieces generalizing before screen with
  | nil =>
    refine ⟨screen, rfl, ?_⟩
    rw [List.map_nil, Outlet.whole, List.flatMap_nil, List.append_nil]
    exact shows
  | cons piece rest hypothesis =>
    obtain ⟨first, prints, shows'⟩ := showsEnd_print tall wide shows (visible piece (by simp))
    obtain ⟨after, others, shows''⟩ :=
      hypothesis shows' fun other listed => visible other (List.mem_cons_of_mem piece listed)
    refine ⟨after, ?_, ?_⟩
    · rw [printAll_cons, prints, Attempt.andThen_none, others]
    · rw [List.append_assoc] at shows''
      exact shows''

/-- **A blank screen shows the end of what is printed on it**: no printing breaks off, and the
grid shows the last rows of the page on which all the pieces stand. -/
theorem printAll_showsEnd (tall : 1 ≤ rows) (wide : 1 ≤ columns)
    (blank : IsBlank rows columns screen) (pieces : List Piece)
    (visible : ∀ piece ∈ pieces, ∀ c ∈ piece.chunk.toList, c.toNat ≠ 0) :
    ∃ after, screen.printAll pieces = (after, none) ∧
      after.grid.ShowsEnd rows columns
        (Page.rows columns (Outlet.whole (pieces.map Piece.chunk))) := by
  have shows : screen.grid.ShowsEnd rows columns (Page.rows columns []) := by
    rw [blank.grid]
    exact Grid.showsEnd_blank tall columns
  exact showsEnd_printAll tall wide shows visible

/-- On two rows of three places, seven letters and a line feed leave the seventh letter and a
blank row to be written on. -/
theorem printAll_showsEnd_two_rows :
    ∃ screen after, Screen.new ⟨2, 3, "]", "_"⟩ false = .ok screen ∧
      (∀ piece ∈ [Piece.text "ABCDE", .line "FG"], ∀ c ∈ piece.chunk.toList, c.toNat ≠ 0) ∧
      screen.printAll [.text "ABCDE", .line "FG"] = (after, none) ∧
      after.grid.cells = [[some 'G', some ' ', some ' '], [some ' ', some ' ', some ' ']] := by
  have visible : ∀ piece ∈ [Piece.text "ABCDE", .line "FG"], ∀ c ∈ piece.chunk.toList,
      c.toNat ≠ 0 := by
    simp [Piece.chunk]
  have made : Screen.new ⟨2, 3, "]", "_"⟩ false =
      .ok ⟨.blank 2 3, "]", "_", [], false, none, 0, false, []⟩ := rfl
  obtain ⟨after, prints, shows⟩ :=
    printAll_showsEnd (by decide) (by decide) (.made made) [.text "ABCDE", .line "FG"] visible
  refine ⟨_, after, made, visible, prints, ?_⟩
  rw [shows.cells]
  simp [Outlet.whole, Piece.chunk, Page.rows, Text.pieces, Page.cut, Page.window, Page.padded,
    Grid.blankRow, Cell.blank]

end Pages

end Screen

end LineBasic
