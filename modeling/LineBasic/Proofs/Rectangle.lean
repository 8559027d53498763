/-
**Every frame is a rectangle.**

No line feed comes into a cell of the grid nor into the line that is typed: what is printed begins
a row there, and no key types one. So no row of a frame is broken, however long or short the cells,
the typed line and the cursor glyph make it; and inside the border each row is cut or filled up to
the same width. A framed screen only uses its terminal, so all that it shows are such frames, one
before each line that it reads.

* `Grid.Plain`, `Screen.Plain` — a grid and a screen that no line feed has come to;
* `plain_draw`, `plain_handled` — strokes, and whatever a screen is handled with;
* `isRectangle_bordered` — rows without line feeds make a rectangle inside a border;
* `FramedScreen.Shows`, `shows_new` — what a framed screen shows is what became of its screen;
* `frames_rectangular` — the frames of a whole dialogue.
-/

import LineBasic.Console.Dialogue
import LineBasic.Proofs.Becoming
import LineBasic.Proofs.Echo

namespace LineBasic

/-! ### Grids without line feeds -/

namespace Grid

/-- A grid with no line feed in a cell. -/
def Plain (grid : Grid) : Prop :=
  ∀ row ∈ grid.cells, some '\n' ∉ row

section Plain

variable {grid : Grid}

/-- Attempts that leave a grid plain leave it so together. -/
theorem plain_andThen {attempt : Attempt Grid GridFault} {next : Grid → Attempt Grid GridFault}
    (before : attempt.1.Plain) (keeps : ∀ grid : Grid, grid.Plain → (next grid).1.Plain) :
    (attempt.andThen next).1.Plain := by
  obtain ⟨grid, _ | reason⟩ := attempt
  · exact keeps grid before
  · exact before

theorem lineFeed_notMem_blankRow (width : Nat) : some '\n' ∉ blankRow width := by
  intro member
  exact absurd (List.eq_of_mem_replicate member) (by decide)

theorem plain_blank (rows width : Nat) : (blank rows width).Plain := by
  unfold blank Plain
  rw [blankRows_eq]
  intro row member
  rw [List.eq_of_mem_replicate member]
  exact lineFeed_notMem_blankRow _

theorem plain_scroll (plain : grid.Plain) : grid.scroll.1.Plain := by
  unfold scroll
  split
  · exact plain
  · next top below shape =>
    intro row member
    rcases List.mem_append.mp member with old | new
    · exact plain row (shape ▸ List.mem_cons_of_mem top old)
    · rw [List.mem_singleton.mp new]
      exact lineFeed_notMem_blankRow _

theorem plain_settle (plain : grid.Plain) : grid.settle.1.Plain := by
  unfold settle
  split
  · exact plain_scroll plain
  · exact plain

theorem plain_newline (plain : grid.Plain) : grid.newline.1.Plain :=
  @plain_settle { grid with x := 0, y := grid.y + 1 } plain

theorem plain_store {cell : Cell} (inked : cell ≠ some '\n') (plain : grid.Plain) :
    (store cell grid).1.Plain := by
  unfold store
  split
  · exact plain
  · next row found =>
    split
    · intro other member
      rcases List.mem_or_eq_of_mem_set member with old | rfl
      · exact plain other old
      · intro feed
        rcases List.mem_or_eq_of_mem_set feed with old | same
        · exact plain row (List.mem_of_getElem? found) old
        · exact inked same.symm
    · exact plain

theorem plain_put {cell : Cell} (inked : cell ≠ some '\n') (plain : grid.Plain) :
    (grid.put cell).1.Plain := by
  have wrapped : grid.wrap.1.Plain := by
    unfold wrap
    split
    · exact plain_newline plain
    · exact plain
  exact plain_andThen (plain_andThen wrapped fun _ => plain_settle) fun _ => plain_store inked

/-- **Strokes that put no line feed leave a grid plain.** -/
theorem plain_draw {strokes : List Stroke} (inked : .put (some '\n') ∉ strokes)
    (plain : grid.Plain) : (grid.draw strokes).1.Plain := by
  induction strokes generalizing grid with
  | nil => exact plain
  | cons first rest hypothesis =>
    obtain ⟨notFirst, notLater⟩ := List.ne_and_not_mem_of_not_mem_cons inked
    refine plain_andThen ?_ fun _ => hypothesis notLater
    cases first with
    | put cell => exact plain_put (fun same => notFirst (same ▸ rfl)) plain
    | newline => exact plain_newline plain
    | scroll => exact plain_scroll plain

theorem ofChar_ne_lineFeed {c : Char} (other : c ≠ '\n') : Cell.ofChar c ≠ some '\n' := by
  unfold Cell.ofChar
  split
  · exact nofun
  · exact fun same => other (Option.some.inj same)

end Plain

end Grid

/-! ### Screens without line feeds -/

namespace Screen

/-- A screen with no line feed in a cell, in the line that is typed or in the cursor glyph. -/
structure Plain (screen : Screen) : Prop where
  grid : screen.grid.Plain
  typed : '\n' ∉ screen.typed
  glyph : '\n' ∉ screen.cursorGlyph.toList

section Plain

variable {screen after : Screen} {write : Grid → Attempt Grid GridFault}
  {strokes : List Grid.Stroke}

theorem Plain.render (plain : screen.Plain) : screen.render.Plain := by
  unfold Screen.render
  split
  · exact ⟨plain.grid, plain.typed, plain.glyph⟩
  · exact plain

theorem Plain.writing (plain : screen.Plain)
    (draws : write screen.grid = screen.grid.draw strokes) (inked : .put (some '\n') ∉ strokes) :
    (screen.writing write).1.Plain := by
  have drawn := Grid.plain_draw inked plain.grid
  unfold Screen.writing Screen.onGrid
  rw [draws]
  generalize screen.grid.draw strokes = result at drawn
  obtain ⟨grid, _ | fault⟩ := result
  · exact Plain.render ⟨drawn, plain.typed, plain.glyph⟩
  · exact ⟨drawn, plain.typed, plain.glyph⟩

theorem Plain.print (plain : screen.Plain) (text : String) : (screen.print text).1.Plain := by
  refine plain.writing (Grid.write_eq_draw text.toList screen.grid) fun member => ?_
  obtain ⟨c, _, same⟩ := List.mem_map.mp member
  unfold Grid.Stroke.ofChar at same
  split at same
  · cases same
  · next other => exact Grid.ofChar_ne_lineFeed other (Grid.Stroke.put.inj same)

theorem Plain.openRead (plain : screen.Plain) (prompt : String) :
    (screen.openRead prompt).1.Plain := by
  have printed : (if prompt = "" then (screen, none) else screen.print prompt).1.Plain := by
    split
    · exact plain
    · exact plain.print prompt
  unfold Screen.openRead
  split
  · exact plain
  · generalize (if prompt = "" then (screen, none) else screen.print prompt) = result at printed
    obtain ⟨middle, _ | fault⟩ := result
    · exact Plain.render ⟨printed.grid, List.not_mem_nil, printed.glyph⟩
    · exact printed

theorem Plain.pressEnter (plain : screen.Plain) : screen.pressEnter.1.Plain := by
  have left : Plain { screen with typed := [], pending := none, reading := false } :=
    ⟨plain.grid, List.not_mem_nil, plain.glyph⟩
  let echo := fun grid : Grid =>
    (grid.putAll (screen.typed.map Cell.ofChar)).andThen Grid.newline
  have draws : echo screen.grid = _ := Grid.putAll_eq_draw _ screen.grid
  have echoed := left.writing draws <| by
    rw [List.mem_append, List.map_map]
    rintro (member | ended)
    · obtain ⟨c, typed, same⟩ := List.mem_map.mp member
      have other : c ≠ '\n' := fun feed => plain.typed (feed ▸ typed)
      exact Grid.ofChar_ne_lineFeed other (Grid.Stroke.put.inj same)
    · cases List.mem_singleton.mp ended
  unfold Screen.pressEnter
  simp only
  generalize Screen.writing _ _ = result at echoed
  obtain ⟨after, _ | fault⟩ := result
  · exact echoed
  · exact echoed

theorem Plain.press (plain : screen.Plain) (key : Key) : (screen.press key).1.Plain := by
  unfold Screen.press
  split
  · exact plain
  · exact plain.pressEnter
  · split
    · exact plain
    · exact Plain.render ⟨plain.grid, fun member => plain.typed (List.mem_of_mem_dropLast member),
        plain.glyph⟩
  · split
    · next printable =>
      refine Plain.render ⟨plain.grid, ?_, plain.glyph⟩
      rw [List.mem_append]
      exact not_or_intro plain.typed (Text.lineFeed_notMem_capital printable)
    · exact plain
  · exact plain

/-- **No handling brings a line feed to a screen.** -/
theorem plain_handled (handled : screen.Handled after) (plain : screen.Plain) : after.Plain := by
  cases handled with
  | print text => exact plain.print text
  | clear => exact Plain.render ⟨Grid.plain_blank _ _, plain.typed, plain.glyph⟩
  | openRead prompt => exact plain.openRead prompt
  | release ticket =>
    unfold release
    split
    · exact ⟨plain.grid, plain.typed, plain.glyph⟩
    · exact plain
  | press key => exact plain.press key
  | abandon => exact ⟨Grid.plain_blank _ _, List.not_mem_nil, plain.glyph⟩

/-- No handling changes the size of a screen. -/
theorem framed_handled {rows columns : Nat} (handled : screen.Handled after)
    (framed : screen.Framed rows columns) : after.Framed rows columns := by
  cases handled with
  | print text =>
    obtain ⟨printed, prints, framed'⟩ := framed.print text
    rwa [prints]
  | clear => exact framed.clear
  | openRead prompt => exact (framed.openRead prompt).1
  | release ticket => exact framed.release ticket
  | press key =>
    obtain ⟨pressed, delivery, presses, framed'⟩ := framed.press key
    rwa [presses]
  | abandon => exact framed.abandoned

/-- A new screen has no line feed, if its cursor glyph has none. -/
theorem plain_new {setup : Setup} {watched : Bool} (glyph : '\n' ∉ setup.cursorGlyph.toList)
    (made : Screen.new setup watched = .ok screen) : screen.Plain := by
  unfold Screen.new at made
  split at made
  · cases made
  · cases made
    have blank : (Grid.blank setup.rows.toNat setup.columns.toNat).Plain :=
      Grid.plain_blank _ _
    exact Plain.render ⟨blank, List.not_mem_nil, glyph⟩

theorem lineFeed_notMem_shown {row : List Cell} (plain : some '\n' ∉ row) :
    '\n' ∉ Cell.shown row := by
  unfold Cell.shown
  rw [List.mem_filterMap]
  rintro ⟨cell, member, same⟩
  exact plain (same ▸ member)

/-- **No row of a frame is broken.** -/
theorem Plain.frame (plain : screen.Plain) : ∀ row ∈ screen.frame, '\n' ∉ row.toList := by
  intro row member
  unfold Screen.frame at member
  -- A row as it is laid out, or the row of the cursor, which the typed line and the glyph end.
  rcases List.mem_or_eq_of_mem_set member with laid | rfl
  · obtain ⟨cells, listed, rfl⟩ := List.mem_map.mp laid
    rw [String.toList_ofList]
    exact lineFeed_notMem_shown (plain.grid cells listed)
  · have cut : ∀ cells : List Cell, some '\n' ∉ cells → '\n' ∉ Cell.shown (cells.take screen.grid.x) :=
      fun cells absent => lineFeed_notMem_shown fun member => absent (List.mem_of_mem_take member)
    unfold Screen.cursorRow
    rw [String.toList_append, String.toList_ofList, List.mem_append, List.mem_append]
    refine not_or_intro (not_or_intro (cut _ ?_) ?_) plain.glyph
    · cases found : screen.grid.cells[screen.grid.y]? with
      | none => exact List.not_mem_nil
      | some cells => exact plain.grid cells (List.mem_of_getElem? found)
    · split
      · exact plain.typed
      · exact List.not_mem_nil

end Plain

/-! ### Rectangles -/

/-- A text of as many lines as there are rows, each of which has as many characters as there are
columns, and a line feed behind them. -/
def IsRectangle (rows columns : Nat) (text : String) : Prop :=
  ∃ lines : List (List Char), lines.length = rows ∧
    (∀ line ∈ lines, line.length = columns ∧ '\n' ∉ line) ∧
    text.toList = lines.flatMap (· ++ ['\n'])

section Border

variable {columns : Int}

/-- What is written between two marks of a border. -/
theorem fits_between {mark : Char} {inside : List Char} {width : Nat} (other : mark ≠ '\n')
    (long : inside.length = width) (plain : '\n' ∉ inside) :
    (mark :: inside ++ [mark]).length = width + 2 ∧ '\n' ∉ mark :: inside ++ [mark] := by
  refine ⟨by simp [long], ?_⟩
  rw [List.cons_append, List.mem_cons, List.mem_append, List.mem_singleton]
  exact not_or_intro other.symm (not_or_intro plain other.symm)

theorem lineFeed_notMem_fit {row : List Char} (plain : '\n' ∉ row) : '\n' ∉ fit columns row := by
  unfold fit
  rw [List.mem_append]
  refine not_or_intro (fun member => plain ?_) fun member => ?_
  · split at member <;> exact List.mem_of_mem_take member
  · exact absurd (List.eq_of_mem_replicate member) (by decide)

/-- **Rows without line feeds make a rectangle inside a border.** -/
theorem isRectangle_bordered (wide : 0 ≤ columns) {rows : List String}
    (plain : ∀ row ∈ rows, '\n' ∉ row.toList) :
    IsRectangle (rows.length + 2) (columns.toNat + 2) (bordered columns rows) := by
  let edge := '+' :: List.replicate columns.toNat '-' ++ ['+']
  let body := rows.map fun row => '|' :: fit columns row.toList ++ ['|']
  refine ⟨edge :: body ++ [edge], by simp [body], fun line member => ?_, ?_⟩
  · have ends : edge.length = columns.toNat + 2 ∧ '\n' ∉ edge :=
      fits_between (by decide) List.length_replicate fun member =>
        absurd (List.eq_of_mem_replicate member) (by decide)
    rw [List.cons_append, List.mem_cons, List.mem_append, List.mem_singleton] at member
    rcases member with rfl | inside | rfl
    · exact ends
    · obtain ⟨row, listed, rfl⟩ := List.mem_map.mp inside
      exact fits_between (by decide) (fit_length wide _) (lineFeed_notMem_fit (plain row listed))
    · exact ends
  · unfold bordered border
    simp [String.toList_join, edge, body, List.flatMap_map]

end Border

end Screen

/-! ### Framed screens -/

namespace FramedScreen

/-- A framed screen with the screen that came of another one, which has shown nothing but what came
of that one before. -/
structure Shows (start : Screen) (columns : Int) (display : FramedScreen) : Prop where
  width : display.columns = columns
  becomes : start.Becomes display.terminal.screen
  shown : ∀ chunk ∈ display.chunks,
    ∃ screen, start.Becomes screen ∧ chunk = Screen.bordered columns screen.frame

section Shows

variable {start : Screen} {columns : Int} {display : FramedScreen} {terminal : Terminal}
  {lines : List String} {line : String}

/-- A framed screen that goes on behind typed lines has shown one more frame. -/
theorem chunks_typeLines (goesOn : (display.typeLines lines).ended = none) :
    (display.typeLines lines).chunks.length = display.chunks.length + 1 := by
  unfold FramedScreen.typeLines at goesOn ⊢
  split at goesOn
  · cases goesOn
  · next shape =>
    split at goesOn
    · cases goesOn
    · next reads =>
      rw [if_neg reads]
      rfl

/-- A framed screen that goes on behind a line went on before it. -/
theorem ended_reply (goesOn : (display.reply (some line)).ended = none) :
    display.ended = none := by
  unfold FramedScreen.reply at goesOn
  split at goesOn
  · exact goesOn
  · next running => exact Option.not_isSome_iff_eq_none.mp running

theorem chunks_reply (goesOn : (display.reply (some line)).ended = none) :
    (display.reply (some line)).chunks.length = display.chunks.length + 1 := by
  have running := ended_reply goesOn
  have takes : display.reply (some line) =
      display.typeLines [String.ofList (Text.withoutLineEnd line.toList)] :=
    if_neg (Option.not_isSome_iff_eq_none.mpr running)
  rw [takes] at goesOn ⊢
  exact chunks_typeLines goesOn

/-- A framed screen that goes on has shown one more frame for each line it took. -/
theorem chunks_foldl_reply (goesOn : (lines.foldl
      (fun display line => display.reply (some line)) display).ended = none) :
    (lines.foldl (fun display line => display.reply (some line)) display).chunks.length =
        display.chunks.length + lines.length ∧
      display.ended = none := by
  induction lines generalizing display with
  | nil => exact ⟨rfl, goesOn⟩
  | cons line rest hypothesis =>
    obtain ⟨count, running⟩ := hypothesis goesOn
    refine ⟨?_, ended_reply running⟩
    rw [List.foldl_cons, count, chunks_reply running, List.length_cons]
    omega

theorem Shows.finish (shows : display.Shows start columns) (fault : Option Fault) :
    (display.finish fault).Shows start columns :=
  ⟨shows.width, Terminal.becomes_shutDown shows.becomes, shows.shown⟩

theorem Shows.framed (shows : display.Shows start columns) :
    display.framed.Shows start columns := by
  refine ⟨shows.width, shows.becomes, List.forall_mem_cons.mpr ⟨?_, shows.shown⟩⟩
  exact ⟨display.terminal.screen, shows.becomes, by rw [shows.width]⟩

theorem Shows.typeLines (shows : display.Shows start columns) (lines : List String) :
    (display.typeLines lines).Shows start columns := by
  have typed : start.Becomes (display.terminal.typeLines lines).1.screen :=
    Terminal.becomes_press shows.becomes _
  unfold FramedScreen.typeLines
  generalize display.terminal.typeLines lines = result at typed
  obtain ⟨after, ending⟩ := result
  have left : Shows start columns { display with terminal := after } :=
    ⟨shows.width, typed, shows.shown⟩
  cases ending with
  | none =>
    simp only
    split
    · exact left.finish none
    · exact left.framed
  | some fault => exact left.finish (some fault)

theorem Shows.reply (shows : display.Shows start columns) (line : Option String) :
    (display.reply line).Shows start columns := by
  unfold FramedScreen.reply take
  split
  · exact shows
  · split
    · exact shows.finish none
    · exact shows.typeLines _

/-- What a framed screen shows while it takes lines. -/
theorem Shows.foldl_reply (shows : display.Shows start columns) (lines : List String) :
    (lines.foldl (fun display line => display.reply (some line)) display).Shows start columns := by
  induction lines generalizing display with
  | nil => exact shows
  | cons line rest hypothesis => exact hypothesis (shows.reply (some line))

theorem becomes_enter (becomes : start.Becomes terminal.screen) (program : List String) :
    start.Becomes (enter program terminal).1.screen := by
  induction program generalizing terminal with
  | nil => exact becomes
  | cons line rest hypothesis =>
    have started : start.Becomes terminal.withTask.screen := becomes
    have entered : start.Becomes (terminal.executeLine line).screen :=
      Terminal.becomes_work started _ _ _
    rw [enter]
    split
    · exact entered
    · exact hypothesis entered

/-- A framed screen that is begun has handled a new screen, and has shown it once if it goes on. -/
theorem shows_new {setup : Setup} {program : List String}
    (begun : FramedScreen.new setup program = .ok display) :
    ∃ start, Screen.new setup false = .ok start ∧ display.Shows start setup.columns ∧
      (display.ended = none → display.chunks.length = 1) := by
  unfold FramedScreen.new at begun
  cases made : Screen.new setup false with
  | error fault =>
    rw [made] at begun
    cases begun
  | ok start =>
    rw [made] at begun
    have readied : start.Becomes (Terminal.ofScreen start).setUp.1.screen :=
      Terminal.becomes_setUp (.refl start)
    have entered : start.Becomes
        ((Terminal.ofScreen start).setUp.andThen (enter program)).1.screen := by
      generalize (Terminal.ofScreen start).setUp = result at readied
      obtain ⟨after, _ | fault⟩ := result
      · exact becomes_enter readied program
      · exact readied
    have noChunks : ∀ chunk ∈ ([] : List String),
        ∃ screen, start.Becomes screen ∧ chunk = Screen.bordered setup.columns screen.frame :=
      fun _ member => absurd member List.not_mem_nil
    simp only [Except.map] at begun
    split at begun
    · next after fault shape =>
      rw [shape] at entered
      cases begun
      exact ⟨start, rfl, ⟨rfl, entered, noChunks⟩, fun goesOn => by cases goesOn⟩
    · next after shape =>
      rw [shape] at entered
      cases begun
      have looping : Shows start setup.columns ⟨setup.columns, after.startLoop, [], none⟩ :=
        ⟨rfl, Terminal.becomes_startLoop entered, noChunks⟩
      exact ⟨start, rfl, looping.typeLines _, chunks_typeLines⟩

end Shows

end FramedScreen

/-! ### Whole dialogues -/

namespace Dialogue

variable {display : FramedScreen} {lines : List String} {setup : Setup} {program : List String}

/-- A dialogue on a framed screen stays on it. -/
theorem hold_framed (lines : List String) (display : FramedScreen) :
    (Dialogue.framed display).hold lines =
      .framed (lines.foldl (fun display line => display.reply (some line)) display) := by
  induction lines generalizing display with
  | nil => rfl
  | cons line rest hypothesis => exact hypothesis (display.reply (some line))

/-- The end of the input shows nothing. -/
theorem chunks_reply_none (display : FramedScreen) :
    ((Dialogue.framed display).reply none).chunks = (Dialogue.framed display).chunks := by
  show (display.reply none).chunks = display.chunks
  unfold FramedScreen.reply
  split <;> rfl

/-- **Every frame is a rectangle.** On a screen with a row and a column, whose cursor glyph has no
line feed, a dialogue of any lines about any program shows nothing but frames of two more rows and
two more columns than the screen has, each row ended by a line feed. While the dialogue goes on it
shows one frame before each line that it reads, and the end of the input shows none. -/
theorem frames_rectangular (tall : 1 ≤ setup.rows) (wide : 1 ≤ setup.columns)
    (glyph : '\n' ∉ setup.cursorGlyph.toList)
    (begun : FramedScreen.new setup program = .ok display) (lines : List String) :
    let dialogue := (Dialogue.framed display).hold lines
    (∀ chunk ∈ dialogue.chunks,
        Screen.IsRectangle (setup.rows.toNat + 2) (setup.columns.toNat + 2) chunk) ∧
      (dialogue.reply none).chunks = dialogue.chunks ∧
      (dialogue.ended = none → dialogue.chunks.length = lines.length + 1) := by
  obtain ⟨start, made, shows, first⟩ := FramedScreen.shows_new begun
  -- The size gives the number of lines, and plainness that no line is broken.
  have kept : ∀ screen, start.Becomes screen →
      screen.Framed setup.rows.toNat setup.columns.toNat ∧ screen.Plain := by
    intro screen becomes
    exact ⟨becomes.preserves Screen.framed_handled (Screen.framed_new made tall wide),
      becomes.preserves Screen.plain_handled (Screen.plain_new glyph made)⟩
  have held := shows.foldl_reply lines
  rw [hold_framed]
  refine ⟨fun chunk member => ?_, chunks_reply_none _, fun goesOn => ?_⟩
  · obtain ⟨screen, becomes, rfl⟩ := held.shown chunk member
    obtain ⟨framed, plain⟩ := kept screen becomes
    rw [← framed.frame_length]
    exact Screen.isRectangle_bordered (by omega) plain.frame
  · obtain ⟨count, running⟩ := FramedScreen.chunks_foldl_reply goesOn
    rw [first running, Nat.add_comm] at count
    exact count

/-- On two rows of three places the second mark of a cursor glyph is cut off; an empty line is
typed. -/
theorem frames_rectangular_narrow :
    let setup : Setup := ⟨2, 3, "]", "▮▮"⟩
    ∃ display, FramedScreen.new setup [] = .ok display ∧
      1 ≤ setup.rows ∧ 1 ≤ setup.columns ∧ '\n' ∉ setup.cursorGlyph.toList ∧
      let dialogue := (Dialogue.framed display).hold ["\n"]
      (∀ chunk ∈ dialogue.chunks, Screen.IsRectangle 4 5 chunk) ∧
      dialogue.chunks = ["+---+\n|]  |\n|] ▮|\n+---+\n", "+---+\n|   |\n|] ▮|\n+---+\n"] := by
  intro setup
  have tall : 1 ≤ setup.rows := by decide
  have wide : 1 ≤ setup.columns := by decide
  have glyph : '\n' ∉ setup.cursorGlyph.toList := by decide
  obtain ⟨display, begun⟩ : ∃ display, FramedScreen.new setup [] = .ok display := ⟨_, rfl⟩
  have shown : (FramedScreen.new setup []).toOption.map (fun display =>
      ((Dialogue.framed display).hold ["\n"]).chunks) =
      some ["+---+\n|]  |\n|] ▮|\n+---+\n", "+---+\n|   |\n|] ▮|\n+---+\n"] := by
    decide +kernel
  rw [begun] at shown
  obtain ⟨rectangles, -⟩ := frames_rectangular tall wide glyph begun ["\n"]
  exact ⟨display, begun, tall, wide, glyph, rectangles, Option.some.inj shown⟩

end Dialogue

end LineBasic
