/-
**A line that is typed looks like one that is printed.**

While a line is typed the grid stays as it is, wherever the cursor stands. The key that ends the
line echoes it: its characters are put on the grid and a row is begun. No key types a line feed,
so this comes to the same strokes as printing the line, and a prompt with the line that answers it
looks as if both had been printed at once.

* `lineFeed_notMem_capital` — no printable character has a line feed in its capital form;
* `echo_eq_write` — a line without line feeds is echoed as it is written;
* `fits_drawing` — strokes fit on every grid with a row and a column, wherever the cursor stands;
* `pressAll_echoes` — keys up to an Enter leave the grid that printing the line leaves;
* `typed_as_printed` — a typed line, and a prompt with its answer, beside a printed one.
-/

import LineBasic.Proofs.Delivery
import LineBasic.Proofs.Size

namespace LineBasic

/-! ### No key types a line feed -/

namespace Text

theorem eq_ten_of_ofNat_eq_lineFeed {n : Nat} (same : Char.ofNat n = '\n') : n = 10 := by
  have place : (Char.ofNat n).toNat = 10 := congrArg Char.toNat same
  rw [Char.toNat_ofNat] at place
  split at place
  · exact place
  · cases place

/-- **No printable character has a line feed in its capital form.** -/
theorem lineFeed_notMem_capital {c : Char} (printable : isPrintable c = true) :
    '\n' ∉ capital c := by
  have runs : ∀ run ∈ capitalRuns, 10 < (run.first : Int) + run.shift := by decide +kernel
  have forms : ∀ form ∈ capitalForms, 10 ∉ form.2 := by decide +kernel
  unfold capital
  split
  · next run found =>
    have above := runs run (List.mem_of_find?_eq_some found)
    have inside := List.find?_some found
    simp only [Bool.and_eq_true, decide_eq_true_eq] at inside
    intro member
    have place := eq_ten_of_ofNat_eq_lineFeed (List.mem_singleton.mp member).symm
    omega
  · split
    · next head tail found =>
      intro member
      obtain ⟨n, listed, same⟩ := List.mem_map.mp member
      have absent := forms _ (List.mem_of_find?_eq_some found)
      rw [eq_ten_of_ofNat_eq_lineFeed same] at listed
      exact absent listed
    · intro member
      rw [← List.mem_singleton.mp member] at printable
      revert printable
      decide +kernel

end Text

theorem Key.lineFeed_notMem_edit {line : List Char} (plain : '\n' ∉ line) (key : Key) :
    '\n' ∉ key.edit line := by
  cases key with
  | enter => exact plain
  | backspace => exact fun member => plain (List.mem_of_mem_dropLast member)
  | character c =>
    show '\n' ∉ if Text.isPrintable c = true then line ++ Text.capital c else line
    split
    · next printable =>
      rw [List.mem_append]
      exact not_or_intro plain (Text.lineFeed_notMem_capital printable)
    · exact plain
  | other name => exact plain

/-- A line that keys have typed has no line feed. -/
theorem Key.lineFeed_notMem_typed (keys : List Key) {line : List Char} (plain : '\n' ∉ line) :
    '\n' ∉ keys.foldl Key.edit line := by
  induction keys generalizing line with
  | nil => exact plain
  | cons key rest hypothesis => exact hypothesis (key.lineFeed_notMem_edit plain)

/-! ### Strokes wherever the cursor stands -/

namespace Grid

variable {grid : Grid}

/-- **A line without line feeds is echoed as it is written.** -/
theorem echo_eq_write {line : List Char} (plain : '\n' ∉ line) (grid : Grid) :
    (grid.putAll (line.map Cell.ofChar)).andThen newline = grid.write (line ++ ['\n']) := by
  have strokes : (line.map Cell.ofChar).map Stroke.put = line.map Stroke.ofChar := by
    rw [List.map_map]
    refine List.map_congr_left fun c member => ?_
    have other : c ≠ '\n' := fun same => plain (same ▸ member)
    exact (if_neg other).symm
  rw [putAll_eq_draw, write_eq_draw, List.map_append, strokes]
  rfl

theorem settle_beside (grid : Grid) :
    grid.settle.1.x = grid.x ∧ grid.settle.1.width = grid.width := by
  unfold settle scroll
  split
  · split <;> exact ⟨rfl, rfl⟩
  · exact ⟨rfl, rfl⟩

/-- A cell fits on a grid with a row and a column, even where the cursor stands below the rows. -/
theorem fits_put_below (wide : 0 < grid.width) (tall : 0 < grid.height) (cell : Cell) :
    Fits (grid.put cell) := by
  by_cases full : grid.width ≤ grid.x
  · have fits : Fits grid.newline := fits_settle wide tall
    have start := x_newline grid
    have wraps : grid.wrap = grid.newline := if_pos full
    unfold put
    rw [wraps]
    generalize grid.newline = begun at fits start
    obtain ⟨after, fault⟩ := begun
    obtain ⟨rfl, roomy⟩ := fits
    have stays : after.wrap = (after, none) := by
      unfold wrap
      rw [show after.x = 0 from start, if_neg (Nat.not_le_of_lt roomy.wide)]
    have puts := fits_put roomy cell
    unfold put at puts
    rwa [stays] at puts
  · have fits := fits_settle wide tall
    obtain ⟨column, width⟩ := grid.settle_beside
    unfold put wrap
    rw [if_neg full, Attempt.andThen_none]
    generalize grid.settle = settled at fits column width
    obtain ⟨after, fault⟩ := settled
    obtain ⟨rfl, roomy⟩ := fits
    simp only at column width
    rw [Attempt.andThen_none]
    have free : after.x < after.width := by
      rw [column, width]
      exact Nat.lt_of_not_le full
    exact fits_store roomy free cell

/-- **Strokes fit on every grid with a row and a column**, wherever the cursor stands. -/
theorem fits_drawing (wide : 0 < grid.width) (tall : 0 < grid.height) {strokes : List Stroke}
    (some : strokes ≠ []) : Fits (grid.draw strokes) := by
  obtain ⟨first, rest, rfl⟩ := List.exists_cons_of_ne_nil some
  refine Fits.andThen ?_ fun after roomy => fits_draw roomy rest
  cases first with
  | put cell => exact fits_put_below wide tall cell
  | newline => exact fits_settle wide tall
  | scroll => exact fits_scroll wide tall

end Grid

/-! ### Keys and the grid -/

namespace Screen

variable {screen : Screen} {keys : List Key}

/-- What is written on a screen is written on its grid. -/
theorem grid_writing (write : Grid → Attempt Grid GridFault) (screen : Screen) :
    ((screen.writing write).1.grid, (screen.writing write).2) = write screen.grid := by
  unfold writing onGrid
  rcases write screen.grid with ⟨grid, _ | reason⟩
  · simp
  · rfl

/-- A screen on which a line was edited: nothing else has changed but what was shown. -/
structure Edited (screen : Screen) (line : List Char) (after : Screen) : Prop where
  grid : after.grid = screen.grid
  pending : after.pending = screen.pending
  reading : after.reading = true
  typed : after.typed = line

theorem edited_render (reading : screen.reading = true) (line : List Char) :
    screen.Edited line ({ screen with typed := line } : Screen).render := by
  unfold render
  split <;> exact ⟨rfl, rfl, reading, rfl⟩

/-- A key that does not end the line edits it. -/
theorem press_edits (reading : screen.reading = true) {key : Key} (goesOn : key ≠ .enter) :
    ∃ after, screen.press key = (after, .ok none) ∧
      screen.Edited (key.edit screen.typed) after := by
  have stays : screen.Edited screen.typed screen := ⟨rfl, rfl, reading, rfl⟩
  unfold press
  split
  · next idle => exact absurd (idle.symm.trans reading) Bool.false_ne_true
  · exact absurd rfl goesOn
  · refine ⟨_, rfl, ?_⟩
    split
    · next empty =>
      rw [empty] at stays ⊢
      exact stays
    · exact edited_render reading _
  · next c _ =>
    refine ⟨_, rfl, ?_⟩
    by_cases printable : Text.isPrintable c = true
    · simp only [Key.edit, if_pos printable]
      exact edited_render reading _
    · simp only [Key.edit, if_neg printable]
      exact stays
  · exact ⟨screen, rfl, stays⟩

/-- **Keys without an Enter edit the line**, and those behind them go on from there. -/
theorem pressAll_edits (reading : screen.reading = true) (goesOn : Key.enter ∉ keys) :
    ∃ after : Screen, (∀ rest, screen.pressAll (keys ++ rest) = after.pressAll rest) ∧
      screen.Edited (keys.foldl Key.edit screen.typed) after := by
  induction keys generalizing screen with
  | nil => exact ⟨screen, fun rest => rfl, rfl, rfl, reading, rfl⟩
  | cons key later hypothesis =>
    obtain ⟨notFirst, notLater⟩ := List.ne_and_not_mem_of_not_mem_cons goesOn
    obtain ⟨middle, pressed, edited⟩ := press_edits reading notFirst.symm
    obtain ⟨after, pressed', edited'⟩ := hypothesis edited.reading notLater
    refine ⟨after, fun rest => ?_, edited'.grid.trans edited.grid,
      edited'.pending.trans edited.pending, edited'.reading, ?_⟩
    · rw [List.cons_append, pressAll, pressed]
      exact pressed' rest
    · rw [edited'.typed, edited.typed, List.foldl_cons]

/-- The key that ends the line echoes it as printing does. -/
theorem pressEnter_echoes (wide : 0 < screen.grid.width) (tall : 0 < screen.grid.height)
    {ticket : Nat} (reading : screen.reading = true) (pending : screen.pending = some ticket)
    (plain : '\n' ∉ screen.typed) :
    ∃ echoed, screen.press .enter = (echoed, .ok (some ⟨ticket, String.ofList screen.typed⟩)) ∧
      (echoed.grid, none) = screen.grid.write (screen.typed ++ ['\n']) := by
  let left : Screen := { screen with typed := [], pending := none, reading := false }
  let echo := fun grid : Grid =>
    (grid.putAll (screen.typed.map Cell.ofChar)).andThen Grid.newline
  have echoes : echo screen.grid = screen.grid.write (screen.typed ++ ['\n']) :=
    Grid.echo_eq_write plain screen.grid
  have fits : Grid.Fits (screen.grid.write (screen.typed ++ ['\n'])) := by
    rw [Grid.write_eq_draw]
    exact Grid.fits_drawing wide tall (by simp)
  have written : ((left.writing echo).1.grid, (left.writing echo).2) = echo screen.grid :=
    left.grid_writing echo
  rw [echoes] at written
  have unbroken : (left.writing echo).2 = none := (congrArg Prod.snd written).trans fits.unbroken
  refine ⟨(left.writing echo).1, ?_, ?_⟩
  · have comes : left.writing echo = ((left.writing echo).1, none) := Prod.ext rfl unbroken
    simp only [press, reading, pressEnter, pending, Option.map_some]
    rw [comes]
  · rw [← unbroken]
    exact written

/-- **Keys up to an Enter leave the grid that printing the line leaves.** -/
theorem pressAll_echoes (wide : 0 < screen.grid.width) (tall : 0 < screen.grid.height)
    {ticket : Nat} (reading : screen.reading = true) (pending : screen.pending = some ticket)
    (plain : '\n' ∉ screen.typed) (goesOn : Key.enter ∉ keys) :
    ∃ echoed, screen.pressAll (keys ++ [.enter]) =
        (echoed, .ok (some ⟨ticket, String.ofList (keys.foldl Key.edit screen.typed)⟩)) ∧
      (echoed.grid, none) = screen.grid.write (keys.foldl Key.edit screen.typed ++ ['\n']) := by
  obtain ⟨middle, edits, edited⟩ := pressAll_edits reading goesOn
  have plain' := Key.lineFeed_notMem_typed keys plain
  rw [← edited.typed] at plain' ⊢
  rw [← edited.grid] at wide tall ⊢
  obtain ⟨echoed, pressed, written⟩ :=
    pressEnter_echoes wide tall edited.reading (edited.pending.trans pending) plain'
  refine ⟨echoed, ?_, written⟩
  rw [edits, pressAll, pressed]

/-- A text is printed to its end on a screen with a row and a column, as it is written on the
grid. -/
theorem print_drawn (wide : 0 < screen.grid.width) (tall : 0 < screen.grid.height) {text : String}
    (some : text ≠ "") :
    ∃ printed, screen.print text = (printed, none) ∧ printed.grid.Roomy ∧
      (printed.grid, none) = screen.grid.write text.toList := by
  have strokes : text.toList.map Grid.Stroke.ofChar ≠ [] := by simpa using some
  have fits := Grid.fits_drawing wide tall strokes
  have written := screen.grid_print text
  rw [← Grid.write_eq_draw, ← written] at fits
  have unbroken : (screen.print text).2 = none := fits.unbroken
  refine ⟨(screen.print text).1, Prod.ext rfl unbroken, fits.roomy, ?_⟩
  rw [← written, unbroken]

/-- A read that is opened where none waits has printed its prompt. -/
theorem openRead_prompted (wide : 0 < screen.grid.width) (tall : 0 < screen.grid.height)
    (idle : screen.pending = none) (prompt : String) :
    ∃ opened ticket, screen.openRead prompt = (opened, .ok ticket) ∧
      opened.reading = true ∧ opened.pending = some ticket ∧ opened.typed = [] ∧
      (0 < opened.grid.width ∧ 0 < opened.grid.height) ∧
      (opened.grid, none) = screen.grid.write prompt.toList := by
  obtain ⟨printed, prints, size, written⟩ : ∃ printed,
      (if prompt = "" then (screen, none) else screen.print prompt) = (printed, none) ∧
        (0 < printed.grid.width ∧ 0 < printed.grid.height) ∧
        (printed.grid, none) = screen.grid.write prompt.toList := by
    split
    · next empty => exact ⟨screen, rfl, ⟨wide, tall⟩, by rw [empty]; rfl⟩
    · next some =>
      obtain ⟨printed, prints, roomy, written⟩ := print_drawn wide tall some
      exact ⟨printed, prints, ⟨roomy.wide, roomy.tall⟩, written⟩
  let waiting : Screen := { printed with
    pending := some printed.tickets, tickets := printed.tickets + 1, reading := true }
  have opened : waiting.Edited [] ({ waiting with typed := [] } : Screen).render :=
    edited_render rfl []
  refine ⟨_, printed.tickets, ?_, opened.reading, opened.pending, opened.typed, ?_, ?_⟩
  · simp only [openRead, idle, Option.isSome_none, Bool.false_eq_true, if_false, prints]
    rfl
  · rw [opened.grid]
    exact size
  · rw [opened.grid]
    exact written

/-- **A typed line looks exactly like a printed one.** While a read waits for a line that keys have
begun, more keys leave the grid and its cursor as they are, and the Enter behind them hands the
line over and leaves the grid and the cursor that printing this line leaves. So a prompt and the
line that answers it look as if they had been printed at once. -/
theorem typed_as_printed (wide : 1 ≤ screen.grid.width) (tall : 1 ≤ screen.grid.height)
    (goesOn : Key.enter ∉ keys) :
    (∀ (ticket : Nat) (before : List Key), screen.reading = true → screen.pending = some ticket →
      screen.typed = before.foldl Key.edit [] →
        (screen.pressAll keys).1.grid = screen.grid ∧
        ∃ text echoed printed,
          screen.pressAll (keys ++ [.enter]) = (echoed, .ok (some ⟨ticket, text⟩)) ∧
          text.toList = (before ++ keys).foldl Key.edit [] ∧
          screen.printLine text = (printed, none) ∧ echoed.grid = printed.grid) ∧
    (screen.pending = none → ∀ prompt, ∃ opened ticket text echoed printed,
      screen.openRead prompt = (opened, .ok ticket) ∧
      opened.pressAll (keys ++ [.enter]) = (echoed, .ok (some ⟨ticket, text⟩)) ∧
      text.toList = keys.foldl Key.edit [] ∧
      screen.print (prompt ++ text ++ "\n") = (printed, none) ∧ echoed.grid = printed.grid) := by
  constructor
  · intro ticket before reading pending typed
    obtain ⟨middle, edits, edited⟩ := pressAll_edits reading goesOn
    have plain : '\n' ∉ screen.typed :=
      typed ▸ Key.lineFeed_notMem_typed before List.not_mem_nil
    obtain ⟨echoed, pressed, written⟩ :=
      pressAll_echoes wide tall reading pending plain goesOn
    have some : String.ofList (keys.foldl Key.edit screen.typed) ++ "\n" ≠ "" := by simp
    obtain ⟨printed, prints, -, written'⟩ := print_drawn wide tall some
    have unended := edits []
    rw [List.append_nil] at unended
    refine ⟨by rw [unended]; exact edited.grid, _, echoed, printed, pressed, ?_, prints, ?_⟩
    · rw [String.toList_ofList, List.foldl_append, typed]
    · rw [String.toList_append, String.toList_ofList] at written'
      exact congrArg Prod.fst (written.trans written'.symm)
  · intro idle prompt
    obtain ⟨opened, ticket, opens, reading, pending, typed, ⟨wide', tall'⟩, prompted⟩ :=
      openRead_prompted wide tall idle prompt
    have plain : '\n' ∉ opened.typed := typed ▸ List.not_mem_nil
    obtain ⟨echoed, pressed, written⟩ :=
      pressAll_echoes wide' tall' reading pending plain goesOn
    rw [typed] at pressed written
    have some : prompt ++ String.ofList (keys.foldl Key.edit []) ++ "\n" ≠ "" := by simp
    obtain ⟨printed, prints, -, written'⟩ := print_drawn wide tall some
    refine ⟨opened, ticket, _, echoed, printed, opens, pressed, String.toList_ofList, prints, ?_⟩
    have whole : screen.grid.write (prompt.toList ++ (keys.foldl Key.edit [] ++ ['\n'])) =
        opened.grid.write (keys.foldl Key.edit [] ++ ['\n']) := by
      rw [Grid.write_append, ← prompted, Attempt.andThen_none]
    rw [String.toList_append, String.toList_append, String.toList_ofList, List.append_assoc]
      at written'
    exact congrArg Prod.fst ((written.trans whole.symm).trans written'.symm)

/-- On two rows of three places the answer to a prompt wraps and scrolls; a letter is taken back,
and one has two letters as its capital form. -/
theorem typed_as_printed_scrolls :
    let keys : List Key :=
      [.character 'a', .backspace, .character 'ß', .other "Left", .character 'b']
    ∃ screen opened echoed, Screen.new ⟨2, 3, "]", "_"⟩ false = .ok screen ∧
      1 ≤ screen.grid.width ∧ 1 ≤ screen.grid.height ∧ Key.enter ∉ keys ∧
      screen.openRead "? " = (opened, .ok 0) ∧ (opened.pressAll keys).1.grid = opened.grid ∧
      opened.pressAll (keys ++ [.enter]) = (echoed, .ok (some ⟨0, "SSB"⟩)) ∧
      echoed.grid =
        ⟨3, [[some 'S', some 'B', some ' '], [some ' ', some ' ', some ' ']], 0, 1⟩ := by
  intro keys
  have goesOn : Key.enter ∉ keys := by decide
  have typed : keys.foldl Key.edit [] = ['S', 'S', 'B'] := by decide +kernel
  let screen : Screen := ⟨.blank 2 3, "]", "_", [], false, none, 0, false, []⟩
  let waiting : Screen :=
    ⟨⟨3, [[some '?', some ' ', some ' '], [some ' ', some ' ', some ' ']], 2, 0⟩,
      "]", "_", [], true, some 0, 1, false, []⟩
  have opens : screen.openRead "? " = (waiting, .ok 0) := by decide +kernel
  have wide : 1 ≤ screen.grid.width := by decide
  have tall : 1 ≤ screen.grid.height := by decide
  have wide' : 1 ≤ waiting.grid.width := by decide
  have tall' : 1 ≤ waiting.grid.height := by decide
  obtain ⟨-, prompted⟩ := typed_as_printed wide tall goesOn
  obtain ⟨begun, -⟩ := typed_as_printed wide' tall' goesOn
  obtain ⟨opened, ticket, text, echoed, printed, opens', pressed, line, prints, same⟩ :=
    prompted rfl "? "
  obtain ⟨still, -⟩ := begun 0 [] rfl rfl rfl
  rw [opens] at opens'
  cases opens'
  have said : text = "SSB" := String.toList_inj.mp (line.trans typed)
  rw [said] at pressed prints
  refine ⟨screen, waiting, echoed, rfl, wide, tall, goesOn, opens, still, pressed, ?_⟩
  have shown : (screen.print ("? " ++ "SSB" ++ "\n")).1.grid =
      ⟨3, [[some 'S', some 'B', some ' '], [some ' ', some ' ', some ' ']], 0, 1⟩ := by
    decide +kernel
  rw [prints] at shown
  exact same.trans shown

end Screen

end LineBasic
