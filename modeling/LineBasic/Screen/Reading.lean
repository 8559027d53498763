/-
**Reading a line from the keys.**

At most one read waits for a line; it holds a ticket, by which the line finds it. While it waits
the keys edit the line: a character that prints adds its capital form, `Backspace` takes the last
character away, and `Enter` leaves the line on the grid and hands it over. Keys that come while no
read waits do nothing.

* `press_idle` — keys do nothing while no read waits;
* `openRead_refused` — a second read is refused, and changes nothing.
-/

import LineBasic.Screen.Basic
import LineBasic.Text.Capital
import LineBasic.Text.Printable

namespace LineBasic

open Text

/-- A key. -/
inductive Key where
  | enter
  | backspace
  | character (c : Char)
  | other (name : String)
  deriving DecidableEq

/-- The key with a name; a single character names its own key. -/
def Key.named (name : String) : Key :=
  if name = "Enter" then .enter
  else if name = "Backspace" then .backspace
  else
    match name.toList with
    | [c] => .character c
    | _ => .other name

/-- A line on its way to the read with a ticket. -/
structure Delivery where
  ticket : Nat
  line : String
  deriving DecidableEq

namespace Screen

/-! ### Reads -/

/-- Wait for a line: the prompt is printed, and a new line begins. -/
def openRead (prompt : String) (screen : Screen) : Screen × Except Fault Nat :=
  if screen.pending.isSome then (screen, .error .readPending)
  else
    match if prompt = "" then (screen, none) else screen.print prompt with
    | (screen, some fault) => (screen, .error (.grid fault))
    | (screen, none) =>
      (render { screen with
          pending := some screen.tickets, tickets := screen.tickets + 1, reading := true,
          typed := [] },
        .ok screen.tickets)

/-- Wait for a command: the prompt glyph is printed even when the read is refused. -/
def openCommand (screen : Screen) : Screen × Except Fault Nat :=
  match screen.print (screen.promptGlyph ++ " ") with
  | (screen, some fault) => (screen, .error (.grid fault))
  | (screen, none) => screen.openRead ""

/-- Give up a read, if it still waits. -/
def release (ticket : Nat) (screen : Screen) : Screen :=
  if screen.pending = some ticket then { screen with pending := none, reading := false }
  else screen

/-- The screen as it is left behind: blank, with nobody reading and nobody watching. -/
def abandoned (screen : Screen) : Screen :=
  { screen with
      grid := screen.grid.cleared, typed := [], pending := none, reading := false,
      watched := false }

/-! ### Keys -/

/-- Enter: the typed line stays on the grid, and is on its way to the read. -/
def pressEnter (screen : Screen) : Screen × Except GridFault (Option Delivery) :=
  let echo (grid : Grid) : Attempt Grid GridFault :=
    (grid.putAll (screen.typed.map Cell.ofChar)).andThen Grid.newline
  match { screen with typed := [], pending := none, reading := false }.writing echo with
  | (after, some fault) => (after, .error fault)
  | (after, none) =>
    (after, .ok (screen.pending.map fun ticket => ⟨ticket, String.ofList screen.typed⟩))

/-- Press a key; a line that this completes is delivered. -/
def press (key : Key) (screen : Screen) : Screen × Except GridFault (Option Delivery) :=
  match screen.reading, key with
  | false, _ => (screen, .ok none)
  | true, .enter => screen.pressEnter
  | true, .backspace =>
    (if screen.typed = [] then screen
      else render { screen with typed := screen.typed.dropLast }, .ok none)
  | true, .character c =>
    (if isPrintable c then render { screen with typed := screen.typed ++ capital c } else screen,
      .ok none)
  | true, .other _ => (screen, .ok none)

/-- Press keys in turn; once a line is delivered nobody waits for the rest of them. -/
def pressAll : List Key → Screen → Screen × Except GridFault (Option Delivery)
  | [], screen => (screen, .ok none)
  | key :: rest, screen =>
    match screen.press key with
    | (screen, .ok none) => screen.pressAll rest
    | ended => ended

/-- The keys that type a line. -/
def lineKeys (line : String) : List Key :=
  line.toList.map .character ++ [.enter]

/-! ### Laws -/

/-- Keys do nothing while no read waits. -/
theorem press_idle {screen : Screen} (idle : screen.reading = false) (key : Key) :
    screen.press key = (screen, .ok none) := by
  simp [press, idle]

/-- A second read is refused, and changes nothing. -/
theorem openRead_refused {screen : Screen} {ticket : Nat} (waits : screen.pending = some ticket)
    (prompt : String) : screen.openRead prompt = (screen, .error .readPending) := by
  simp [openRead, waits]

end Screen

end LineBasic
