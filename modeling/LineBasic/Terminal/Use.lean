/-
**Using a terminal.**

What is done to a terminal from outside: tasks are started, keys are pressed, and the terminal is
set up, reset and shut down. Setting up connects the session to the screen and shows the banner;
shutting down leaves the session as it is.

* `shutDown_ready` — a terminal that was shut down has to be set up again.
-/

import LineBasic.Terminal.Basic

namespace LineBasic

/-- The lines that greet the user. -/
def banner : List String :=
  ["", "APPLE II", "APPLESOFT BASIC", "", "TYPE \"LIST\" TO SEE PROGRAM",
    "TYPE \"RUN\" TO EXECUTE", "TYPE \"NEW\" TO CLEAR", ""]

namespace Terminal

/-! ### Setting up and shutting down -/

/-- Print lines on the screen, up to the first fault. -/
def printLines : List String → Terminal → Attempt Terminal Fault
  | [], terminal => (terminal, none)
  | line :: rest, terminal =>
    (terminal.onScreen (Screen.printLine line)).andThen (printLines rest)

/-- Show the banner. -/
def showBanner : Terminal → Attempt Terminal Fault :=
  printLines banner

/-- Connect the session to the screen and show the banner. -/
def setUp (terminal : Terminal) : Attempt Terminal Fault :=
  (showBanner { terminal with desk := { terminal.desk with wired := true } }).andThen
    fun terminal => ({ terminal with ready := true }, none)

/-- Let the prompt loop end after its command. -/
def stop (terminal : Terminal) : Terminal :=
  { terminal with looping := false }

/-- Clear the session and the screen, and show the banner. -/
def reset (terminal : Terminal) : Attempt Terminal Fault :=
  ((atDesk (fun desk => desk.deliver (.line ""))
    { terminal with session := terminal.session.cleared }).andThen
      fun terminal => (terminal.setScreen terminal.screen.clear, none)).andThen showBanner

/-- The reader whose read the screen waits for. -/
def awaited (terminal : Terminal) : Option Reader :=
  terminal.readers.find? fun reader => terminal.screen.pending == some reader.ticket

/-- Leave the screen behind; its reader is sent away. -/
def abandonScreen (terminal : Terminal) : Terminal :=
  let left := terminal.setScreen terminal.screen.abandoned
  match terminal.awaited with
  | some reader => left.dismiss reader
  | none => left

/-- Stop, and leave the screen behind. -/
def shutDown (terminal : Terminal) : Terminal :=
  abandonScreen { terminal.stop with ready := false }

/-! ### Starting tasks -/

/-- The terminal with one more task. -/
def withTask (terminal : Terminal) : Terminal :=
  { terminal with tasks := terminal.tasks + 1 }

/-- Start reading a line. -/
def readLine (prompt : String) (terminal : Terminal) : Terminal :=
  terminal.withTask.await terminal.tasks .handOver (Screen.openRead prompt)

/-- Start reading a command. -/
def readCommand (terminal : Terminal) : Terminal :=
  terminal.withTask.await terminal.tasks .handOver Screen.openCommand

/-- Start executing a line. -/
def executeLine (line : String) (terminal : Terminal) : Terminal :=
  terminal.withTask.work terminal.tasks .single (.ofLine line)

/-- Start the prompt loop; the terminal is set up if it was not. -/
def startLoop (terminal : Terminal) : Terminal :=
  match if terminal.ready then (terminal.withTask, none) else terminal.withTask.setUp with
  | (readied, none) => { readied with looping := true }.prompt terminal.tasks
  | (readied, some fault) => readied.finish terminal.tasks (.broken fault)

/-! ### Keys -/

/-- Press keys; the line that this completes reaches its reader. -/
def press (keys : List Key) (terminal : Terminal) : Attempt Terminal Fault :=
  match terminal.screen.pressAll keys with
  | (screen, .error fault) => (terminal.setScreen screen, some (.grid fault))
  | (screen, .ok none) => (terminal.setScreen screen, none)
  | (screen, .ok (some delivery)) => ((terminal.setScreen screen).receive delivery, none)

/-- Type lines, all before anyone gets to react. -/
def typeLines (lines : List String) : Terminal → Attempt Terminal Fault :=
  press (lines.flatMap Screen.lineKeys)

/-! ### Laws -/

/-- Ending a task leaves the terminal as ready as it was. -/
theorem ready_conclude_cancelled (task : Nat) (role : Role) (terminal : Terminal) :
    (terminal.conclude task role (some .cancelled)).ready = terminal.ready := by
  cases role <;> rfl

/-- Prompting leaves the terminal as ready as it was. -/
theorem ready_prompt (task : Nat) (terminal : Terminal) :
    (terminal.prompt task).ready = terminal.ready := by
  unfold prompt await
  split
  · split <;> rfl
  · rfl

/-- Sending a reader away leaves the terminal as ready as it was. -/
theorem ready_dismiss (reader : Reader) (terminal : Terminal) :
    (terminal.dismiss reader).ready = terminal.ready := by
  unfold dismiss
  cases reader.purpose with
  | handOver => rfl
  | command => rfl
  | answer role activity => exact ready_conclude_cancelled reader.task role _

/-- A terminal that was shut down has to be set up again. -/
theorem shutDown_ready (terminal : Terminal) : terminal.shutDown.ready = false := by
  unfold shutDown abandonScreen
  split
  · rw [ready_dismiss]
    rfl
  · rfl

end Terminal

end LineBasic
