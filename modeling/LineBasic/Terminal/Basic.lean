/-
**The terminal: a screen, a session and those who read.**

A terminal runs tasks. A task reads a line, executes a line, or is the prompt loop, which reads
commands and executes them one after the other. A task rests only while it reads; it keeps its
place as a reader with the ticket of its read and what it will do with the line. A task ends with
a value, with a fault, or cancelled.

The prompt loop survives the faults of its commands: it reports them and prompts again. It ends
after a command when it has been told to stop, and it takes a cancellation at its prompt as such
an end.

* `cancel_ended` — cancelling a task that does not read changes nothing.
-/

import LineBasic.Terminal.Desk

namespace LineBasic

/-- For whom a line is executed: for itself, or as a command of the prompt loop. -/
inductive Role where
  | single
  | command (line : String)

/-- What a reader does with its line: end with it, take it as a command, or answer a question. -/
inductive Purpose where
  | handOver
  | command
  | answer (role : Role) (activity : Activity)

/-- A task that rests until its read is given a line. -/
structure Reader where
  task : Nat
  ticket : Nat
  purpose : Purpose

/-- How a task has ended. -/
inductive Ending where
  | value (line : Option String)
  | broken (fault : Fault)
  | cancelled
  deriving DecidableEq

/-- A screen with its session, its prompt loop and its tasks; the latest endings come first. -/
structure Terminal where
  desk : Desk
  session : Session
  ready : Bool
  looping : Bool
  readers : List Reader
  tasks : Nat
  endings : List (Nat × Ending)

namespace Terminal

/-- A terminal that has not been started. -/
def ofScreen (screen : Screen) : Terminal :=
  ⟨⟨screen, false, []⟩, .fresh, false, false, [], 0, []⟩

/-- The screen of the terminal. -/
def screen (terminal : Terminal) : Screen :=
  terminal.desk.screen

/-- Do something at the desk. -/
def atDesk (work : Desk → Attempt Desk Fault) (terminal : Terminal) : Attempt Terminal Fault :=
  let (desk, fault) := work terminal.desk
  ({ terminal with desk }, fault)

/-- Do something to the screen. -/
def onScreen (work : Screen → Attempt Screen GridFault) : Terminal → Attempt Terminal Fault :=
  atDesk (Desk.onScreen work)

/-- Change the screen. -/
def setScreen (screen : Screen) (terminal : Terminal) : Terminal :=
  { terminal with desk := { terminal.desk with screen } }

/-! ### Tasks -/

/-- The terminal after a task has ended. -/
def finish (task : Nat) (ending : Ending) (terminal : Terminal) : Terminal :=
  { terminal with endings := (task, ending) :: terminal.endings }

/-- The terminal with one more reader. -/
def rest (reader : Reader) (terminal : Terminal) : Terminal :=
  { terminal with readers := reader :: terminal.readers }

/-- A task reads a line, or ends if it may not. -/
def await (task : Nat) (purpose : Purpose) (read : Screen → Screen × Except Fault Nat)
    (terminal : Terminal) : Terminal :=
  match read terminal.screen with
  | (screen, .ok ticket) => (terminal.setScreen screen).rest ⟨task, ticket, purpose⟩
  | (screen, .error fault) => (terminal.setScreen screen).finish task (.broken fault)

/-- The prompt loop prompts, or ends if it has been told to stop. -/
def prompt (task : Nat) (terminal : Terminal) : Terminal :=
  if terminal.looping then terminal.await task .command Screen.openCommand
  else terminal.finish task (.value none)

/-- The words in which the prompt loop reports a fault. -/
def faultReport (fault : Fault) : String :=
  "ERROR: " ++ fault.message

/-- What follows when the line of a task has come to its end. -/
def conclude (task : Nat) (role : Role) (fault : Option Fault) (terminal : Terminal) : Terminal :=
  match role, fault with
  | _, some .cancelled => terminal.finish task .cancelled
  | .single, none => terminal.finish task (.value none)
  | .single, some fault => terminal.finish task (.broken fault)
  | .command _, none => terminal.prompt task
  | .command line, some fault =>
    let noted := { terminal with desk := terminal.desk.note (.commandBroken line) }
    match noted.onScreen (Screen.printLine (faultReport fault)) with
    | (terminal, none) => terminal.prompt task
    | (terminal, some fault) => terminal.finish task (.broken fault)

/-- The activity of a task is broken off. -/
def breakOff (task : Nat) (role : Role) (activity : Activity) (fault : Fault)
    (terminal : Terminal) : Terminal :=
  let (desk, session, _) := terminal.session.breakOff Desk.deliver terminal.desk activity fault
  { terminal with desk, session }.conclude task role (some fault)

/-- Go on with the activity of a task until it reads a line or ends. One that is given up after
`Session.patience` steps concludes the task as if it had ended. -/
def work (task : Nat) (role : Role) (activity : Activity) (terminal : Terminal) : Terminal :=
  match terminal.desk.perform Session.patience terminal.session activity with
  | (desk, session, .waiting question activity) =>
    let terminal := { terminal with desk, session }
    match terminal.screen.openRead question with
    | (screen, .ok ticket) => (terminal.setScreen screen).rest ⟨task, ticket, .answer role activity⟩
    | (screen, .error fault) => (terminal.setScreen screen).breakOff task role activity fault
  | (desk, session, .fault fault) => { terminal with desk, session }.conclude task role (some fault)
  | (desk, session, _) => { terminal with desk, session }.conclude task role none

/-- The terminal without a reader; if the screen still waits for it, it does not any more. -/
def remove (reader : Reader) (terminal : Terminal) : Terminal :=
  { terminal.setScreen (terminal.screen.release reader.ticket) with
    readers := terminal.readers.filter fun other => other.ticket != reader.ticket }

/-- A reader goes on with the line it was given. -/
def resume (reader : Reader) (line : String) (terminal : Terminal) : Terminal :=
  match reader.purpose with
  | .handOver => terminal.finish reader.task (.value (some line))
  | .command =>
    let noted := { terminal with desk := terminal.desk.note (.commandRead line) }
    noted.work reader.task (.command line) (.ofLine line)
  | .answer role activity =>
    let (session, activity) := terminal.session.answer activity line
    { terminal with session }.work reader.task role activity

/-- A line reaches the reader that holds its ticket. -/
def receive (delivery : Delivery) (terminal : Terminal) : Terminal :=
  match terminal.readers.find? fun reader => reader.ticket == delivery.ticket with
  | some reader => (terminal.remove reader).resume reader delivery.line
  | none => terminal

/-- A reader is sent away: its task is cancelled where it rests. -/
def dismiss (reader : Reader) (terminal : Terminal) : Terminal :=
  let left := terminal.remove reader
  match reader.purpose with
  | .handOver => left.finish reader.task .cancelled
  | .command => left.finish reader.task (if terminal.looping then .cancelled else .value none)
  | .answer role activity => left.breakOff reader.task role activity .cancelled

/-- Cancel a task, if it has not ended. -/
def cancel (task : Nat) (terminal : Terminal) : Terminal :=
  match terminal.readers.find? fun reader => reader.task == task with
  | some reader => terminal.dismiss reader
  | none => terminal

/-! ### Laws -/

/-- Cancelling a task that does not read changes nothing. -/
theorem cancel_ended {terminal : Terminal} {task : Nat}
    (ended : ∀ reader ∈ terminal.readers, reader.task ≠ task) :
    terminal.cancel task = terminal := by
  have : (terminal.readers.find? fun reader => reader.task == task) = none := by
    simpa using ended
  rw [cancel, this]

end Terminal

end LineBasic
