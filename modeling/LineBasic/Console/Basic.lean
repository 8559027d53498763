/-
**The console: a session on plain text.**

A console reads lines and writes text. It works off what it was given to do, and then, if it
prompts, reads commands until the input ends. The end of the input at the prompt is the end of
the dialogue; at the question of a program it is a fault. A typed line counts without the mark at
its end and in capitals.

* `reply_none_ended` — at the end of the input every dialogue ends.
-/

import LineBasic.Console.Printout
import LineBasic.Session.Drive
import LineBasic.Terminal.Use
import LineBasic.Text.Lines

namespace LineBasic

/-- What a console waits for: a command, or the answer to a question; or how it has ended. -/
inductive Turn where
  | command
  | answer (activity : Activity) (rest : List Activity)
  | ended (fault : Option Fault)

/-- A session with its printout. -/
structure Console where
  printout : Printout
  session : Session
  clears : Bool
  prompting : Bool
  turn : Turn

namespace Console

/-- The prompt for a command. -/
def prompt : String :=
  "] "

/-- A line as the session gets it. -/
def typedLine (line : String) : String :=
  Text.capitals (String.ofList (Text.withoutLineEnd line.toList))

/-- The console as it waits or as it has ended. -/
def turnTo (turn : Turn) (console : Console) : Console :=
  { console with turn }

/-- Write a text. -/
def write (text : String) (console : Console) : Console :=
  { console with printout := console.printout.write text }

/-- Work off activities one after the other, up to a question or a fault; then prompt, or end. An
activity that is given up after `Session.patience` steps makes way for the next one as if it had
ended. -/
def work : List Activity → Console → Console
  | [], console =>
    if console.prompting then (console.write prompt).turnTo .command
    else console.turnTo (.ended none)
  | activity :: rest, console =>
    match console.session.drive (Printout.deliver console.clears) Session.patience console.printout
        activity with
    | (printout, session, .waiting question activity) =>
      (write question { console with printout, session }).turnTo (.answer activity rest)
    | (printout, session, .fault fault) =>
      { console with printout, session }.turnTo (.ended (some fault))
    | (printout, session, _) => work rest { console with printout, session }

/-- A console on which nothing has happened. -/
def fresh (clears prompting : Bool) : Console :=
  ⟨.empty, .fresh, clears, prompting, .ended none⟩

/-- A console that greets the user and prompts. -/
def interactive (clears : Bool) : Console :=
  work [] (banner.foldl (fun console line => console.write (line ++ "\n")) (fresh clears true))

/-- A console that reads a program and runs it. -/
def running (clears : Bool) (program : List String) : Console :=
  work (program.map .ofLine ++ [.ofRun]) (fresh clears false)

/-- Take a command, or the end of the input in its place. -/
def takeCommand (line : Option String) (console : Console) : Console :=
  match line with
  | none => (console.write "\n").turnTo (.ended none)
  | some line => console.work [.ofLine (typedLine line)]

/-- Break an activity off because the input has ended. -/
def breakOff (activity : Activity) (console : Console) : Console :=
  let (printout, session, _) :=
    console.session.breakOff (Printout.deliver console.clears) console.printout activity
      (.endOfInput "")
  { console with printout, session }.turnTo (.ended (some (.endOfInput "")))

/-- Take the answer to a question, or the end of the input in its place. -/
def takeAnswer (activity : Activity) (rest : List Activity) (line : Option String)
    (console : Console) : Console :=
  match line with
  | none => console.breakOff activity
  | some line =>
    let (session, activity) := console.session.answer activity (typedLine line)
    work (activity :: rest) { console with session }

/-- Take a line from the input, or the end of the input. -/
def reply (line : Option String) (console : Console) : Console :=
  match console.turn with
  | .command => console.takeCommand line
  | .answer activity rest => console.takeAnswer activity rest line
  | .ended _ => console

/-- At the end of the input every dialogue ends. -/
theorem reply_none_ended (console : Console) :
    ∃ fault, (console.reply none).turn = .ended fault := by
  unfold reply
  cases shape : console.turn with
  | command => exact ⟨none, rfl⟩
  | answer activity rest => exact ⟨some (.endOfInput ""), rfl⟩
  | ended fault => exact ⟨fault, shape⟩

end Console

end LineBasic
