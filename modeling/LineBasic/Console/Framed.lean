/-
**The framed screen: a terminal on plain text.**

A framed screen types the lines that it reads into a terminal, and shows the screen inside a
border before each of them. A program that it is given is entered first, and run with the first
command. The end of the input shuts the terminal down.

* `reply_none_ended` — at the end of the input every dialogue ends.
-/

import LineBasic.Console.Printout
import LineBasic.Screen.Border
import LineBasic.Terminal.Use
import LineBasic.Text.Lines

namespace LineBasic

/-- A terminal with what was shown of it, and how the dialogue has ended if it has. -/
structure FramedScreen where
  columns : Int
  terminal : Terminal
  chunks : List String
  ended : Option (Option Fault)

namespace FramedScreen

/-- The command that runs a program. -/
def runCommand : String :=
  "RUN"

/-- The fault that has ended a task, if one has. -/
def faultOf? (task : Nat) (terminal : Terminal) : Option Fault :=
  terminal.endings.findSome? fun
    | (other, .broken fault) => if other = task then some fault else none
    | _ => none

/-- Enter the lines of a program, up to the first fault. A line that asks for input keeps its read,
and the next line is entered all the same. A host that enters a line only after the one before has
ended would wait for ever there, as no key can be pressed yet; this is not modelled. -/
def enter : List String → Terminal → Attempt Terminal Fault
  | [], terminal => (terminal, none)
  | line :: rest, terminal =>
    let executed := terminal.executeLine line
    match faultOf? terminal.tasks executed with
    | some fault => (executed, some fault)
    | none => enter rest executed

/-- The end of a dialogue: the terminal is shut down. -/
def finish (fault : Option Fault) (framed : FramedScreen) : FramedScreen :=
  { framed with terminal := framed.terminal.shutDown, ended := some fault }

/-- Show the screen. -/
def framed (screen : FramedScreen) : FramedScreen :=
  { screen with
    chunks := Screen.bordered screen.columns screen.terminal.screen.frame :: screen.chunks }

/-- Type lines, and show the screen; the dialogue ends if a prompt loop has ended. -/
def typeLines (lines : List String) (screen : FramedScreen) : FramedScreen :=
  match screen.terminal.typeLines lines with
  | (terminal, some fault) => finish (some fault) { screen with terminal }
  | (terminal, none) =>
    if terminal.readers.isEmpty then finish none { screen with terminal }
    else framed { screen with terminal }

/-- A framed screen on which a program was entered, if there is one, and run. -/
def new (setup : Setup) (program : List String) : Except GridFault FramedScreen :=
  (Screen.new setup false).map fun screen =>
    match (Terminal.ofScreen screen).setUp.andThen (enter program) with
    | (terminal, some fault) => ⟨setup.columns, terminal, [], some (some fault)⟩
    | (terminal, none) =>
      typeLines (if program.isEmpty then [] else [runCommand])
        ⟨setup.columns, terminal.startLoop, [], none⟩

/-- Type a line of the input, or shut down at its end. -/
def take (line : Option String) (screen : FramedScreen) : FramedScreen :=
  match line with
  | none => screen.finish none
  | some line => screen.typeLines [String.ofList (Text.withoutLineEnd line.toList)]

/-- Take a line from the input, or the end of the input. -/
def reply (line : Option String) (screen : FramedScreen) : FramedScreen :=
  if screen.ended.isSome then screen else screen.take line

/-- At the end of the input every dialogue ends. -/
theorem reply_none_ended (screen : FramedScreen) : ((screen.reply none).ended).isSome := by
  unfold reply
  split
  · assumption
  · rfl

end FramedScreen

end LineBasic
