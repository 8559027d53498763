/-
**Dialogues.**

A dialogue is held on a console or on a framed screen. It writes text, takes a line whenever it
has nothing more to do, and ends at the latest when the input ends. A whole dialogue is what
comes of feeding it all lines of the input and then the end.

* `hold_append` — lines can be fed in portions;
* `converse_ended` — a whole dialogue has ended.
-/

import LineBasic.Console.Basic
import LineBasic.Console.Framed

namespace LineBasic

/-- A dialogue on a console or on a framed screen. -/
inductive Dialogue where
  | console (console : Console)
  | framed (screen : FramedScreen)

namespace Dialogue

/-- Take a line from the input, or the end of the input. -/
def reply (line : Option String) : Dialogue → Dialogue
  | console plain => .console (plain.reply line)
  | framed screen => .framed (screen.reply line)

/-- How the dialogue has ended, if it has: with a fault, or without. -/
def ended : Dialogue → Option (Option Fault)
  | console plain =>
    match plain.turn with
    | .ended fault => some fault
    | _ => none
  | framed screen => screen.ended

/-- What the dialogue has written, the latest first. -/
def chunks : Dialogue → List String
  | console plain => plain.printout.chunks
  | framed screen => screen.chunks

/-- The notes that the dialogue has left, the latest first. -/
def notes : Dialogue → List Note
  | console plain => plain.printout.notes
  | framed screen => screen.terminal.desk.notes

/-- All that the dialogue has written. -/
def text (dialogue : Dialogue) : String :=
  String.join dialogue.chunks.reverse

/-- The dialogue with nothing on paper, after what it wrote has been shown. -/
def torn : Dialogue → Dialogue
  | console plain => .console { plain with printout := .empty }
  | framed screen =>
    .framed { screen with
      chunks := []
      terminal := { screen.terminal with desk := { screen.terminal.desk with notes := [] } } }

/-- Feed lines to a dialogue. -/
def hold (lines : List String) (dialogue : Dialogue) : Dialogue :=
  lines.foldl (fun dialogue line => dialogue.reply (some line)) dialogue

/-- A whole dialogue over an input. -/
def converse (input : String) (dialogue : Dialogue) : Dialogue :=
  (dialogue.hold ((Text.inputLines input.toList).map String.ofList)).reply none

/-- Lines can be fed in portions. -/
theorem hold_append (first second : List String) (dialogue : Dialogue) :
    dialogue.hold (first ++ second) = (dialogue.hold first).hold second := by
  simp [hold]

/-- A dialogue ends with the input. -/
theorem ended_reply_none (dialogue : Dialogue) : (dialogue.reply none).ended.isSome := by
  cases dialogue with
  | console plain =>
    obtain ⟨fault, shape⟩ := plain.reply_none_ended
    simp [reply, ended, shape]
  | framed screen => exact screen.reply_none_ended

/-- A whole dialogue has ended. -/
theorem converse_ended (input : String) (dialogue : Dialogue) :
    (dialogue.converse input).ended.isSome :=
  ended_reply_none _

end Dialogue

end LineBasic
