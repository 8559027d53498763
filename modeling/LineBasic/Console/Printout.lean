/-
**Printouts: what a console shows.**

A printout collects the texts that are written to a console, and the notes that are left beside
them. A console that is a terminal can be cleared by a control text; any other one shows nothing
for it.

* `text_write` — what is written stands at the end of the whole text.
-/

import LineBasic.Attempt
import LineBasic.Effect
import LineBasic.Fault

namespace LineBasic

/-- The texts and the notes of a console, the latest first. -/
structure Printout where
  chunks : List String
  notes : List Note
  deriving DecidableEq

namespace Printout

/-- Nothing is written yet. -/
def empty : Printout :=
  ⟨[], []⟩

/-- The whole text. -/
def text (printout : Printout) : String :=
  String.join printout.chunks.reverse

/-- Write a text. -/
def write (text : String) (printout : Printout) : Printout :=
  { printout with chunks := text :: printout.chunks }

/-- Write a line. -/
def writeLine (text : String) : Printout → Printout :=
  write (text ++ "\n")

/-- Leave a note. -/
def note (note : Note) (printout : Printout) : Printout :=
  { printout with notes := note :: printout.notes }

/-- The control text that clears a terminal and goes to its first place. -/
def clearText : String :=
  "\x1b[2J\x1b[H"

/-- Deliver an effect; writing to a console does not fail. -/
def deliver (clears : Bool) (printout : Printout) : Effect → Attempt Printout Fault
  | .text text => (printout.write text, none)
  | .line text => (printout.writeLine text, none)
  | .clear => (if clears then printout.write clearText else printout, none)
  | .note note => (printout.note note, none)

/-- What is written stands at the end of the whole text. -/
theorem text_write (text : String) (printout : Printout) :
    (printout.write text).text = printout.text ++ text := by
  simp [write, Printout.text, String.join_append]

end Printout

end LineBasic
