/-
**The desk: a screen that a session writes to.**

Until the session is connected to the screen, what it writes is lost and its questions are
answered with an empty line. Notes are kept in either case.

* `deliver_unwired` — writing that is lost does not change the screen.
-/

import LineBasic.Screen.Reading
import LineBasic.Session.Drive

namespace LineBasic

/-- A screen, whether a session is connected to it, and the notes of the session, the latest
first. -/
structure Desk where
  screen : Screen
  wired : Bool
  notes : List Note

namespace Desk

/-- The desk with one more note. -/
def note (note : Note) (desk : Desk) : Desk :=
  { desk with notes := note :: desk.notes }

/-- Do something to the screen. -/
def onScreen (work : Screen → Attempt Screen GridFault) (desk : Desk) : Attempt Desk Fault :=
  let (screen, fault) := work desk.screen
  ({ desk with screen }, fault.map .grid)

/-- Deliver an effect of the session. -/
def deliver (desk : Desk) : Effect → Attempt Desk Fault
  | .note note => (desk.note note, none)
  | .text text => if desk.wired then desk.onScreen (Screen.print text) else (desk, none)
  | .line text => if desk.wired then desk.onScreen (Screen.printLine text) else (desk, none)
  | .clear => if desk.wired then ({ desk with screen := desk.screen.clear }, none) else (desk, none)

/-- Drive an activity until it ends, or asks a question that the screen can put; the number bounds
the questions that nobody can be asked. -/
def perform : Nat → Desk → Session → Activity → Desk × Session × Progress
  | 0, desk, session, activity => (desk, session, .unfinished activity)
  | questions + 1, desk, session, activity =>
    match session.drive deliver Session.patience desk activity with
    | (desk, session, .waiting prompt activity) =>
      if desk.wired then (desk, session, .waiting prompt activity)
      else
        let (session, activity) := session.answer activity ""
        perform questions desk session activity
    | ended => ended

/-- Writing that is lost does not change the screen. -/
theorem deliver_unwired {desk : Desk} (lost : desk.wired = false) (effect : Effect) :
    (desk.deliver effect).1.screen = desk.screen ∧ (desk.deliver effect).2 = none := by
  cases effect <;> simp [deliver, lost, note]

end Desk

end LineBasic
