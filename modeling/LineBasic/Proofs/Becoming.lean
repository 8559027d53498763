/-
**What becomes of a screen.**

Whatever runs on a terminal, its screen is handled in a few ways only: a text is printed, the grid
is cleared, a read is opened or given up, a key is pressed, and the screen is left behind. So what
none of these breaks stays true of the screen, whatever lines are typed and whatever programs run,
and also where the grid has no room for what is written and a task breaks off.

* `Screen.Handled`, `Screen.Becomes` — a screen that is handled once, and any number of times;
* `Becomes.preserves` — what is kept by every handling of a screen;
* `Session.drive_keeps` — what is kept of a host by all that is delivered to it;
* `Desk.becomes_perform`, `Terminal.becomes_work` — the screen of a desk, and of a terminal, while
  an activity goes on;
* `becomes_press`, `becomes_setUp`, `becomes_startLoop`, `becomes_shutDown` — the screen of a
  terminal that is used.
-/

import LineBasic.Terminal.Use
import Mathlib

namespace LineBasic

namespace Screen

/-- A screen that is handled once. -/
inductive Handled : Screen → Screen → Prop where
  | print (text : String) (screen : Screen) : Handled screen (screen.print text).1
  | clear (screen : Screen) : Handled screen screen.clear
  | openRead (prompt : String) (screen : Screen) : Handled screen (screen.openRead prompt).1
  | release (ticket : Nat) (screen : Screen) : Handled screen (screen.release ticket)
  | press (key : Key) (screen : Screen) : Handled screen (screen.press key).1
  | abandon (screen : Screen) : Handled screen screen.abandoned

/-- What becomes of a screen that is handled any number of times. -/
def Becomes : Screen → Screen → Prop :=
  Relation.ReflTransGen Handled

section Becomes

variable {start screen after : Screen}

theorem Becomes.refl (screen : Screen) : screen.Becomes screen :=
  Relation.ReflTransGen.refl

theorem Becomes.handled (becomes : start.Becomes screen) (handled : Handled screen after) :
    start.Becomes after :=
  Relation.ReflTransGen.tail becomes handled

/-- **What every handling keeps is kept**, whatever becomes of a screen. -/
theorem Becomes.preserves {holds : Screen → Prop}
    (kept : ∀ {before after : Screen}, Handled before after → holds before → holds after)
    (becomes : screen.Becomes after) (start : holds screen) : holds after := by
  induction becomes with
  | refl => exact start
  | tail _ handled hypothesis => exact kept handled hypothesis

theorem Becomes.openCommand (becomes : start.Becomes screen) :
    start.Becomes screen.openCommand.1 := by
  have printed := becomes.handled (.print (screen.promptGlyph ++ " ") screen)
  unfold Screen.openCommand
  generalize screen.print (screen.promptGlyph ++ " ") = result at printed
  obtain ⟨after, _ | fault⟩ := result
  · exact printed.handled (.openRead "" after)
  · exact printed

theorem Becomes.pressAll (becomes : start.Becomes screen) (keys : List Key) :
    start.Becomes (screen.pressAll keys).1 := by
  induction keys generalizing screen with
  | nil => exact becomes
  | cons key rest hypothesis =>
    have pressed := becomes.handled (.press key screen)
    rw [Screen.pressAll]
    generalize screen.press key = result at pressed
    obtain ⟨after, fault | _ | delivery⟩ := result
    · exact pressed
    · exact hypothesis pressed
    · exact pressed

end Becomes

end Screen

/-! ### A session before a host -/

namespace Session

section Keeps

variable {World : Type} {deliver : World → Effect → World × Option Fault} {holds : World → Prop}
  {world : World}

theorem deliverAll_keeps (keeps : ∀ world effect, holds world → holds (deliver world effect).1)
    (start : holds world) (effects : List Effect) : holds (deliverAll deliver world effects).1 := by
  induction effects generalizing world with
  | nil => exact start
  | cons effect rest hypothesis =>
    have delivered := keeps world effect start
    rw [deliverAll]
    generalize deliver world effect = result at delivered
    obtain ⟨after, _ | fault⟩ := result
    · exact hypothesis delivered
    · exact delivered

/-- **What every delivery keeps of a host is kept** while it drives an activity. -/
theorem drive_keeps (keeps : ∀ world effect, holds world → holds (deliver world effect).1)
    (start : holds world) (steps : Nat) (session : Session) (activity : Activity) :
    holds (session.drive deliver steps world activity).1 := by
  induction steps generalizing world session activity with
  | zero => exact start
  | succ steps hypothesis =>
    rw [drive]
    rcases session.step activity with ⟨stepped, ⟨following, effects⟩ | prompt | _ | failure | fault⟩
    · have delivered := deliverAll_keeps keeps start effects
      simp only
      generalize deliverAll deliver world effects = result at delivered
      obtain ⟨after, _ | fault⟩ := result
      · exact hypothesis delivered stepped following
      · exact deliverAll_keeps keeps delivered _
    · exact start
    · exact start
    · exact start
    · exact deliverAll_keeps keeps start _

end Keeps

end Session

/-! ### A desk -/

namespace Desk

variable {start : Screen} {desk : Desk}

theorem becomes_deliver (becomes : start.Becomes desk.screen) (effect : Effect) :
    start.Becomes (desk.deliver effect).1.screen := by
  have written : ∀ text, start.Becomes
      (if desk.wired then desk.onScreen (Screen.print text) else (desk, none)).1.screen := by
    intro text
    split
    · exact becomes.handled (.print text desk.screen)
    · exact becomes
  cases effect with
  | note note => exact becomes
  | text text => exact written text
  | line text => exact written (text ++ "\n")
  | clear =>
    rw [deliver]
    split
    · exact becomes.handled (.clear desk.screen)
    · exact becomes

/-- The notes that an activity leaves when it is broken off, and whatever else it delivers. -/
theorem becomes_breakOff (becomes : start.Becomes desk.screen) (session : Session)
    (activity : Activity) (fault : Fault) :
    start.Becomes (session.breakOff deliver desk activity fault).1.screen :=
  @Session.deliverAll_keeps Desk deliver (fun desk => start.Becomes desk.screen) desk
    (fun _ effect becomes => becomes_deliver becomes effect) becomes _

/-- **An activity at a desk** only handles its screen. -/
theorem becomes_perform (questions : Nat) (becomes : start.Becomes desk.screen) (session : Session)
    (activity : Activity) : start.Becomes (desk.perform questions session activity).1.screen := by
  induction questions generalizing desk session activity with
  | zero => exact becomes
  | succ questions hypothesis =>
    have driven := @Session.drive_keeps Desk deliver (fun desk => start.Becomes desk.screen) desk
      (fun _ effect becomes => becomes_deliver becomes effect) becomes Session.patience session
      activity
    rw [perform]
    generalize session.drive deliver Session.patience desk activity = result at driven
    obtain ⟨after, session', progress⟩ := result
    cases progress with
    | waiting prompt waiting =>
      simp only
      split
      · exact driven
      · exact hypothesis driven _ _
    | _ => exact driven

end Desk

/-! ### A terminal -/

namespace Terminal

variable {start : Screen} {terminal : Terminal}

theorem becomes_await (task : Nat) (purpose : Purpose) {read : Screen → Screen × Except Fault Nat}
    (becomes : start.Becomes (read terminal.screen).1) :
    start.Becomes (terminal.await task purpose read).screen := by
  unfold await
  generalize read terminal.screen = result at becomes
  obtain ⟨screen, fault | ticket⟩ := result
  · exact becomes
  · exact becomes

theorem becomes_prompt (becomes : start.Becomes terminal.screen) (task : Nat) :
    start.Becomes (terminal.prompt task).screen := by
  unfold prompt
  split
  · exact becomes_await task .command becomes.openCommand
  · exact becomes

theorem becomes_conclude (becomes : start.Becomes terminal.screen) (task : Nat) (role : Role)
    (fault : Option Fault) : start.Becomes (terminal.conclude task role fault).screen := by
  unfold conclude
  split
  · exact becomes
  · exact becomes
  · exact becomes
  · exact becomes_prompt becomes task
  · next line fault _ =>
    have printed := becomes.handled (.print (faultReport fault ++ "\n") terminal.screen)
    have reported : start.Becomes (({ terminal with
        desk := terminal.desk.note (.commandBroken line) } : Terminal).onScreen
          (Screen.printLine (faultReport fault))).1.screen := printed
    simp only
    generalize Terminal.onScreen _ _ = result at reported
    obtain ⟨after, _ | fault⟩ := result
    · exact becomes_prompt reported task
    · exact reported

theorem becomes_breakOff (becomes : start.Becomes terminal.screen) (task : Nat) (role : Role)
    (activity : Activity) (fault : Fault) :
    start.Becomes (terminal.breakOff task role activity fault).screen := by
  have broken := Desk.becomes_breakOff becomes terminal.session activity fault
  exact becomes_conclude broken task role (some fault)

/-- **The work of a task** only handles the screen. -/
theorem becomes_work (becomes : start.Becomes terminal.screen) (task : Nat) (role : Role)
    (activity : Activity) : start.Becomes (terminal.work task role activity).screen := by
  have performed := Desk.becomes_perform Session.patience becomes terminal.session activity
  unfold work
  generalize terminal.desk.perform Session.patience terminal.session activity = result at performed
  obtain ⟨desk, session, progress⟩ := result
  cases progress with
  | waiting question waiting =>
    have opened : start.Becomes
        (Screen.openRead question (Terminal.screen { terminal with desk, session })).1 :=
      performed.handled (.openRead question desk.screen)
    simp only
    generalize Screen.openRead question _ = result at opened
    obtain ⟨screen, fault | ticket⟩ := result
    · have left : start.Becomes
          (Terminal.setScreen screen { terminal with desk, session }).screen := opened
      exact becomes_breakOff left task role waiting fault
    · exact opened
  | fault fault => exact becomes_conclude performed task role (some fault)
  | _ => exact becomes_conclude performed task role none

theorem becomes_remove (becomes : start.Becomes terminal.screen) (reader : Reader) :
    start.Becomes (terminal.remove reader).screen :=
  becomes.handled (.release reader.ticket terminal.screen)

theorem becomes_receive (becomes : start.Becomes terminal.screen) (delivery : Delivery) :
    start.Becomes (terminal.receive delivery).screen := by
  unfold receive
  split
  · next reader _ =>
    have removed := becomes_remove becomes reader
    generalize terminal.remove reader = left at removed
    unfold resume
    split
    · exact removed
    · have noted : start.Becomes (Terminal.screen
          { left with desk := left.desk.note (.commandRead delivery.line) }) := removed
      exact becomes_work noted _ _ _
    · next role activity _ =>
      have answered : start.Becomes (Terminal.screen
          { left with session := (left.session.answer activity delivery.line).1 }) := removed
      exact becomes_work answered _ _ _
  · exact becomes

theorem becomes_dismiss (becomes : start.Becomes terminal.screen) (reader : Reader) :
    start.Becomes (terminal.dismiss reader).screen := by
  have removed := becomes_remove becomes reader
  unfold dismiss
  split
  · exact removed
  · exact removed
  · exact becomes_breakOff removed _ _ _ _

/-! What a terminal is used for. -/

theorem becomes_press (becomes : start.Becomes terminal.screen) (keys : List Key) :
    start.Becomes (terminal.press keys).1.screen := by
  have pressed := becomes.pressAll keys
  unfold press
  generalize terminal.screen.pressAll keys = result at pressed
  obtain ⟨after, fault | _ | delivery⟩ := result
  · exact pressed
  · exact pressed
  · exact becomes_receive pressed delivery

theorem becomes_printLines (becomes : start.Becomes terminal.screen) (lines : List String) :
    start.Becomes (terminal.printLines lines).1.screen := by
  induction lines generalizing terminal with
  | nil => exact becomes
  | cons line rest hypothesis =>
    have printed : start.Becomes (terminal.onScreen (Screen.printLine line)).1.screen :=
      becomes.handled (.print (line ++ "\n") terminal.screen)
    rw [printLines]
    generalize terminal.onScreen (Screen.printLine line) = result at printed
    obtain ⟨after, _ | fault⟩ := result
    · exact hypothesis printed
    · exact printed

theorem becomes_setUp (becomes : start.Becomes terminal.screen) :
    start.Becomes terminal.setUp.1.screen := by
  have wired : start.Becomes
      (Terminal.screen { terminal with desk := { terminal.desk with wired := true } }) := becomes
  have shown := becomes_printLines wired banner
  unfold setUp showBanner
  generalize printLines banner _ = result at shown
  obtain ⟨after, _ | fault⟩ := result
  · exact shown
  · exact shown

theorem becomes_startLoop (becomes : start.Becomes terminal.screen) :
    start.Becomes terminal.startLoop.screen := by
  have started : start.Becomes terminal.withTask.screen := becomes
  have readied : start.Becomes
      (if terminal.ready then (terminal.withTask, none) else terminal.withTask.setUp).1.screen := by
    split
    · exact started
    · exact becomes_setUp started
  unfold startLoop
  generalize (if terminal.ready then (terminal.withTask, none) else terminal.withTask.setUp) =
    result at readied
  obtain ⟨after, _ | fault⟩ := result
  · exact @becomes_prompt start { after with looping := true } readied terminal.tasks
  · exact readied

theorem becomes_shutDown (becomes : start.Becomes terminal.screen) :
    start.Becomes terminal.shutDown.screen := by
  have left := becomes.handled (.abandon terminal.screen)
  unfold shutDown abandonScreen
  split
  · exact becomes_dismiss left _
  · exact left

end Terminal

end LineBasic
