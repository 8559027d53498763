/-
**What is done to a terminal.**

Everything that can be done to a terminal from outside is an action: writing to its screen,
pressing keys, starting and cancelling tasks, setting up and shutting down. An action may break
off with a fault, which is handed to whoever did it; the terminal goes on from where it is left.

* `run_append` — actions can be done in portions;
* `run_preserves` — what no action breaks, no sequence of actions breaks.
-/

import LineBasic.Terminal.Use

namespace LineBasic

/-- Something that is done to a terminal. -/
inductive Action where
  | print (text : String)
  | printLine (text : String)
  | put (text : String)
  | newline
  | scroll
  | clear
  | render
  | press (keys : List Key)
  | type (lines : List String)
  | readLine (prompt : String)
  | readCommand
  | executeLine (line : String)
  | startLoop
  | cancel (task : Nat)
  | abandonScreen
  | setUp
  | showBanner
  | stop
  | reset
  | shutDown
  deriving DecidableEq

namespace Action

/-- Whether an action starts a task. -/
def starts : Action → Bool
  | readLine _ => true
  | readCommand => true
  | executeLine _ => true
  | startLoop => true
  | _ => false

/-- The terminal after an action, and the fault if it broke off. -/
def apply : Action → Terminal → Attempt Terminal Fault
  | print text, terminal => terminal.onScreen (Screen.print text)
  | printLine text, terminal => terminal.onScreen (Screen.printLine text)
  | put text, terminal => terminal.onScreen (Screen.onGrid (Grid.put (Cell.ofText text)))
  | newline, terminal => terminal.onScreen (Screen.onGrid Grid.newline)
  | scroll, terminal => terminal.onScreen (Screen.onGrid Grid.scroll)
  | clear, terminal => (terminal.setScreen terminal.screen.clear, none)
  | render, terminal => (terminal.setScreen terminal.screen.render, none)
  | press keys, terminal => terminal.press keys
  | type lines, terminal => terminal.typeLines lines
  | readLine prompt, terminal => (terminal.readLine prompt, none)
  | readCommand, terminal => (terminal.readCommand, none)
  | executeLine line, terminal => (terminal.executeLine line, none)
  | startLoop, terminal => (terminal.startLoop, none)
  | cancel task, terminal => (terminal.cancel task, none)
  | abandonScreen, terminal => (terminal.abandonScreen, none)
  | setUp, terminal => terminal.setUp
  | showBanner, terminal => terminal.showBanner
  | stop, terminal => (terminal.stop, none)
  | reset, terminal => terminal.reset
  | shutDown, terminal => (terminal.shutDown, none)

end Action

namespace Terminal

/-- The terminal after a sequence of actions. -/
def run (actions : List Action) (terminal : Terminal) : Terminal :=
  actions.foldl (fun terminal action => (action.apply terminal).1) terminal

/-- Actions can be done in portions. -/
theorem run_append (first second : List Action) (terminal : Terminal) :
    terminal.run (first ++ second) = (terminal.run first).run second := by
  simp [run]

/-- What no action breaks, no sequence of actions breaks. -/
theorem run_preserves {holds : Terminal → Prop}
    (preserved : ∀ (action : Action) (terminal : Terminal),
      holds terminal → holds (action.apply terminal).1)
    (actions : List Action) {terminal : Terminal} (start : holds terminal) :
    holds (terminal.run actions) := by
  induction actions generalizing terminal with
  | nil => exact start
  | cons action rest hypothesis => exact hypothesis (preserved action terminal start)

end Terminal

end LineBasic
