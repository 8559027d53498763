/-
**The state of a session.**

A session owns the stored program, the variables, the loops that are open, and what a running
program needs: whether one is running, its current line, and where it goes next if not to the
line after.
-/

import LineBasic.Program
import LineBasic.Memory

namespace LineBasic

/-- An open loop: its variable, its bounds, and the line it returns to. -/
structure LoopFrame where
  name : String
  limit : Float
  step : Float
  returnLine : Option Int
  deriving DecidableEq

/-- Where a running program goes next: to a line, or to the line after it. -/
structure Jump where
  line : Int
  after : Bool
  deriving DecidableEq

/-- The state of a session; the innermost loop comes first. -/
structure Session where
  program : Program
  memory : Memory
  loops : List LoopFrame
  current : Option Int
  running : Bool
  jump : Option Jump

namespace Session

/-- A session in which nothing has happened. -/
def fresh : Session where
  program := .empty
  memory := .empty
  loops := []
  current := none
  running := false
  jump := none

/-- The session as a program finds it when it starts: no variables, no loops, nowhere to go. -/
def restarted (session : Session) : Session :=
  { session with memory := .empty, loops := [], jump := none }

/-- The session after its program is thrown away. -/
def cleared (session : Session) : Session :=
  { session with program := .empty, memory := .empty, loops := [], running := false }

/-- The session with the value of a variable set. -/
def assign (session : Session) (name : String) (value : Value) : Session :=
  { session with memory := session.memory.set name value }

/-- The loops that lie outside the outermost loop over a variable. -/
def outside (name : String) (loops : List LoopFrame) : List LoopFrame :=
  (loops.reverse.takeWhile fun frame => frame.name != name).reverse

end Session

end LineBasic
