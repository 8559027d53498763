/-
**Faults: what ends an activity without being a failure of the program.**

A failure is the program's own and is reported to the user. A fault comes from outside: the
grid was left, the keyboard was closed, a second line was asked for while one was awaited, the
activity was cancelled, lines were taken from under a running program, or no file can have the
name that was given. It passes through the session, which puts its own state in order on the way.
-/

namespace LineBasic

/-- A place outside the grid, or a grid that cannot be: one of its dimensions is negative, is too
large, or was left open, or both together are too large. -/
inductive GridFault where
  | outOfBounds (index : Int) (axis size : Nat)
  | negativeDimensions
  | dimensionTooLarge
  | areaTooLarge
  | openDimension
  deriving DecidableEq

/-- What ends an activity from outside. -/
inductive Fault where
  | missingLine (number : Int)
  | noLines
  | tooManyDigits (count : Nat)
  | endOfInput (reason : String)
  | grid (fault : GridFault)
  | readPending
  | cancelled
  | zeroInName
  deriving DecidableEq

namespace GridFault

/-- The words for a grid that is too large. -/
def tooBig : String :=
  "array is too big; `arr.size * arr.dtype.itemsize` is larger than the maximum possible size."

/-- The words for a fault of the grid. -/
def message : GridFault → String
  | outOfBounds index axis size =>
    "index " ++ toString index ++ " is out of bounds for axis " ++ toString axis ++
      " with size " ++ toString size
  | negativeDimensions => "negative dimensions are not allowed"
  | dimensionTooLarge => "Maximum allowed dimension exceeded"
  | areaTooLarge => tooBig
  | openDimension => "'list' object cannot be interpreted as an integer"

end GridFault

namespace Fault

/-- The pieces of the words for a fault. -/
def pieces : Fault → List String
  | missingLine number => [toString number]
  | noLines => ["list index out of range"]
  | tooManyDigits count =>
    ["Exceeds the limit (4300 digits) for integer string conversion: value has ", toString count,
      " digits; use sys.set_int_max_str_digits() to increase the limit"]
  | endOfInput reason => [reason]
  | grid fault => [fault.message]
  | readPending => ["Input already pending"]
  | cancelled => []
  | zeroInName => ["embedded null byte"]

/-- The words for a fault. -/
def message (fault : Fault) : String :=
  String.join fault.pieces

end Fault

end LineBasic
