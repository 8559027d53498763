/-
**Values.**

A value is a number or a text. A variable whose name ends in a dollar sign holds the empty text
until it is set, any other one the integer zero. A condition holds if its value is a nonempty
text or a number other than zero; the NaN counts as other than zero.
-/

import LineBasic.Number.Written

namespace LineBasic

/-- A number or a text. -/
inductive Value where
  | number (value : Number)
  | text (value : String)
  deriving DecidableEq

namespace Value

/-- The value of an integer. -/
abbrev int (n : Int) : Value :=
  number (.int n)

/-- The value of a float. -/
abbrev real (x : Float) : Value :=
  number (.real x)

/-- The value as it is shown on the screen. -/
def shown : Value → String
  | number n => n.shown
  | text s => s

/-- The value in its plain form. -/
def written : Value → String
  | number n => n.written
  | text s => s

/-- Whether a variable of this name holds texts. -/
def isTextName (name : String) : Bool :=
  name.toList.getLast? == some '$'

/-- What a variable holds until it is set. -/
def initial (name : String) : Value :=
  if isTextName name then text "" else int 0

/-- Whether a condition with this value holds. -/
def isTrue : Value → Bool
  | number n => !n.same (.int 0)
  | text s => s != ""

end Value

end LineBasic
