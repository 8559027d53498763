/-
**The value of an expression.**

Operands are evaluated from the left. Arithmetic is done in floats, two texts are joined by the
plus sign, equality holds between any two values, and the orderings between two numbers or two
texts. Reading a variable may give it the value it starts with.
-/

import LineBasic.Failure
import LineBasic.Session.State

namespace LineBasic

namespace Value

/-- The float of a value. -/
def toFloat : Value → Except Cause Float
  | text _ => .error .typeMismatch
  | number n =>
    match n.toFloat? with
    | some x => .ok x
    | none => .error .overflow

/-- The value of a condition. -/
def ofBool (holds : Bool) : Value :=
  int (if holds then 1 else 0)

/-- Whether two values are the same number or the same text. -/
def same : Value → Value → Bool
  | number a, number b => a.same b
  | text s, text t => s == t
  | _, _ => false

/-- A comparison of two numbers or of two texts. -/
def compared (numbers : Number → Number → Bool) (texts : String → String → Bool) :
    Value → Value → Except Cause Value
  | number a, number b => .ok (ofBool (numbers a b))
  | text s, text t => .ok (ofBool (texts s t))
  | _, _ => .error .typeMismatch

/-- An operation on the floats of two values. -/
def calculated (operation : Float → Float → Except Cause Float) (a b : Value) :
    Except Cause Value :=
  match a.toFloat with
  | .error cause => .error cause
  | .ok x =>
    match b.toFloat with
    | .error cause => .error cause
    | .ok y => (operation x y).map real

/-- The quotient of two floats; there is none by zero. -/
def quotient (x y : Float) : Except Cause Float :=
  if (Number.real y).same (.int 0) then .error .divisionByZero else .ok (x / y)

/-- The sum of two numbers, or two texts joined. -/
def sum : Value → Value → Except Cause Value
  | text s, text t => .ok (text (s ++ t))
  | a, b => calculated (fun x y => .ok (x + y)) a b

/-- The value of an operator on two values. -/
def combine (operator : String) (a b : Value) : Except Cause Value :=
  match operator with
  | "+" => sum a b
  | "-" => calculated (fun x y => .ok (x - y)) a b
  | "*" => calculated (fun x y => .ok (x * y)) a b
  | "/" => calculated quotient a b
  | "=" => .ok (ofBool (same a b))
  | "<>" => .ok (ofBool (!same a b))
  | "<" => compared Number.below (fun s t => decide (s < t)) a b
  | ">" => compared (fun a b => b.below a) (fun s t => decide (t < s)) a b
  | "<=" => compared Number.atMost (fun s t => !decide (t < s)) a b
  | ">=" => compared (fun a b => b.atMost a) (fun s t => !decide (s < t)) a b
  | _ => .error (.unknownOperator operator)

end Value

namespace Node

/-- The value of an expression, or why it has none, and the variables after it was read. As for
`Parser.line`, a bound that a runtime sets to nested calls is not modelled: every tree has a value or
a cause, however deep it is. -/
def evaluate : Node → Memory → Memory × Except Cause Value
  | number value, memory => (memory, .ok value)
  | string text, memory => (memory, .ok (.text text))
  | named name, memory => (memory.touch name, .ok (memory.get name))
  | binary operator left right, memory =>
    match evaluate left memory with
    | (memory, .error cause) => (memory, .error cause)
    | (memory, .ok a) =>
      match evaluate right memory with
      | (memory, .error cause) => (memory, .error cause)
      | (memory, .ok b) => (memory, Value.combine operator a b)
  | unary operator operand, memory =>
    match evaluate operand memory with
    | (memory, .error cause) => (memory, .error cause)
    | (memory, .ok value) =>
      if operator = "-" then (memory, value.toFloat.map fun x => Value.real (-x))
      else (memory, .error (.unknownUnaryOperator operator))
  | node, memory => (memory, .error (.notAnExpression node.kind))

/-- The float of an expression, or why it has none, and the variables after it was read. -/
def evaluateFloat (node : Node) (memory : Memory) : Memory × Except Cause Float :=
  match node.evaluate memory with
  | (memory, .error cause) => (memory, .error cause)
  | (memory, .ok value) => (memory, value.toFloat)

end Node

end LineBasic
