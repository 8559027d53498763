/-
**Numbers: unbounded integers and floats.**

The two kinds stay apart: arithmetic turns integers into floats, comparison looks at the exact
value of each. An infinity stands beyond every finite value of its side; what is not a number
compares with nothing.

* `compare?_swap` — comparing the other way round gives the opposite answer;
* `compare?_self` — everything but a NaN equals itself.
-/

namespace LineBasic

/-- An unbounded integer or a float. -/
inductive Number where
  | int (value : Int)
  | real (value : Float)
  deriving DecidableEq

/-- The exact value of a number: finite ones are dyadic fractions. -/
inductive Exact where
  | notANumber
  | negativeInfinity
  | finite (value : Dyadic)
  | positiveInfinity
  deriving DecidableEq

namespace Exact

open Float.Model (UnpackedFloat)

/-- The exact value of a float. -/
def ofFloat (x : Float) : Exact :=
  match x.toModel.unpack with
  | .notANumber => notANumber
  | .infinity .positive => positiveInfinity
  | .infinity .negative => negativeInfinity
  | .zero _ => finite 0
  | .finite .positive mantissa exponent _ => finite (.ofIntWithPrec mantissa (-exponent))
  | .finite .negative mantissa exponent _ => finite (.ofIntWithPrec (-mantissa) (-exponent))

/-- How two dyadic fractions stand to each other. -/
def order (a b : Dyadic) : Ordering :=
  if a < b then .lt else if b < a then .gt else .eq

/-- How two exact values stand to each other, if both are numbers. -/
def compare? : Exact → Exact → Option Ordering
  | notANumber, _ => none
  | _, notANumber => none
  | finite a, finite b => some (order a b)
  | negativeInfinity, negativeInfinity => some .eq
  | positiveInfinity, positiveInfinity => some .eq
  | negativeInfinity, _ => some .lt
  | _, negativeInfinity => some .gt
  | positiveInfinity, _ => some .gt
  | _, positiveInfinity => some .lt

end Exact

namespace Number

/-- The exact value of a number. -/
def exact : Number → Exact
  | int n => .finite n
  | real x => .ofFloat x

/-- How two numbers stand to each other, if neither is a NaN. -/
def compare? (a b : Number) : Option Ordering :=
  a.exact.compare? b.exact

/-- Whether two numbers have the same value. -/
def same (a b : Number) : Bool :=
  a.compare? b == some .eq

/-- Whether the first number is below the second. -/
def below (a b : Number) : Bool :=
  a.compare? b == some .lt

/-- Whether the first number is below the second or equal to it. -/
def atMost (a b : Number) : Bool :=
  a.below b || a.same b

/-- The least integer that is too large for a float: half a step past the largest one. -/
def floatBound : Nat :=
  Nat.pow 2 1024 - Nat.pow 2 970

/-- The float nearest to a number; integers past the range of floats have none. -/
def toFloat? : Number → Option Float
  | int n => if n.natAbs < floatBound then some (Float.ofInt n) else none
  | real x => some x

/-- The integer that a float equals, if it equals one. -/
def wholeValue? (x : Float) : Option Int :=
  match x.toModel.unpack with
  | .zero _ => some 0
  | .finite sign mantissa exponent _ =>
    match exponent with
    | .ofNat places => some (sign.apply (mantissa * Nat.pow 2 places))
    | .negSucc places =>
      if mantissa % Nat.pow 2 (places + 1) = 0 then
        some (sign.apply (mantissa / Nat.pow 2 (places + 1)))
      else none
  | _ => none

end Number

/-! ### The order of exact values -/

namespace Exact

/-- Comparing two fractions the other way round gives the opposite answer. -/
theorem order_swap (a b : Dyadic) : (order a b).swap = order b a := by
  unfold order
  by_cases below : a < b
  · have : ¬ b < a := fun above =>
      Dyadic.not_le.mpr (Std.le_of_lt above) below
    simp [below, this]
  · by_cases above : b < a <;> simp [below, above]

/-- Comparing the other way round gives the opposite answer. -/
theorem compare?_swap (a b : Exact) : (a.compare? b).map Ordering.swap = b.compare? a := by
  cases a <;> cases b <;> simp [compare?, order_swap]

/-- Everything but a NaN equals itself. -/
theorem compare?_self (a : Exact) : a.compare? a = if a = notANumber then none else some .eq := by
  have irreflexive (value : Dyadic) : ¬ value < value := fun below =>
    Dyadic.not_le.mpr (Dyadic.le_refl value) below
  cases a <;> simp [compare?, order, irreflexive]

end Exact

end LineBasic
