/-
**The shortest decimal of a float.**

Of the decimals that read back as a positive float, one with the fewest digits is chosen, and
of two with equally few digits the nearer; an exact tie goes to the even digit. Each count of
digits from one to seventeen offers the two neighbours of the float on its decimal grid.

* `readsBack_shortest` — a decimal found by the search reads back as the float.
-/

import LineBasic.Number.Decimal

namespace LineBasic

namespace Decimal

/-- The count of decimal digits of a natural number. -/
def width (n : Nat) : Nat :=
  (Nat.toDigits 10 n).length

/-- A positive fraction `numerator / denominator`. -/
structure Fraction where
  numerator : Nat
  denominator : Nat

/-- The fraction `mantissa · 2 ^ exponent`. -/
def Fraction.ofBinary (mantissa : Nat) (exponent : Int) : Fraction :=
  match exponent with
  | .ofNat places => ⟨mantissa * Nat.pow 2 places, 1⟩
  | .negSucc places => ⟨mantissa, Nat.pow 2 (places + 1)⟩

/-- The fraction divided by a power of ten. -/
def Fraction.scaled (f : Fraction) (power : Int) : Fraction :=
  match power with
  | .ofNat places => ⟨f.numerator, f.denominator * Nat.pow 10 places⟩
  | .negSucc places => ⟨f.numerator * Nat.pow 10 (places + 1), f.denominator⟩

/-- The power of ten of the leading digit of a fraction above `10 ^ -400`. -/
def Fraction.leadingPower (f : Fraction) : Int :=
  let raised := f.scaled (-400)
  (width (raised.numerator / raised.denominator) : Int) - 401

/-- The neighbours of a fraction on the grid of a power of ten, the nearer one first. -/
def neighbours (f : Fraction) (power : Int) : List Decimal :=
  let steps := f.scaled power
  let lower := steps.numerator / steps.denominator
  let rest := steps.numerator % steps.denominator
  let upperFirst := steps.denominator < 2 * rest ||
    (steps.denominator == 2 * rest && lower % 2 == 1)
  if upperFirst then [⟨lower + 1, power⟩, ⟨lower, power⟩]
  else [⟨lower, power⟩, ⟨lower + 1, power⟩]

/-- Whether a decimal reads back as a float. -/
def readsBack (x : Float) (d : Decimal) : Bool :=
  d.toFloat == x

/-- The first neighbour that reads back as a float, among the counts of digits given. -/
def shortestAmong (x : Float) (f : Fraction) (leading : Int) : List Nat → Option Decimal
  | [] => none
  | digits :: more =>
    match (neighbours f (leading - digits + 1)).find? (readsBack x) with
    | some d => some d
    | none => shortestAmong x f leading more

/-- The shortest decimal that reads back as the positive float `mantissa · 2 ^ exponent`. -/
def shortest? (x : Float) (mantissa : Nat) (exponent : Int) : Option Decimal :=
  let f := Fraction.ofBinary mantissa exponent
  (shortestAmong x f f.leadingPower (List.range' 1 17)).map (trimmed 17)

/-- A decimal found by the search reads back as the float. -/
theorem readsBack_shortest {x : Float} {f : Fraction} {leading : Int} {counts : List Nat}
    {d : Decimal} (found : shortestAmong x f leading counts = some d) :
    readsBack x d = true := by
  induction counts with
  | nil => exact absurd found (by simp [shortestAmong])
  | cons digits more hypothesis =>
    rw [shortestAmong] at found
    split at found
    · next d' hit =>
      injection found with same
      subst same
      exact List.find?_some hit
    · exact hypothesis found

end Decimal

end LineBasic
