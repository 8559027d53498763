/-
**Written numbers.**

An integer is written in full. A float is written with the fewest digits that read back: with a
point among them while its leading digit lies near the units, with an exponent otherwise. What
is shown on the screen differs from the plain form in two points: a whole float below `10 ^ 21`
is shown as the integer it equals, and the infinities and the NaN have longer names.

* `plainLayout` — the decisions of the plain form in one place.
-/

import LineBasic.Number.Basic
import LineBasic.Number.Shortest

namespace LineBasic

/-- How floats are laid out. -/
structure Layout where
  /-- The least power of the leading digit that is written without an exponent. -/
  leastPower : Int
  /-- The first power of the leading digit that is written with an exponent. -/
  powerBound : Int
  /-- The least count of digits of an exponent. -/
  exponentWidth : Nat
  /-- What is put after digits that end before the point. -/
  wholeEnd : String
  infinity : String
  notANumber : String

/-- Numbers keep their point from `0.0001` up to sixteen digits before it; whole ones end in
`.0`, exponents have a sign and two digits. -/
def plainLayout : Layout where
  leastPower := -4
  powerBound := 16
  exponentWidth := 2
  wholeEnd := ".0"
  infinity := "inf"
  notANumber := "nan"

namespace Layout

/-- The digits of a natural number, filled up with zeros to a width. -/
def padded (width n : Nat) : String :=
  let digits := Nat.toDigits 10 n
  String.ofList (List.replicate (width - digits.length) '0' ++ digits)

/-- A decimal with its point, its digits reaching from the power of the first one downwards. -/
def positional (layout : Layout) (digits : List Char) (leading : Int) : String :=
  match leading with
  | .ofNat places =>
    if digits.length ≤ places + 1 then
      String.ofList (digits ++ List.replicate (places + 1 - digits.length) '0') ++ layout.wholeEnd
    else
      String.ofList (digits.take (places + 1)) ++ "." ++ String.ofList (digits.drop (places + 1))
  | .negSucc places =>
    "0." ++ String.ofList (List.replicate places '0' ++ digits)

/-- A decimal with one digit before the point and an exponent. -/
def exponential (layout : Layout) (digits : List Char) (leading : Int) : String :=
  let fraction := digits.drop 1
  let point := if fraction.isEmpty then "" else "."
  let mark := if leading < 0 then "e-" else "e+"
  String.ofList (digits.take 1) ++ point ++ String.ofList fraction ++ mark ++
    padded layout.exponentWidth leading.natAbs

/-- A positive decimal. -/
def decimal (layout : Layout) (d : Decimal) : String :=
  let digits := Nat.toDigits 10 d.digits
  let leading := d.exponent + digits.length - 1
  if layout.leastPower ≤ leading ∧ leading < layout.powerBound then
    layout.positional digits leading
  else layout.exponential digits leading

/-- The mark of a sign. -/
def signMark : Float.Model.UnpackedFloat.Sign → String
  | .positive => ""
  | .negative => "-"

/-- A float in a layout. -/
def float (layout : Layout) (x : Float) : String :=
  match x.toModel.unpack with
  | .notANumber => layout.notANumber
  | .infinity sign => signMark sign ++ layout.infinity
  | .zero sign => signMark sign ++ "0" ++ layout.wholeEnd
  | .finite sign mantissa exponent _ =>
    match Decimal.shortest? x.abs mantissa exponent with
    | some d => signMark sign ++ layout.decimal d
    | none => layout.notANumber

end Layout

namespace Number

/-- The plain form of a number, from which it can be read back. -/
def written : Number → String
  | int n => toString n
  | real x => plainLayout.float x

/-- Whole floats below this bound are shown as integers. -/
def wholeShownBound : Nat :=
  Nat.pow 10 21

/-- The form of a number on the screen. -/
def shown : Number → String
  | int n => toString n
  | real x =>
    if x.isNaN then "NaN"
    else if x.isInf then (if x < 0 then "-Infinity" else "Infinity")
    else
      match wholeValue? x with
      | some n => if n.natAbs < wholeShownBound then toString n else plainLayout.float x
      | none => plainLayout.float x

end Number

end LineBasic
