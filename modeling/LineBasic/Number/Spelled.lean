/-
**Spelled-out numbers.**

A number that is handed over as a whole text, such as the value of an option: blanks other than
the information separators may stand around it, digits of any script count, and a single
underscore may stand between two digits. An integer has a sign and digits; a real number is a
numeral or the name of an infinity or of the NaN, in letters of either case.

* `withoutUnderscores_of_plain` — a text without underscores is taken as it stands.
-/

import LineBasic.Number.Numeral

namespace LineBasic

open Text

namespace Spelled

/-- What may stand around a number: the blanks, but not the four information separators. -/
def isMargin (c : Char) : Bool :=
  isBlank c && !(28 ≤ c.toNat && c.toNat ≤ 31)

/-- The text without what may stand around a number. -/
def core (text : List Char) : List Char :=
  ((text.dropWhile isMargin).reverse.dropWhile isMargin).reverse

/-- The text without its underscores, if each of them stands between two digits; the character
before the text is given. -/
def withoutUnderscores : Char → List Char → Option (List Char)
  | _, [] => some []
  | before, '_' :: rest =>
    match rest with
    | c :: _ => if isDecimal before && isDecimal c then withoutUnderscores '_' rest else none
    | [] => none
  | _, c :: rest => (withoutUnderscores c rest).map (c :: ·)

/-- The most digits that an integer may be spelled with. -/
def digitLimit : Nat :=
  4300

/-- The integer that a text spells. -/
def integer? (text : String) : Option Int :=
  match withoutUnderscores ' ' (core text.toList) with
  | none => none
  | some spelled =>
    let digits := (Numeral.sign spelled).2
    if digits.isEmpty || !digits.all isDecimal || digitLimit < digits.length then none
    else if (Numeral.sign spelled).1 then some (-(digitsValue digits : Int))
    else some (digitsValue digits)

/-- The names of the floats without digits. -/
def named? (name : String) : Option Float :=
  if name == "INF" || name == "INFINITY" then some (1.0 / 0.0)
  else if name == "NAN" then some (0.0 / 0.0)
  else none

/-- The float nearest to what a text spells. -/
def real? (text : String) : Option Float :=
  match withoutUnderscores ' ' (core text.toList) with
  | none => none
  | some spelled =>
    match Numeral.read spelled with
    | some (numeral, []) => some numeral.toFloat
    | some _ => none
    | none =>
      let (negative, name) := Numeral.sign spelled
      (named? (String.ofList (name.map asciiCapital))).map fun x => if negative then -x else x

/-- A text without underscores is taken as it stands. -/
theorem withoutUnderscores_of_plain (before : Char) (text : List Char) (plain : '_' ∉ text) :
    withoutUnderscores before text = some text := by
  induction text generalizing before with
  | nil => rfl
  | cons c rest hypothesis =>
    have other : c ≠ '_' := fun same => plain (by simp [same])
    have rest' : '_' ∉ rest := fun member => plain (List.mem_cons_of_mem c member)
    rw [withoutUnderscores]
    · rw [hypothesis c rest']
      rfl
    · exact fun same => other same

end Spelled

end LineBasic
