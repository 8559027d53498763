/-
**Numerals.**

A numeral is a sign that may be missing, digits with at most one point among them, at least one
digit, and an exponent that may be missing. Digits of any script count. The longest numeral at
the start of a text is the one read.

* `rest_read` — a numeral is read off the front: what is left is an end of the text.
-/

import LineBasic.Number.Decimal
import LineBasic.Text.Blank
import LineBasic.Text.Digit

namespace LineBasic

open Text

/-- A spelled number, part by part. -/
structure Numeral where
  negative : Bool
  whole : List Char
  fraction : List Char
  exponent : Int
  deriving DecidableEq, Repr

namespace Numeral

/-- The decimal that a numeral spells, apart from its sign. -/
def toDecimal (numeral : Numeral) : Decimal :=
  ⟨digitsValue (numeral.whole ++ numeral.fraction), numeral.exponent - numeral.fraction.length⟩

/-- The float nearest to what the numeral spells. -/
def toFloat (numeral : Numeral) : Float :=
  if numeral.negative then -numeral.toDecimal.toFloat else numeral.toDecimal.toFloat

/-- A sign at the front of a text, and what follows it. -/
def sign : List Char → Bool × List Char
  | '+' :: rest => (false, rest)
  | '-' :: rest => (true, rest)
  | rest => (false, rest)

/-- The digits at the front of a text, and what follows them. -/
def digits (text : List Char) : List Char × List Char :=
  (text.takeWhile isDecimal, text.dropWhile isDecimal)

/-- An exponent at the front of a text, if one is complete, and what follows it. -/
def exponentPart (text : List Char) : Int × List Char :=
  match text with
  | mark :: rest =>
    if mark = 'e' ∨ mark = 'E' then
      match digits (sign rest).2 with
      | ([], _) => (0, text)
      | (power, after) =>
        (if (sign rest).1 then -(digitsValue power : Int) else digitsValue power, after)
    else (0, text)
  | [] => (0, [])

/-- The point and the digits after it, if a point comes next. -/
def fractionPart (text : List Char) : Option (List Char × List Char) :=
  match text with
  | '.' :: rest => some (digits rest)
  | _ => none

/-- The digits of a numeral with at most one point: those before it, those after it, and what
follows. -/
def mantissa (text : List Char) : Option (List Char × List Char × List Char) :=
  match digits text with
  | ([], after) =>
    match fractionPart after with
    | some (first :: others, rest) => some ([], first :: others, rest)
    | _ => none
  | (whole, after) =>
    match fractionPart after with
    | some (fraction, rest) => some (whole, fraction, rest)
    | none => some (whole, [], after)

/-- The longest numeral at the front of a text, and what follows it. This is the leading float that
`INPUT` reads from an answer: each part takes as much as it can, and an exponent is taken only if it
is complete, with at least one digit. -/
def read (text : List Char) : Option (Numeral × List Char) :=
  match mantissa (sign text).2 with
  | none => none
  | some (whole, fraction, rest) =>
    some (⟨(sign text).1, whole, fraction, (exponentPart rest).1⟩, (exponentPart rest).2)

/-- The number at the start of a text, blanks before it left aside. -/
def leading? (text : String) : Option Float :=
  (read (trimStart text.toList)).map fun found => found.1.toFloat

/-! ### What is left after reading -/

/-- What follows a sign is an end of the text. -/
theorem suffix_sign (text : List Char) : (sign text).2 <:+ text := by
  unfold sign
  split
  · exact List.suffix_cons _ _
  · exact List.suffix_cons _ _
  · exact List.suffix_refl _

/-- What follows the digits is an end of the text. -/
theorem suffix_digits (text : List Char) : (digits text).2 <:+ text :=
  List.dropWhile_suffix _

/-- What follows an exponent is an end of the text. -/
theorem suffix_exponentPart (text : List Char) : (exponentPart text).2 <:+ text := by
  unfold exponentPart
  split
  · next mark rest =>
    split
    · split
      · exact List.suffix_refl _
      · next power after _ shape =>
        have : after = (digits (sign rest).2).2 := by rw [shape]
        rw [this]
        exact ((suffix_digits _).trans (suffix_sign rest)).trans (List.suffix_cons _ _)
    · exact List.suffix_refl _
  · exact List.suffix_refl _

/-- What follows the point and its digits is an end of the text. -/
theorem suffix_fractionPart {text fraction rest : List Char}
    (found : fractionPart text = some (fraction, rest)) : rest <:+ text := by
  unfold fractionPart at found
  split at found
  · next after =>
    have : rest = (digits after).2 := by injection found with same; rw [same]
    rw [this]
    exact (suffix_digits _).trans (List.suffix_cons _ _)
  · exact absurd found (by simp)

/-- What follows the digits of a numeral is an end of the text. -/
theorem suffix_mantissa {text whole fraction rest : List Char}
    (found : mantissa text = some (whole, fraction, rest)) : rest <:+ text := by
  unfold mantissa at found
  have start := suffix_digits text
  split at found
  · next after shape =>
    rw [shape] at start
    split at found
    · next first others rest' part =>
      obtain ⟨_, _, rfl⟩ : [] = whole ∧ first :: others = fraction ∧ rest' = rest := by
        simpa using found
      exact (suffix_fractionPart part).trans start
    · exact absurd found (by simp)
  · next digits' after _ shape =>
    rw [shape] at start
    split at found
    · next fraction' rest' part =>
      obtain ⟨_, _, rfl⟩ : digits' = whole ∧ fraction' = fraction ∧ rest' = rest := by
        simpa using found
      exact (suffix_fractionPart part).trans start
    · obtain ⟨_, _, rfl⟩ : digits' = whole ∧ [] = fraction ∧ after = rest := by
        simpa using found
      exact start

/-- A numeral is read off the front: what is left is an end of the text. -/
theorem rest_read {text rest : List Char} {numeral : Numeral}
    (found : read text = some (numeral, rest)) : rest <:+ text := by
  unfold read at found
  split at found
  · exact absurd found (by simp)
  · next whole fraction rest' part =>
    have : rest = (exponentPart rest').2 := by
      injection found with same
      injection same with _ same
      exact same.symm
    rw [this]
    exact ((suffix_exponentPart _).trans (suffix_mantissa part)).trans (suffix_sign text)

end Numeral

end LineBasic
