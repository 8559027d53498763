/-
**The longest numeral at the front of a text.**

A numeral is a sign that may be missing, digits with at most one point among them, at least one of
them, and an exponent that may be missing. What is read off the front of a text is a numeral that
no other one at the front goes beyond, and it is the float that the numeral is on its own. So a
half exponent is left, and a lone sign or point is nothing.

* `IsSign`, `IsMantissa`, `IsExponent`, `IsNumeral` — the spellings of numerals;
* `read_sound` — what is read is a numeral, which is read in the same way on its own;
* `read_reaches` — reading goes as far as any numeral at the front;
* `read_longest`, `leading?_eq_some_iff` — the number at the start of a text is its longest numeral.
-/

import LineBasic.Proofs.Spelling.Column
import LineBasic.Session.Activity

namespace LineBasic

open Text

namespace Numeral

/-! ### The spellings of numerals -/

/-- Decimal digits of any script. -/
def AreDecimals (text : List Char) : Prop :=
  ∀ c ∈ text, isDecimal c = true

/-- A sign, which may be missing. -/
inductive IsSign : List Char → Bool → Prop where
  | none : IsSign [] false
  | plus : IsSign ['+'] false
  | minus : IsSign ['-'] true

/-- Digits with at most one point among them, those before it and those after it. -/
inductive IsMantissa : List Char → List Char → List Char → Prop where
  | whole {whole : List Char} (some : whole ≠ []) (decimals : AreDecimals whole) :
      IsMantissa whole whole []
  | point {whole fraction : List Char} (some : whole ≠ []) (decimals : AreDecimals whole)
      (decimals' : AreDecimals fraction) : IsMantissa (whole ++ '.' :: fraction) whole fraction
  | fraction {fraction : List Char} (some : fraction ≠ []) (decimals : AreDecimals fraction) :
      IsMantissa ('.' :: fraction) [] fraction

/-- An exponent, which may be missing. -/
inductive IsExponent : List Char → Int → Prop where
  | none : IsExponent [] 0
  | power {mark : Char} {sign power : List Char} {negative : Bool}
      (isMark : mark = 'e' ∨ mark = 'E') (isSign : IsSign sign negative) (some : power ≠ []) (decimals : AreDecimals power) :
      IsExponent (mark :: (sign ++ power))
        (if negative then -(digitsValue power : Int) else digitsValue power)

/-- A text that spells a numeral. -/
inductive Spells : List Char → Numeral → Prop where
  | mk {sign digits exponent : List Char} {numeral : Numeral}
      (isSign : IsSign sign numeral.negative)
      (isMantissa : IsMantissa digits numeral.whole numeral.fraction)
      (isExponent : IsExponent exponent numeral.exponent) :
      Spells (sign ++ (digits ++ exponent)) numeral

/-! ### What is read is a numeral -/

section Sound

variable {text rest : List Char}

theorem sign_sound (text : List Char) :
    ∃ taken, text = taken ++ (sign text).2 ∧ IsSign taken (sign text).1 := by
  unfold sign
  split
  · exact ⟨['+'], rfl, .plus⟩
  · exact ⟨['-'], rfl, .minus⟩
  · exact ⟨[], rfl, .none⟩

theorem digits_sound (text : List Char) :
    text = (digits text).1 ++ (digits text).2 ∧ AreDecimals (digits text).1 :=
  ⟨List.takeWhile_append_dropWhile.symm, fun _ member => List.mem_takeWhile_imp member⟩

theorem exponentPart_sound (text : List Char) :
    ∃ taken, text = taken ++ (exponentPart text).2 ∧ IsExponent taken (exponentPart text).1 := by
  unfold exponentPart
  split
  · next mark behind =>
    split
    · next isMark =>
      obtain ⟨signed, shape, isSign⟩ := sign_sound behind
      obtain ⟨shape', decimals⟩ := digits_sound (sign behind).2
      split
      · exact ⟨[], rfl, .none⟩
      · next power after some split =>
        rw [split] at shape' decimals
        refine ⟨mark :: (signed ++ power), ?_, .power isMark isSign some decimals⟩
        rw [List.cons_append, List.append_assoc, ← shape', ← shape]
    · exact ⟨[], rfl, .none⟩
  · exact ⟨[], rfl, .none⟩

theorem fractionPart_sound {fraction : List Char}
    (found : fractionPart text = some (fraction, rest)) :
    text = '.' :: (fraction ++ rest) ∧ AreDecimals fraction := by
  unfold fractionPart at found
  split at found
  · next behind =>
    obtain ⟨shape, decimals⟩ := digits_sound behind
    cases found
    exact ⟨congrArg _ shape, decimals⟩
  · cases found

theorem mantissa_sound {whole fraction : List Char}
    (found : mantissa text = some (whole, fraction, rest)) :
    ∃ taken, text = taken ++ rest ∧ IsMantissa taken whole fraction := by
  obtain ⟨shape, decimals⟩ := digits_sound text
  unfold mantissa at found
  split at found
  · next after front =>
    rw [front] at shape
    split at found
    · next first others behind part =>
      obtain ⟨shape', decimals'⟩ := fractionPart_sound part
      cases found
      exact ⟨'.' :: first :: others, shape.trans shape', .fraction (List.cons_ne_nil _ _) decimals'⟩
    · cases found
  · next before after someDigits front =>
    rw [front] at shape decimals
    split at found
    · next behind rest' part =>
      obtain ⟨shape', decimals'⟩ := fractionPart_sound part
      cases found
      refine ⟨whole ++ '.' :: fraction, ?_, .point someDigits decimals decimals'⟩
      rw [shape, shape', List.append_assoc, List.cons_append]
    · cases found
      exact ⟨whole, shape, .whole someDigits decimals⟩

/-- **What is read is a numeral** at the front of the text. -/
theorem read_sound {numeral : Numeral} (found : read text = some (numeral, rest)) :
    ∃ taken, text = taken ++ rest ∧ Spells taken numeral := by
  obtain ⟨signed, shape, isSign⟩ := sign_sound text
  unfold read at found
  split at found
  · cases found
  · next whole fraction behind part =>
    obtain ⟨taken, shape', isMantissa⟩ := mantissa_sound part
    obtain ⟨marked, shape'', isExponent⟩ := exponentPart_sound behind
    cases found
    refine ⟨signed ++ (taken ++ marked), ?_, .mk isSign isMantissa isExponent⟩
    rw [List.append_assoc, List.append_assoc, ← shape'', ← shape', ← shape]

end Sound

/-! ### Reading goes as far as any numeral -/

section Reach

variable {behind : List Char}

theorem digits_append {decimals : List Char} (areDecimals : AreDecimals decimals)
    (behind : List Char) :
    digits (decimals ++ behind) = (decimals ++ (digits behind).1, (digits behind).2) := by
  unfold digits
  rw [List.takeWhile_append_of_pos areDecimals, List.dropWhile_append_of_pos areDecimals]

/-- No decimal digit stands at the front of the text. -/
def Halts (text : List Char) : Prop :=
  ∀ c, text.head? = some c → isDecimal c = false

theorem digits_halted (halts : Halts behind) : digits behind = ([], behind) := by
  unfold digits
  obtain ⟨taken, left⟩ := takeWhile_ended (List.forall_mem_nil _) halts
  rw [List.nil_append] at taken left
  rw [taken, left]

theorem halts_point (behind : List Char) : Halts ('.' :: behind) := by
  rintro c ⟨⟩
  decide

theorem mantissa_whole {text whole after : List Char} (some : whole ≠ [])
    (front : digits text = (whole, after)) (point : fractionPart after = none) :
    mantissa text = .some (whole, [], after) := by
  obtain ⟨first, others, rfl⟩ := List.exists_cons_of_ne_nil some
  unfold mantissa
  rw [front]
  simp only [point]

theorem mantissa_point {text whole after fraction rest : List Char} (some : whole ≠ [])
    (front : digits text = (whole, after)) (point : fractionPart after = .some (fraction, rest)) :
    mantissa text = .some (whole, fraction, rest) := by
  obtain ⟨first, others, rfl⟩ := List.exists_cons_of_ne_nil some
  unfold mantissa
  rw [front]
  simp only [point]

theorem mantissa_fraction {fraction after : List Char} (some : fraction ≠ [])
    (front : digits behind = (fraction, after)) :
    mantissa ('.' :: behind) = .some ([], fraction, after) := by
  have point := digits_halted (halts_point behind)
  obtain ⟨first, others, rfl⟩ := List.exists_cons_of_ne_nil some
  unfold mantissa
  rw [point]
  simp only [fractionPart, front]

/-- A mantissa is read as it stands in front of what cannot go on with it. -/
theorem mantissa_spelled {taken whole fraction : List Char}
    (isMantissa : IsMantissa taken whole fraction) (halts : Halts behind)
    (noPoint : fractionPart behind = none) :
    mantissa (taken ++ behind) = some (whole, fraction, behind) := by
  have stop := digits_halted halts
  cases isMantissa with
  | whole some decimals =>
    have front := digits_append decimals behind
    rw [stop, List.append_nil] at front
    exact mantissa_whole some front noPoint
  | point some decimals decimals' =>
    have front := digits_append decimals ('.' :: (fraction ++ behind))
    rw [digits_halted (halts_point _), List.append_nil] at front
    have back := digits_append decimals' behind
    rw [stop, List.append_nil] at back
    rw [List.append_assoc, List.cons_append]
    exact mantissa_point some front (by simp only [fractionPart, back])
  | fraction some decimals =>
    have back := digits_append decimals behind
    rw [stop, List.append_nil] at back
    exact mantissa_fraction some back

/-- Reading goes on behind a mantissa, if at all. -/
theorem mantissa_reaches {taken whole fraction : List Char}
    (isMantissa : IsMantissa taken whole fraction) (behind : List Char) :
    ∃ whole' fraction' rest, mantissa (taken ++ behind) = some (whole', fraction', rest) ∧
      rest <:+ behind := by
  have onward := suffix_digits behind
  cases isMantissa with
  | whole isSome decimals =>
    have isSome' : taken ++ (digits behind).1 ≠ [] := List.append_ne_nil_of_left_ne_nil isSome _
    have front := digits_append decimals behind
    rcases point : fractionPart (digits behind).2 with _ | ⟨fraction, rest⟩
    · exact ⟨_, _, _, mantissa_whole isSome' front point, onward⟩
    · exact ⟨_, _, _, mantissa_point isSome' front point, (suffix_fractionPart point).trans onward⟩
  | point isSome decimals decimals' =>
    have front := digits_append decimals ('.' :: (fraction ++ behind))
    rw [digits_halted (halts_point _), List.append_nil] at front
    rw [List.append_assoc, List.cons_append]
    have point : fractionPart ('.' :: (fraction ++ behind)) =
        .some (fraction ++ (digits behind).1, (digits behind).2) := by
      simp only [fractionPart, digits_append decimals' behind]
    exact ⟨_, _, _, mantissa_point isSome front point, onward⟩
  | fraction isSome decimals =>
    have isSome' : fraction ++ (digits behind).1 ≠ [] := List.append_ne_nil_of_left_ne_nil isSome _
    rw [List.cons_append, mantissa_fraction isSome' (digits_append decimals behind)]
    exact ⟨_, _, _, rfl, onward⟩

/-- A digit or the point stands at the front of a mantissa. -/
theorem IsMantissa.front {taken whole fraction : List Char}
    (isMantissa : IsMantissa taken whole fraction) :
    ∃ c rest, taken = c :: rest ∧ (isDecimal c = true ∨ c = '.') := by
  cases isMantissa with
  | whole some decimals =>
    obtain ⟨c, others, rfl⟩ := List.exists_cons_of_ne_nil some
    exact ⟨c, others, rfl, .inl (decimals c List.mem_cons_self)⟩
  | point some decimals decimals' =>
    obtain ⟨c, others, rfl⟩ := List.exists_cons_of_ne_nil some
    exact ⟨c, _, rfl, .inl (decimals c List.mem_cons_self)⟩
  | fraction some decimals => exact ⟨'.', _, rfl, .inr rfl⟩

theorem sign_spelled {signed : List Char} {negative : Bool} (isSign : IsSign signed negative)
    {c : Char} (front : isDecimal c = true ∨ c = '.') (behind : List Char) :
    sign (signed ++ c :: behind) = (negative, c :: behind) := by
  cases isSign with
  | none =>
    rw [List.nil_append, sign]
    · rintro rest ⟨⟩
      revert front
      decide
    · rintro rest ⟨⟩
      revert front
      decide
  | plus => rfl
  | minus => rfl

theorem exponentPart_power {mark : Char} {signed power after : List Char} {negative : Bool}
    (isMark : mark = 'e' ∨ mark = 'E') (isSign : IsSign signed negative) (some : power ≠ [])
    (front : digits behind = (power, after)) :
    exponentPart (mark :: (signed ++ behind)) =
      (if negative then -(digitsValue power : Int) else digitsValue power, after) := by
  obtain ⟨shape, decimals⟩ := digits_sound behind
  rw [front] at shape decimals
  obtain ⟨c, others, rfl⟩ := List.exists_cons_of_ne_nil some
  have digit := decimals c List.mem_cons_self
  have unsigned : sign (signed ++ behind) = (negative, behind) := by
    rw [shape]
    exact sign_spelled isSign (.inl digit) _
  simp only [exponentPart, isMark, if_true, unsigned, front]

/-- An exponent is read with all the digits that stand behind it. -/
theorem exponentPart_reaches {taken : List Char} {exponent : Int}
    (isExponent : IsExponent taken exponent) (behind : List Char) :
    (exponentPart (taken ++ behind)).2 <:+ behind := by
  cases isExponent with
  | none => exact suffix_exponentPart behind
  | @power mark signed power negative isMark isSign some decimals =>
    have some' : power ++ (digits behind).1 ≠ [] := List.append_ne_nil_of_left_ne_nil some _
    have front := digits_append decimals behind
    rw [List.cons_append, List.append_assoc, exponentPart_power isMark isSign some' front]
    exact suffix_digits behind

theorem exponentPart_spelled {taken : List Char} {exponent : Int}
    (isExponent : IsExponent taken exponent) : exponentPart taken = (exponent, []) := by
  cases isExponent with
  | none => rfl
  | @power mark signed power negative isMark isSign some decimals =>
    have front : digits power = (power, []) := by
      have whole := digits_append decimals []
      have nothing : digits [] = ([], []) := rfl
      rwa [nothing, List.append_nil] at whole
    exact exponentPart_power isMark isSign some front

/-- Behind a mantissa, an exponent cannot go on with its digits. -/
theorem IsExponent.halts {taken : List Char} {exponent : Int}
    (isExponent : IsExponent taken exponent) (some : taken ≠ []) (behind : List Char) :
    Halts (taken ++ behind) ∧ fractionPart (taken ++ behind) = .none := by
  cases isExponent with
  | none => exact absurd rfl some
  | power isMark _ _ _ =>
    rcases isMark with rfl | rfl
    · refine ⟨?_, rfl⟩
      rintro c ⟨⟩
      decide
    · refine ⟨?_, rfl⟩
      rintro c ⟨⟩
      decide

/-- What is read behind a sign. -/
theorem read_signed {signed text : List Char} {negative : Bool} (isSign : IsSign signed negative)
    {c : Char} {others : List Char} (shape : text = c :: others)
    (front : isDecimal c = true ∨ c = '.') :
    read (signed ++ text) = (mantissa text).map fun (whole, fraction, rest) =>
      (⟨negative, whole, fraction, (exponentPart rest).1⟩, (exponentPart rest).2) := by
  rw [shape]
  unfold read
  rw [sign_spelled isSign front]
  rcases mantissa (c :: others) with _ | ⟨whole, fraction, rest⟩ <;> rfl

/-- **Reading goes as far as any numeral** at the front of the text. -/
theorem read_reaches {taken : List Char} {numeral : Numeral} (spells : Spells taken numeral)
    (behind : List Char) :
    ∃ numeral' rest, read (taken ++ behind) = some (numeral', rest) ∧ rest <:+ behind := by
  obtain @⟨signed, spelled, exponent, _, isSign, isMantissa, isExponent⟩ := spells
  obtain ⟨c, others, shape, front⟩ := isMantissa.front
  have shape' : spelled ++ (exponent ++ behind) = c :: (others ++ (exponent ++ behind)) := by
    rw [shape, List.cons_append]
  rw [List.append_assoc, List.append_assoc, read_signed isSign shape' front]
  by_cases unmarked : exponent = []
  · rw [unmarked, List.nil_append]
    obtain ⟨whole, fraction, rest, found, onward⟩ := mantissa_reaches isMantissa behind
    rw [found]
    exact ⟨_, _, rfl, (suffix_exponentPart rest).trans onward⟩
  · obtain ⟨halts, noPoint⟩ := isExponent.halts unmarked behind
    rw [mantissa_spelled isMantissa halts noPoint]
    exact ⟨_, _, rfl, exponentPart_reaches isExponent behind⟩

/-- A numeral is read as it stands. -/
theorem read_spelled {taken : List Char} {numeral : Numeral} (spells : Spells taken numeral) :
    read taken = some (numeral, []) := by
  obtain @⟨signed, spelled, exponent, _, isSign, isMantissa, isExponent⟩ := spells
  obtain ⟨c, others, shape, front⟩ := isMantissa.front
  have shape' : spelled ++ exponent = c :: (others ++ exponent) := by
    rw [shape, List.cons_append]
  have found : mantissa (spelled ++ exponent) =
      some (numeral.whole, numeral.fraction, exponent) := by
    by_cases unmarked : exponent = []
    · subst unmarked
      exact mantissa_spelled isMantissa nofun rfl
    · obtain ⟨halts, noPoint⟩ := isExponent.halts unmarked []
      rw [List.append_nil] at halts noPoint
      exact mantissa_spelled isMantissa halts noPoint
  rw [read_signed isSign shape' front, found]
  simp only [Option.map_some, exponentPart_spelled isExponent]

end Reach

/-! ### Numerals on their own -/

/-- The characters of numerals. -/
def IsPlain (c : Char) : Prop :=
  isDecimal c = true ∨ c ∈ ['+', '-', '.', 'e', 'E']

theorem IsSign.plain {signed : List Char} {negative : Bool} (isSign : IsSign signed negative) :
    ∀ c ∈ signed, IsPlain c := by
  cases isSign with
  | none => exact List.forall_mem_nil _
  | plus => exact List.forall_mem_singleton.mpr (.inr (by decide))
  | minus => exact List.forall_mem_singleton.mpr (.inr (by decide))

theorem AreDecimals.plain {text : List Char} (decimals : AreDecimals text) :
    ∀ c ∈ text, IsPlain c :=
  fun c member => .inl (decimals c member)

theorem IsMantissa.plain {taken whole fraction : List Char}
    (isMantissa : IsMantissa taken whole fraction) : ∀ c ∈ taken, IsPlain c := by
  have point : IsPlain '.' := .inr (by decide)
  cases isMantissa with
  | whole _ decimals => exact decimals.plain
  | point _ decimals decimals' =>
    rw [List.forall_mem_append, List.forall_mem_cons]
    exact ⟨decimals.plain, point, decimals'.plain⟩
  | fraction _ decimals =>
    rw [List.forall_mem_cons]
    exact ⟨point, decimals.plain⟩

theorem IsExponent.plain {taken : List Char} {exponent : Int}
    (isExponent : IsExponent taken exponent) : ∀ c ∈ taken, IsPlain c := by
  cases isExponent with
  | none => exact List.forall_mem_nil _
  | power isMark isSign _ decimals =>
    rw [List.forall_mem_cons, List.forall_mem_append]
    refine ⟨.inr ?_, isSign.plain, decimals.plain⟩
    rcases isMark with rfl | rfl <;> decide

theorem Spells.plain {text : List Char} {numeral : Numeral} (spells : Spells text numeral) :
    ∀ c ∈ text, IsPlain c := by
  obtain ⟨isSign, isMantissa, isExponent⟩ := spells
  rw [List.forall_mem_append, List.forall_mem_append]
  exact ⟨isSign.plain, isMantissa.plain, isExponent.plain⟩

theorem not_isBlank_of_isDecimal {c : Char} (decimal : isDecimal c = true) : isBlank c = false := by
  rcases digit : isDigit c
  · exact (apart_of_isDecimal decimal digit).2
  · exact not_isBlank_of_isDigit digit

theorem IsPlain.inked {c : Char} (plain : IsPlain c) : isBlank c = false ∧ c ≠ '_' := by
  rcases plain with decimal | member
  · refine ⟨not_isBlank_of_isDecimal decimal, ?_⟩
    rintro rfl
    revert decimal
    decide
  · simp only [List.mem_cons, List.not_mem_nil, or_false] at member
    rcases member with rfl | rfl | rfl | rfl | rfl <;> decide

/-- A numeral is a float, as it is when it is handed over as a whole. -/
theorem Spells.real? {text : List Char} {numeral : Numeral} (spells : Spells text numeral) :
    Spelled.real? (String.ofList text) = some numeral.toFloat :=
  Spelled.real?_of_read (fun c member => (spells.plain c member).inked.1)
    (fun member => (spells.plain _ member).inked.2 rfl) (read_spelled spells)

/-! ### The longest numeral -/

/-- A text that is a numeral. -/
def IsNumeral (text : List Char) : Prop :=
  ∃ numeral, Spells text numeral

/-- The longest numeral at the front of a text. -/
structure IsLongest (numeral text : List Char) : Prop where
  isNumeral : IsNumeral numeral
  front : numeral <+: text
  longest : ∀ other, other <+: text → IsNumeral other → other.length ≤ numeral.length

theorem IsLongest.unique {numeral other text : List Char} (longest : IsLongest numeral text)
    (longest' : IsLongest other text) : numeral = other := by
  have sameLength := Nat.le_antisymm (longest'.longest numeral longest.front longest.isNumeral)
    (longest.longest other longest'.front longest'.isNumeral)
  exact (List.prefix_of_prefix_length_le longest.front longest'.front sameLength.le).eq_of_length
    sameLength

/-- What is read is the longest numeral at the front. -/
theorem read_longest {text rest : List Char} {numeral : Numeral}
    (found : read text = some (numeral, rest)) :
    ∃ front, IsLongest front text ∧ Spells front numeral := by
  obtain ⟨taken, shape, spells⟩ := read_sound found
  refine ⟨taken, ⟨⟨numeral, spells⟩, ⟨rest, shape.symm⟩, ?_⟩, spells⟩
  rintro other ⟨behind, shape'⟩ ⟨otherNumeral, otherSpells⟩
  obtain ⟨_, _, found', onward⟩ := read_reaches otherSpells behind
  rw [shape', found] at found'
  cases found'
  have lengths := congrArg List.length (shape'.trans shape)
  rw [List.length_append, List.length_append] at lengths
  have shorter := onward.length_le
  omega

/-- Something is read if a numeral stands at the front. -/
theorem read_eq_none_iff (text : List Char) :
    read text = none ↔ ∀ front, front <+: text → ¬IsNumeral front := by
  constructor
  · rintro nothing front ⟨behind, rfl⟩ ⟨numeral, spells⟩
    obtain ⟨_, _, found, _⟩ := read_reaches spells behind
    rw [nothing] at found
    cases found
  · intro noNumeral
    rcases found : read text with _ | ⟨numeral, rest⟩
    · rfl
    · obtain ⟨front, longest, _⟩ := read_longest found
      exact absurd longest.isNumeral (noNumeral front longest.front)

/-- **The number at the start of a text is its longest numeral**, as it is when it is handed over
as a whole. -/
theorem leading?_eq_some_iff (text : String) (x : Float) :
    leading? text = some x ↔ ∃ front, IsLongest front (trimStart text.toList) ∧
      Spelled.real? (String.ofList front) = some x := by
  unfold leading?
  rcases found : read (trimStart text.toList) with _ | ⟨numeral, rest⟩
  · refine iff_of_false nofun ?_
    rintro ⟨front, longest, _⟩
    exact (read_eq_none_iff _).mp found front longest.front longest.isNumeral
  · obtain ⟨front, longest, spells⟩ := read_longest found
    rw [Option.map_some]
    constructor
    · rintro ⟨⟩
      exact ⟨front, longest, spells.real?⟩
    · rintro ⟨other, longest', isFloat⟩
      rw [← longest.unique longest', spells.real?] at isFloat
      exact isFloat

end Numeral

open Numeral (IsNumeral IsLongest)

/-- **A number that is typed in is the longest numeral at the start of the line.** There is none
only if no numeral stands behind the blanks at its front, and then what waits for a number fails;
any other time the longest one there is a float on its own, and this is the number. -/
theorem Session.answer_longest (text : String) :
    (Numeral.leading? text = none ↔
      ∀ front, front <+: trimStart text.toList → ¬IsNumeral front) ∧
    (∀ x, Numeral.leading? text = some x ↔ ∃ front, IsLongest front (trimStart text.toList) ∧
      Spelled.real? (String.ofList front) = some x) ∧
    ∀ (session : Session) (activity : Activity) (prompt name : String),
      activity.stage = .awaiting prompt name → Value.isTextName name = false →
        ((∀ front, front <+: trimStart text.toList → ¬IsNumeral front) →
          session.answer activity text = (session, activity.failing .typeMismatch)) ∧
        ∀ front x, IsLongest front (trimStart text.toList) →
          Spelled.real? (String.ofList front) = some x →
            session.answer activity text =
              (session.assign name (.real x), activity.inStage .completed) := by
  have none_iff : Numeral.leading? text = none ↔ _ :=
    Option.map_eq_none_iff.trans (Numeral.read_eq_none_iff (trimStart text.toList))
  refine ⟨none_iff, Numeral.leading?_eq_some_iff text, ?_⟩
  intro session activity prompt name waits isNumber
  constructor
  · intro noNumeral
    have nothing := none_iff.mpr noNumeral
    unfold answer
    rw [waits]
    simp only [isNumber, Bool.false_eq_true, if_false, nothing]
  · intro front x longest isFloat
    have found := (Numeral.leading?_eq_some_iff text x).mpr ⟨front, longest, isFloat⟩
    unfold answer
    rw [waits]
    simp only [isNumber, Bool.false_eq_true, if_false, found]

/-- Half an exponent is left. -/
theorem Session.answer_longest_half :
    ∃ front, IsLongest front (trimStart " 1e+".toList) ∧
      Spelled.real? (String.ofList front) = some (Numeral.toFloat ⟨false, ['1'], [], 0⟩) ∧
      Session.fresh.answer ⟨true, none, .awaiting "? " "A"⟩ " 1e+" =
        (Session.fresh.assign "A" (.real (Numeral.toFloat ⟨false, ['1'], [], 0⟩)),
          ⟨true, none, .completed⟩) := by
  have found : Numeral.leading? " 1e+" = some (Numeral.toFloat ⟨false, ['1'], [], 0⟩) := by
    have taken : Numeral.read (trimStart " 1e+".toList) =
        some (⟨false, ['1'], [], 0⟩, ['e', '+']) := by
      decide
    unfold Numeral.leading?
    rw [taken]
    rfl
  obtain ⟨-, isRead, answers⟩ := Session.answer_longest " 1e+"
  obtain ⟨front, longest, isFloat⟩ := (isRead _).mp found
  obtain ⟨-, answered⟩ := answers .fresh ⟨true, none, .awaiting "? " "A"⟩ "? " "A" rfl (by decide)
  exact ⟨front, longest, isFloat, answered front _ longest isFloat⟩

end LineBasic
