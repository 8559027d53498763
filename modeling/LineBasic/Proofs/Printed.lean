/-
**Numbers that are shown are read back.**

A number is shown as one numeral: an integer or a whole float by its digits, any other float with a
point or an exponent. Nothing that cannot go on with a numeral changes how far reading goes. The
digits shown are worth the decimal that was found for the float, so what is read is the float again.

* `Foreign`, `read_foreign` — a numeral is read whole in front of what it does not go on with;
* `SpellsDecimal`, `positional_spelled`, `exponential_spelled` — how decimals are laid out;
* `shown_spelled` — a finite float is shown as a numeral that is the float;
* `Number.shown_readBack` — what is shown for a number is read back.
-/

import LineBasic.Number.Written
import LineBasic.Proofs.Leading
import LineBasic.Proofs.Rounding.Exact
import LineBasic.Proofs.Rounding.Shortest
import LineBasic.Proofs.Spelling.Denote

namespace LineBasic

open Text
open Rounding
open Float.Model (UnpackedFloat)
open Float.Model.UnpackedFloat (Sign)

namespace Numeral

/-! ### Numerals in front of other text -/

/-- A text whose first character no numeral goes on with. -/
def Foreign (text : List Char) : Prop :=
  ∀ c, text.head? = some c → isDecimal c = false ∧ c ≠ '.' ∧ c ≠ 'e' ∧ c ≠ 'E'

section Foreign

variable {taken behind : List Char} {numeral : Numeral}

theorem Foreign.halts (foreign : Foreign behind) : Halts behind :=
  fun c first => (foreign c first).1

theorem Foreign.fractionPart (foreign : Foreign behind) : fractionPart behind = none := by
  unfold Numeral.fractionPart
  split
  · exact absurd rfl (foreign '.' rfl).2.1
  · rfl

theorem exponentPart_foreign {exponent : Int} (isExponent : IsExponent taken exponent)
    (foreign : Foreign behind) : exponentPart (taken ++ behind) = (exponent, behind) := by
  cases isExponent with
  | none =>
    rw [List.nil_append]
    unfold exponentPart
    split
    · next mark rest =>
      have unmarked := (foreign mark rfl).2.2
      rw [if_neg (not_or.mpr unmarked)]
    · rfl
  | @power mark signed power negative isMark isSign some decimals =>
    have front := digits_append decimals behind
    rw [digits_halted foreign.halts, List.append_nil] at front
    rw [List.cons_append, List.append_assoc]
    exact exponentPart_power isMark isSign some front

/-- **A numeral is read whole in front of what it does not go on with.** -/
theorem read_foreign (spells : Spells taken numeral) (foreign : Foreign behind) :
    read (taken ++ behind) = some (numeral, behind) := by
  obtain @⟨signed, spelled, exponent, _, isSign, isMantissa, isExponent⟩ := spells
  obtain ⟨c, others, shape, front⟩ := isMantissa.front
  have shape' : spelled ++ (exponent ++ behind) = c :: (others ++ (exponent ++ behind)) := by
    rw [shape, List.cons_append]
  have found : mantissa (spelled ++ (exponent ++ behind)) =
      some (numeral.whole, numeral.fraction, exponent ++ behind) := by
    by_cases unmarked : exponent = []
    · subst unmarked
      exact mantissa_spelled isMantissa foreign.halts foreign.fractionPart
    · obtain ⟨halts, noPoint⟩ := isExponent.halts unmarked behind
      exact mantissa_spelled isMantissa halts noPoint
  rw [List.append_assoc, List.append_assoc, read_signed isSign shape' front, found]
  simp only [Option.map_some, exponentPart_foreign isExponent foreign]

/-- No blanks stand in front of a numeral. -/
theorem trimStart_spelled (spells : Spells taken numeral) (behind : List Char) :
    trimStart (taken ++ behind) = taken ++ behind := by
  have plain := spells.plain
  obtain @⟨signed, spelled, exponent, _, isSign, isMantissa, isExponent⟩ := spells
  obtain ⟨c, others, shape, front⟩ := isMantissa.front
  rcases first : signed ++ (spelled ++ exponent) with _ | ⟨d, rest⟩
  · rw [shape] at first
    simp at first
  · rw [first] at plain
    exact List.dropWhile_cons_of_neg (by rw [(plain d List.mem_cons_self).inked.1]; decide)

end Foreign

/-! ### Digits and zeros -/

section Digits

theorem areDecimals_zeros (zeros : ℕ) : AreDecimals (List.replicate zeros '0') := by
  intro c member
  rw [List.eq_of_mem_replicate member]
  decide

theorem AreDecimals.append {digits others : List Char} (decimals : AreDecimals digits)
    (decimals' : AreDecimals others) : AreDecimals (digits ++ others) :=
  List.forall_mem_append.mpr ⟨decimals, decimals'⟩

theorem areDecimals_toDigits (n : ℕ) : AreDecimals (Nat.toDigits 10 n) :=
  fun _ member => isDecimal_of_isDigit (isDigit_of_mem_toDigits member)

theorem foldl_zeros (zeros start : ℕ) :
    (List.replicate zeros '0').foldl (fun number c => 10 * number + (digitValue? c).getD 0) start =
      start * 10 ^ zeros := by
  have zero : digitValue? '0' = some 0 := by decide
  induction zeros generalizing start with
  | zero => rw [List.replicate_zero, List.foldl_nil, pow_zero, mul_one]
  | succ zeros hypothesis =>
    rw [List.replicate_succ, List.foldl_cons, hypothesis, zero, Option.getD_some, pow_succ']
    ring

theorem digitsValue_zeros_behind (digits : List Char) (zeros : ℕ) :
    digitsValue (digits ++ List.replicate zeros '0') = digitsValue digits * 10 ^ zeros := by
  unfold digitsValue
  rw [List.foldl_append, foldl_zeros]

theorem digitsValue_zeros_front (digits : List Char) (zeros : ℕ) :
    digitsValue (List.replicate zeros '0' ++ digits) = digitsValue digits := by
  unfold digitsValue
  rw [List.foldl_append, foldl_zeros, zero_mul]

end Digits

/-! ### Decimals as they are laid out -/

/-- A text that spells a decimal behind a sign or without one. -/
def SpellsDecimal (text : List Char) (d : Decimal) : Prop :=
  ∀ signed negative, IsSign signed negative →
    ∃ numeral, Spells (signed ++ text) numeral ∧ numeral.negative = negative ∧
      numeral.toDecimal = d

section Layout

variable {digits : List Char} {leading : Int}

theorem spellsDecimal {spelled marked whole fraction : List Char} {exponent : Int} {d : Decimal}
    (isMantissa : IsMantissa spelled whole fraction) (isExponent : IsExponent marked exponent)
    (value : digitsValue (whole ++ fraction) = d.digits)
    (power : exponent - fraction.length = d.exponent) : SpellsDecimal (spelled ++ marked) d := by
  intro signed negative isSign
  refine ⟨⟨negative, whole, fraction, exponent⟩, .mk isSign isMantissa isExponent, rfl, ?_⟩
  rw [toDecimal, value, power]

/-- Digits that end before the point: zeros fill them up, and one more stands behind it. -/
theorem ended_spelled (some : digits ≠ []) (decimals : AreDecimals digits) (places : ℕ) :
    SpellsDecimal (String.ofList (digits ++ List.replicate (places + 1 - digits.length) '0') ++
      plainLayout.wholeEnd).toList
      ⟨digitsValue digits * 10 ^ (places + 1 - digits.length + 1), -1⟩ := by
  have text : (String.ofList (digits ++ List.replicate (places + 1 - digits.length) '0') ++
      plainLayout.wholeEnd).toList =
        ((digits ++ List.replicate (places + 1 - digits.length) '0') ++ ['.', '0']) ++ [] := by
    rw [String.toList_append, String.toList_ofList, List.append_nil]
    rfl
  rw [text]
  refine spellsDecimal (.point (List.append_ne_nil_of_left_ne_nil some _)
    (decimals.append (areDecimals_zeros _)) (areDecimals_zeros 1)) .none ?_ rfl
  rw [List.append_assoc, ← List.replicate_succ', digitsValue_zeros_behind]

/-- Digits on both sides of the point. -/
theorem parted_spelled (decimals : AreDecimals digits) {places : ℕ}
    (long : places + 1 < digits.length) :
    SpellsDecimal (String.ofList (digits.take (places + 1)) ++ "." ++
      String.ofList (digits.drop (places + 1))).toList
      ⟨digitsValue digits, places - digits.length + 1⟩ := by
  have text : (String.ofList (digits.take (places + 1)) ++ "." ++
      String.ofList (digits.drop (places + 1))).toList =
        (digits.take (places + 1) ++ '.' :: digits.drop (places + 1)) ++ [] := by
    simp only [String.toList_append, String.toList_ofList, List.append_nil, List.append_assoc]
    rfl
  rw [text]
  refine spellsDecimal (.point ?_ (fun c member => decimals c (List.mem_of_mem_take member))
    (fun c member => decimals c (List.mem_of_mem_drop member))) .none ?_ ?_
  · exact List.length_pos_iff.mp (by rw [List.length_take]; omega)
  · rw [List.take_append_drop]
  · simp only [List.length_drop]
    omega

/-- Digits behind the point only, with zeros in front of them. -/
theorem fraction_spelled (decimals : AreDecimals digits) (places : ℕ) :
    SpellsDecimal ("0." ++ String.ofList (List.replicate places '0' ++ digits)).toList
      ⟨digitsValue digits, -(places + digits.length)⟩ := by
  have text : ("0." ++ String.ofList (List.replicate places '0' ++ digits)).toList =
      (['0'] ++ '.' :: (List.replicate places '0' ++ digits)) ++ [] := by
    simp only [String.toList_append, String.toList_ofList, List.append_nil]
    rfl
  rw [text]
  refine spellsDecimal (.point (List.cons_ne_nil _ _) (areDecimals_zeros 1)
    ((areDecimals_zeros places).append decimals)) .none ?_ ?_
  · rw [← List.append_assoc]
    exact digitsValue_zeros_front digits (places + 1)
  · simp only [List.length_append, List.length_replicate]
    omega

/-- **With a point**: zeros behind the digits may make up for the power of ten. -/
theorem positional_spelled (some : digits ≠ []) (decimals : AreDecimals digits)
    (few : leading < 16) :
    ∃ zeros : ℕ, zeros ≤ 17 ∧ SpellsDecimal (plainLayout.positional digits leading).toList
      ⟨digitsValue digits * 10 ^ zeros, leading - digits.length + 1 - zeros⟩ := by
  have length : 0 < digits.length := List.length_pos_of_ne_nil some
  unfold Layout.positional
  cases leading with
  | ofNat places =>
    simp only [Int.ofNat_eq_natCast] at few ⊢
    split
    · refine ⟨places + 1 - digits.length + 1, by omega, ?_⟩
      have power :
          (places : ℤ) - digits.length + 1 - (places + 1 - digits.length + 1 : ℕ) = -1 := by
        omega
      rw [power]
      exact ended_spelled some decimals places
    · next long =>
      refine ⟨0, Nat.zero_le _, ?_⟩
      rw [pow_zero, mul_one, Nat.cast_zero, sub_zero]
      exact parted_spelled decimals (Nat.lt_of_not_le long)
  | negSucc places =>
    refine ⟨0, Nat.zero_le _, ?_⟩
    have power : Int.negSucc places - digits.length + 1 - (0 : ℕ) = -(places + digits.length) := by
      omega
    rw [power, pow_zero, mul_one]
    exact fraction_spelled decimals places

/-- The digits of an exponent. -/
theorem padded_spelled (width n : ℕ) :
    (Layout.padded width n).toList ≠ [] ∧ AreDecimals (Layout.padded width n).toList ∧
      digitsValue (Layout.padded width n).toList = n := by
  unfold Layout.padded
  rw [String.toList_ofList]
  exact ⟨List.append_ne_nil_of_right_ne_nil _ Nat.toDigits_ne_nil,
    (areDecimals_zeros _).append (areDecimals_toDigits n),
    (digitsValue_zeros_front _ _).trans (digitsValue_toDigits n)⟩

theorem isExponent_padded (leading : Int) :
    IsExponent ((if leading < 0 then "e-" else "e+" : String).toList ++
      (Layout.padded 2 leading.natAbs).toList) leading := by
  obtain ⟨some, decimals, value⟩ := padded_spelled 2 leading.natAbs
  split
  · next below =>
    have negative := IsExponent.power (.inl rfl : 'e' = 'e' ∨ 'e' = 'E') .minus some decimals
    have size : -(leading.natAbs : Int) = leading := by omega
    rwa [if_pos rfl, value, size] at negative
  · next above =>
    have positive := IsExponent.power (.inl rfl : 'e' = 'e' ∨ 'e' = 'E') .plus some decimals
    have size : (leading.natAbs : Int) = leading := by omega
    rwa [if_neg Bool.false_ne_true, value, size] at positive

/-- **With an exponent**, and with a point if there is more than one digit. -/
theorem exponential_spelled (some : digits ≠ []) (decimals : AreDecimals digits) (leading : Int) :
    SpellsDecimal (plainLayout.exponential digits leading).toList
      ⟨digitsValue digits, leading - digits.length + 1⟩ := by
  have isExponent := isExponent_padded leading
  obtain ⟨c, others, rfl⟩ := List.exists_cons_of_ne_nil some
  unfold Layout.exponential
  cases others with
  | nil =>
    have text : (String.ofList (List.take 1 [c]) ++ "" ++ String.ofList (List.drop 1 [c]) ++
        (if leading < 0 then "e-" else "e+") ++ Layout.padded 2 leading.natAbs).toList =
          [c] ++ ((if leading < 0 then "e-" else "e+" : String).toList ++
            (Layout.padded 2 leading.natAbs).toList) := by
      simp only [String.toList_append, String.toList_ofList, List.append_assoc]
      rfl
    refine (congrArg (SpellsDecimal · _) text).mpr ?_
    refine spellsDecimal (.whole some decimals) isExponent ?_ ?_
    · rw [List.append_nil]
    · simp only [List.length_nil, List.length_singleton]
      omega
  | cons d rest =>
    obtain ⟨decimal, decimals'⟩ := List.forall_mem_cons.mp decimals
    have text : (String.ofList (List.take 1 (c :: d :: rest)) ++ "." ++
        String.ofList (List.drop 1 (c :: d :: rest)) ++
        (if leading < 0 then "e-" else "e+") ++ Layout.padded 2 leading.natAbs).toList =
          ([c] ++ '.' :: (d :: rest)) ++ ((if leading < 0 then "e-" else "e+" : String).toList ++
            (Layout.padded 2 leading.natAbs).toList) := by
      simp only [String.toList_append, String.toList_ofList, List.append_assoc]
      rfl
    refine (congrArg (SpellsDecimal · _) text).mpr ?_
    refine spellsDecimal (.point (List.cons_ne_nil c []) (List.forall_mem_singleton.mpr decimal)
      decimals') isExponent rfl ?_
    simp only [List.length_cons]
    omega

/-- **A decimal that is laid out spells its value**: zeros behind its digits may make up for its
power of ten. -/
theorem decimal_spelled (d : Decimal) :
    ∃ zeros : ℕ, zeros ≤ 17 ∧ SpellsDecimal (plainLayout.decimal d).toList
      ⟨d.digits * 10 ^ zeros, d.exponent - zeros⟩ := by
  have value := digitsValue_toDigits d.digits
  have exponent (length : Int) : d.exponent + length - 1 - length + 1 = d.exponent := by omega
  unfold Layout.decimal
  simp only
  split
  · next near =>
    have spelled := positional_spelled Nat.toDigits_ne_nil (areDecimals_toDigits d.digits) near.2
    rwa [value, exponent] at spelled
  · have spelled := exponential_spelled Nat.toDigits_ne_nil (areDecimals_toDigits d.digits)
      (d.exponent + (Nat.toDigits 10 d.digits).length - 1)
    rw [value, exponent] at spelled
    refine ⟨0, Nat.zero_le _, ?_⟩
    rwa [pow_zero, mul_one, Nat.cast_zero, sub_zero]

theorem digits_spelled (n : ℕ) : SpellsDecimal (Nat.toDigits 10 n) ⟨n, 0⟩ := by
  have spelled : SpellsDecimal (Nat.toDigits 10 n ++ []) ⟨n, 0⟩ := by
    refine spellsDecimal (.whole Nat.toDigits_ne_nil (areDecimals_toDigits n)) .none ?_ rfl
    rw [List.append_nil, digitsValue_toDigits]
  rwa [List.append_nil] at spelled

theorem isSign_signMark (sign : Sign) :
    IsSign (Layout.signMark sign).toList (sign == .negative) := by
  cases sign with
  | negative => exact .minus
  | positive => exact .none

/-- An integer is shown as its sign and its digits. -/
theorem toList_toString_apply (sign : Sign) {n : ℕ} (positive : 0 < n) :
    (toString (sign.apply n : ℤ)).toList =
      (Layout.signMark sign).toList ++ Nat.toDigits 10 n := by
  cases sign with
  | positive => exact String.toList_ofList
  | negative =>
    obtain ⟨k, rfl⟩ : ∃ k, n = k + 1 := ⟨n - 1, by omega⟩
    show ("-" ++ Nat.repr (k + 1)).toList = _
    rw [String.toList_append, Nat.toList_repr]
    rfl

/-- **An integer is shown as the numeral of its digits.** -/
theorem int_spelled (n : ℤ) :
    ∃ numeral, Spells (toString n).toList numeral ∧ numeral.negative = decide (n < 0) ∧
      numeral.toDecimal = ⟨n.natAbs, 0⟩ := by
  cases n with
  | ofNat n =>
    obtain ⟨numeral, spells, negative, decimal⟩ := digits_spelled n [] false .none
    have text : (toString (Int.ofNat n)).toList = [] ++ Nat.toDigits 10 n := String.toList_ofList
    have above : decide (Int.ofNat n < 0) = false := by simp
    exact ⟨numeral, text ▸ spells, above ▸ negative, decimal⟩
  | negSucc n =>
    obtain ⟨numeral, spells, negative, decimal⟩ :=
      digits_spelled (n + 1) _ _ (isSign_signMark .negative)
    have text := toList_toString_apply .negative (Nat.succ_pos n)
    have below : decide (Int.negSucc n < 0) = true := decide_eq_true (Int.negSucc_lt_zero n)
    exact ⟨numeral, text ▸ spells, below ▸ negative, decimal⟩

end Layout

/-! ### Floats as they are shown -/

section Shown

variable {x : Float} {sign : Sign} {m : ℕ} {e : ℤ}

/-- A signed numeral is the float whose size is its decimal. -/
theorem unpack_toFloat {numeral : Numeral} {positive : 0 < m}
    (negative : numeral.negative = (sign == .negative))
    (parts : numeral.toDecimal.toFloat.toModel.unpack = .finite .positive m e positive) :
    numeral.toFloat.toModel.unpack = .finite sign m e positive := by
  unfold toFloat
  rw [negative]
  cases sign with
  | positive => exact parts
  | negative =>
    show (Float.Model.pack numeral.toDecimal.toFloat.toModel.unpack.neg).unpack = _
    rw [unpack_pack (isFloat_unpack _).neg, parts]
    rfl

theorem unpack_abs (canonical : Canonical m e) (inRange : e ≤ 971)
    (parts : x.toModel.unpack = .finite sign m e canonical.positive) :
    x.abs.toModel.unpack = .finite .positive m e canonical.positive := by
  show (Float.Model.pack x.toModel.unpack.abs).unpack = _
  rw [parts]
  exact unpack_pack (.finite .positive canonical inRange)

/-- The text of a float by its parts. The search is any one here, so that no step carries it out. -/
theorem text_of_parts (layout : Layout) (search : ℕ → ℤ → Option Decimal) (parts : UnpackedFloat)
    (positive : 0 < m) (d : Decimal) :
    parts = .finite sign m e positive → search m e = some d →
      (match parts with
        | .notANumber => layout.notANumber
        | .infinity sign => Layout.signMark sign ++ layout.infinity
        | .zero sign => Layout.signMark sign ++ "0" ++ layout.wholeEnd
        | .finite sign mantissa exponent _ =>
          match search mantissa exponent with
          | some d => Layout.signMark sign ++ layout.decimal d
          | none => layout.notANumber) = Layout.signMark sign ++ layout.decimal d := by
  rintro rfl found
  simp only [found]

theorem float_eq {positive : 0 < m} {d : Decimal}
    (parts : x.toModel.unpack = .finite sign m e positive)
    (found : Decimal.shortest? x.abs m e = some d) :
    plainLayout.float x = Layout.signMark sign ++ plainLayout.decimal d := by
  unfold Layout.float
  exact text_of_parts plainLayout (Decimal.shortest? x.abs) _ positive d parts found

/-- **A float with a point or an exponent** is shown as a numeral that is the float. -/
theorem float_spelled (canonical : Canonical m e) (inRange : e ≤ 971)
    (parts : x.toModel.unpack = .finite sign m e canonical.positive) :
    ∃ numeral, Spells (plainLayout.float x).toList numeral ∧
      numeral.toFloat.toModel.unpack = x.toModel.unpack := by
  obtain ⟨d, found, brief, read⟩ :=
    Decimal.shortest?_found canonical inRange (unpack_abs canonical inRange parts)
  obtain ⟨zeros, few, spelled⟩ := decimal_spelled d
  obtain ⟨numeral, spells, negative, decimal⟩ := spelled _ _ (isSign_signMark sign)
  refine ⟨numeral, ?_, ?_⟩
  · rwa [float_eq parts found, String.toList_append]
  · rw [parts]
    refine unpack_toFloat negative ?_
    rw [decimal, Decimal.toFloat_congr (brief.inReach few) brief.inReach_self
      (Decimal.value_zeros d.digits zeros d.exponent), read]

/-- A whole float has the size of a whole number. -/
theorem wholeValue?_finite {n : ℤ} {positive : 0 < m}
    (parts : x.toModel.unpack = .finite sign m e positive)
    (whole : Number.wholeValue? x = some n) : ∃ k : ℕ, n = sign.apply k ∧ (k : ℚ) = m * 2 ^ e := by
  unfold Number.wholeValue? at whole
  rw [parts] at whole
  cases e with
  | ofNat places =>
    cases whole
    refine ⟨m * 2 ^ places, rfl, ?_⟩
    rw [Int.ofNat_eq_natCast, zpow_natCast]
    push_cast
    rfl
  | negSucc places =>
    simp only at whole
    split at whole
    · next divides =>
      cases whole
      have power : ((2 ^ (places + 1) : ℕ) : ℚ) ≠ 0 := Nat.cast_ne_zero.mpr (by positivity)
      refine ⟨m / 2 ^ (places + 1), rfl, ?_⟩
      rw [zpow_negSucc, ← div_eq_mul_inv]
      refine (Nat.cast_div (Nat.dvd_of_mod_eq_zero divides) power).trans ?_
      exact congrArg _ (Nat.cast_pow 2 (places + 1))
    · cases whole

/-- **A whole float** is shown as an integer that is the float. -/
theorem whole_spelled {n : ℤ} (canonical : Canonical m e) (inRange : e ≤ 971)
    (parts : x.toModel.unpack = .finite sign m e canonical.positive)
    (whole : Number.wholeValue? x = some n) (small : n.natAbs < Number.wholeShownBound) :
    ∃ numeral, Spells (toString n).toList numeral ∧
      numeral.toFloat.toModel.unpack = x.toModel.unpack := by
  obtain ⟨k, rfl, value⟩ := wholeValue?_finite parts whole
  have positive : 0 < k := by
    have some : (0 : ℚ) < k :=
      value ▸ mul_pos (Nat.cast_pos.mpr canonical.positive) (two_zpow_pos e)
    exact_mod_cast some
  have size : (sign.apply k).natAbs = k := by
    cases sign with
    | negative => exact Int.natAbs_neg k
    | positive => rfl
  obtain ⟨numeral, spells, negative, decimal⟩ := digits_spelled k _ _ (isSign_signMark sign)
  refine ⟨numeral, toList_toString_apply sign positive ▸ spells, ?_⟩
  rw [parts]
  refine unpack_toFloat negative ?_
  have inReach : Decimal.InReach ⟨k, 0⟩ := by
    refine ⟨positive, ?_, show (-2048 : ℤ) ≤ 0 by decide, show (0 : ℤ) ≤ 2048 by decide⟩
    calc k < Number.wholeShownBound := size ▸ small
      _ < 2 ^ 128 := by decide
      _ ≤ 2 ^ Decimal.rangeBits := Nat.pow_le_pow_right (by decide) (by decide)
  have same : Decimal.value ⟨k, 0⟩ = m * 2 ^ e := by
    rw [Decimal.value, zpow_zero, mul_one, value]
  rw [decimal]
  refine Decimal.unpack_toFloat inReach canonical inRange ?_
  rw [same, sub_self, abs_zero]
  exact div_pos (value ▸ Nat.cast_pos.mpr positive) (by positivity)

/-- A float that is no NaN and no infinity is shown as an integer or in its layout. -/
theorem shown_bounded (isNumber : x.isNaN = false) (bounded : x.isInf = false) :
    (∃ n, Number.wholeValue? x = some n ∧ n.natAbs < Number.wholeShownBound ∧
      (Number.real x).shown = toString n) ∨
    ((∀ n, Number.wholeValue? x = some n → Number.wholeShownBound ≤ n.natAbs) ∧
      (Number.real x).shown = plainLayout.float x) := by
  unfold Number.shown
  simp only
  rw [if_neg (Bool.eq_false_iff.mp isNumber), if_neg (Bool.eq_false_iff.mp bounded)]
  rcases whole : Number.wholeValue? x with _ | n
  · exact .inr ⟨nofun, rfl⟩
  · simp only
    split
    · next small => exact .inl ⟨n, rfl, small, rfl⟩
    · next large => exact .inr ⟨fun _ same => Option.some.inj same ▸ Nat.le_of_not_lt large, rfl⟩

/-- **Zero** is shown without a sign. -/
theorem zero_spelled (parts : x.toModel.unpack = .zero sign) :
    ∃ numeral, Spells (Number.real x).shown.toList numeral ∧
      Exact.ofFloat numeral.toFloat = .finite 0 := by
  have isNumber : x.isNaN = false := congrArg UnpackedFloat.isNaN parts
  have bounded : x.isInf = false := congrArg UnpackedFloat.isInf parts
  have whole : Number.wholeValue? x = some 0 := by
    unfold Number.wholeValue?
    rw [parts]
  rcases shown_bounded isNumber bounded with ⟨n, whole', -, text⟩ | ⟨large, -⟩
  · cases whole.symm.trans whole'
    obtain ⟨numeral, spells, negative, decimal⟩ := digits_spelled 0 [] false .none
    refine ⟨numeral, text ▸ spells, ?_⟩
    rw [toFloat, negative, decimal]
    decide +kernel
  · exact absurd (large 0 whole) (by decide)

/-- **A finite float is shown as a numeral that is the float.** -/
theorem shown_spelled {v : Dyadic} (finite : Exact.ofFloat x = .finite v) :
    ∃ numeral, Spells (Number.real x).shown.toList numeral ∧
      Exact.ofFloat numeral.toFloat = .finite v := by
  have isFloat := isFloat_unpack x.toModel
  generalize parts : x.toModel.unpack = unpacked at isFloat
  have exact_of_parts {y : Float} (same : y.toModel.unpack = x.toModel.unpack) :
      Exact.ofFloat y = .finite v := by
    rw [← finite, Exact.ofFloat, Exact.ofFloat, same]
  have isNumber : x.isNaN = unpacked.isNaN := congrArg UnpackedFloat.isNaN parts
  have bounded : x.isInf = unpacked.isInf := congrArg UnpackedFloat.isInf parts
  cases isFloat with
  | notANumber =>
    rw [Exact.ofFloat, parts] at finite
    cases finite
  | infinity sign =>
    rw [Exact.ofFloat, parts] at finite
    cases sign <;> cases finite
  | zero sign =>
    have none : v = 0 := by
      rw [Exact.ofFloat, parts] at finite
      exact (Exact.finite.inj finite).symm
    rw [none]
    exact zero_spelled parts
  | finite sign canonical inRange =>
    rcases shown_bounded isNumber bounded with ⟨n, whole, small, text⟩ | ⟨-, text⟩
    · obtain ⟨numeral, spells, same⟩ := whole_spelled canonical inRange parts whole small
      exact ⟨numeral, text ▸ spells, exact_of_parts same⟩
    · obtain ⟨numeral, spells, same⟩ := float_spelled canonical inRange parts
      exact ⟨numeral, text ▸ spells, exact_of_parts same⟩

end Shown

end Numeral

open Numeral (Foreign)

/-- What is shown for a finite number is one numeral: for a float it is the float, and for an
integer the float that is nearest to it. -/
theorem Number.shown_numeral {n : Number} {v : Dyadic} (finite : n.exact = .finite v) :
    ∃ numeral : Numeral, Numeral.Spells n.shown.toList numeral ∧
      (∀ x, n = .real x → (Number.real numeral.toFloat).same (.real x) = true) ∧
      ∀ i : ℤ, n = .int i → numeral.toFloat =
        if i < 0 then -Decimal.toFloat ⟨i.natAbs, 0⟩ else Decimal.toFloat ⟨i.natAbs, 0⟩ := by
  cases n with
  | int i =>
    obtain ⟨numeral, spells, negative, decimal⟩ := Numeral.int_spelled i
    refine ⟨numeral, spells, nofun, ?_⟩
    rintro i' ⟨⟩
    rw [Numeral.toFloat, negative, decimal]
    simp only [decide_eq_true_eq]
  | real x =>
    obtain ⟨numeral, spells, exact⟩ := Numeral.shown_spelled finite
    refine ⟨numeral, spells, ?_, nofun⟩
    rintro x' ⟨⟩
    have values : (Number.real numeral.toFloat).exact = (Number.real x).exact :=
      exact.trans finite.symm
    rw [same, compare?, values, Exact.compare?_self, finite]
    rfl

/-- **What is shown for a number is read back.** It is one numeral, and whatever stands behind it,
if a numeral does not go on with it, reading takes all of it and nothing else: for a finite float
the number that is read equals the float, and for an integer it is the float that its digits are on
their own, the one nearest to it. So it is what a variable gets that waits for a number. -/
theorem Number.shown_readBack {n : Number} {v : Dyadic} (finite : n.exact = .finite v) :
    ∃ y : Float,
      (∀ x, n = .real x → (Number.real y).same (.real x) = true) ∧
      (∀ i : ℤ, n = .int i → Spelled.real? (toString i) = some y ∧ y =
        if i < 0 then -Decimal.toFloat ⟨i.natAbs, 0⟩ else Decimal.toFloat ⟨i.natAbs, 0⟩) ∧
      ∀ more : String, Foreign more.toList →
        (∃ numeral, Numeral.read (trimStart ((Value.number n).shown ++ more).toList) =
          some (numeral, more.toList)) ∧
        Numeral.leading? ((Value.number n).shown ++ more) = some y ∧
        ∀ (session : Session) (activity : Activity) (prompt name : String),
          activity.stage = .awaiting prompt name → Value.isTextName name = false →
            session.answer activity ((Value.number n).shown ++ more) =
              (session.assign name (.real y), activity.inStage .completed) := by
  obtain ⟨numeral, spells, same, nearest⟩ := shown_numeral finite
  refine ⟨numeral.toFloat, same, ?_, ?_⟩
  · intro i isInt
    have alone := spells.real?
    rw [String.ofList_toList] at alone
    subst isInt
    exact ⟨alone, nearest i rfl⟩
  intro more foreign
  have taken : Numeral.read (trimStart ((Value.number n).shown ++ more).toList) =
      some (numeral, more.toList) := by
    rw [String.toList_append]
    exact (congrArg _ (Numeral.trimStart_spelled spells _)).trans
      (Numeral.read_foreign spells foreign)
  have found : Numeral.leading? ((Value.number n).shown ++ more) = some numeral.toFloat := by
    rw [Numeral.leading?, taken, Option.map_some]
  refine ⟨⟨numeral, taken⟩, found, ?_⟩
  intro session activity prompt name waits isNumber
  unfold Session.answer
  rw [waits]
  simp only [isNumber, Bool.false_eq_true, if_false, found]

/-- The least whole float that is shown with an exponent. -/
theorem Number.shown_readBack_exponent :
    (Number.real 1e21).exact = .finite ((10 ^ 21 : ℤ) : Dyadic) ∧
      ∃ y : Float, (Number.real y).same (.real 1e21) = true ∧
        Numeral.leading? ((Value.real 1e21).shown ++ " LEFT") = some y := by
  have finite : (Number.real 1e21).exact = .finite ((10 ^ 21 : ℤ) : Dyadic) := by decide +kernel
  refine ⟨finite, ?_⟩
  obtain ⟨y, same, -, read⟩ := Number.shown_readBack finite
  have foreign : Foreign " LEFT".toList := by
    rintro c ⟨⟩
    decide
  exact ⟨y, same _ rfl, (read " LEFT" foreign).2.1⟩

example : (Value.real 1e21).shown = "1e+21" := by decide +kernel

end LineBasic
