/-
**Rounding of binary digits.**

What is to be rounded is given by binary digits and two bits that say how it goes on behind them:
whether it is half a place further or more, and whether it lies between these marks. Shifting the
digits to the last place keeps what the two bits say, and they are all that rounding needs.

* `Measures` — what digits and the two bits say of a fraction;
* `Measures.shifted`, `Measures.rounded` — shifting keeps it, and it decides the nearest number;
* `rounds_roundWithAccuracy` — digits that reach to the last place or beyond are rounded rightly;
* `rounds_round` — so is every whole number of units;
* `rounds_mul`, `rounds_div` — and products and quotients.
-/

import LineBasic.Proofs.Rounding.Nearest

namespace LineBasic.Rounding

open Float.Model (UnpackedFloat Format totalExponent)
open Float.Model.UnpackedFloat (Sign Accuracy ExtendedMantissa)

/-! ### Digits and the two bits behind them -/

/-- **What digits and the two bits behind them say of a fraction.** -/
def Measures (digits : ExtendedMantissa) (q : ℚ) : Prop :=
  match digits.roundBit, digits.stickyBit with
  | false, false => q = digits.mantissa
  | false, true => (digits.mantissa : ℚ) < q ∧ q < digits.mantissa + 1 / 2
  | true, false => q = digits.mantissa + 1 / 2
  | true, true => (digits.mantissa : ℚ) + 1 / 2 < q ∧ q < digits.mantissa + 1

section Measures

variable {digits : ExtendedMantissa} {q : ℚ}

theorem Measures.lower (measures : Measures digits q) : (digits.mantissa : ℚ) ≤ q := by
  obtain ⟨m, roundBit, stickyBit⟩ := digits
  cases roundBit <;> cases stickyBit <;> simp only [Measures] at measures ⊢
  · exact measures.ge
  · exact measures.1.le
  · linarith
  · linarith

theorem Measures.upper (measures : Measures digits q) : q < digits.mantissa + 1 := by
  obtain ⟨m, roundBit, stickyBit⟩ := digits
  cases roundBit <;> cases stickyBit <;> simp only [Measures] at measures ⊢ <;> linarith

/-- **The two bits decide the nearest whole number.** -/
theorem Measures.rounded (measures : Measures digits q) :
    NearestWhole q digits.roundedMantissa := by
  obtain ⟨m, roundBit, stickyBit⟩ := digits
  cases roundBit <;> cases stickyBit <;> simp only [Measures] at measures
  · subst measures
    exact nearestWhole_natCast m
  · left
    show |q - (m : ℕ)| < 1 / 2
    rw [abs_lt]
    constructor <;> linarith
  · right
    subst measures
    show |(m : ℚ) + 1 / 2 - ((m + m % 2 : ℕ) : ℚ)| = 1 / 2 ∧ (m + m % 2) % 2 = 0
    refine ⟨?_, by omega⟩
    rcases Nat.mod_two_eq_zero_or_one m with even | odd
    · rw [even]
      norm_num
    · rw [odd]
      push_cast
      norm_num
  · left
    show |q - ((m + 1 : ℕ) : ℚ)| < 1 / 2
    rw [abs_lt]
    push_cast
    constructor <;> linarith

/-- Half of it has one digit less. -/
theorem Measures.half (measures : Measures digits q) : Measures digits.shiftRightOne (q / 2) := by
  obtain ⟨m, roundBit, stickyBit⟩ := digits
  rcases Nat.mod_two_eq_zero_or_one m with even | odd
  · obtain ⟨k, rfl⟩ : ∃ k, m = 2 * k := ⟨m / 2, by omega⟩
    have halved : 2 * k / 2 = k := by omega
    cases roundBit <;> cases stickyBit <;>
      simp only [Measures, ExtendedMantissa.shiftRightOne, even, halved, bne_self_eq_false,
        Bool.or_true, Bool.or_false] at measures ⊢ <;>
      push_cast at measures <;> first | linarith | constructor <;> linarith
  · obtain ⟨k, rfl⟩ : ∃ k, m = 2 * k + 1 := ⟨m / 2, by omega⟩
    have halved : (2 * k + 1) / 2 = k := by omega
    have set : (1 != 0) = true := rfl
    cases roundBit <;> cases stickyBit <;>
      simp only [Measures, ExtendedMantissa.shiftRightOne, odd, halved, set,
        Bool.or_true, Bool.or_false] at measures ⊢ <;>
      push_cast at measures <;> first | linarith | constructor <;> linarith

/-- **Shifting keeps what the two bits say.** -/
theorem Measures.shifted (measures : Measures digits q) (n : ℕ) :
    Measures (digits >>> n) (q / 2 ^ n) := by
  induction n with
  | zero =>
    rw [pow_zero, div_one]
    exact measures
  | succ n hypothesis =>
    have once : digits >>> (n + 1) = (digits >>> n).shiftRightOne := rfl
    rw [once, pow_succ, ← div_div]
    exact hypothesis.half

theorem measures_exact (m : ℕ) :
    Measures (.ofMantissaAndAccuracy m .exact) (m : ℚ) := rfl

/-- The quotient and the rest of a division say where the fraction lies. -/
theorem measures_quotient (m : ℕ) {n : ℕ} (positive : 0 < n) :
    Measures (.ofMantissaAndAccuracy (m / n) (UnpackedFloat.accuracyOfFraction (m % n) n))
      ((m : ℚ) / n) := by
  have denominator : (0 : ℚ) < n := by exact_mod_cast positive
  have split : (m : ℚ) / n = ((m / n : ℕ) : ℚ) + ((m % n : ℕ) : ℚ) / n := by
    have whole : (m : ℚ) = ((m / n : ℕ) : ℚ) * n + ((m % n : ℕ) : ℚ) := by
      exact_mod_cast (Nat.div_add_mod' m n).symm
    rw [div_eq_iff denominator.ne', add_mul, div_mul_cancel₀ _ denominator.ne', ← whole]
  have less : ((m % n : ℕ) : ℚ) / n < 1 :=
    (div_lt_one denominator).mpr (by exact_mod_cast Nat.mod_lt m positive)
  rw [split]
  unfold UnpackedFloat.accuracyOfFraction
  split
  · next divides =>
    rw [divides, Nat.cast_zero, zero_div, add_zero]
    exact measures_exact _
  · next remains =>
    have above : 0 < ((m % n : ℕ) : ℚ) / n :=
      div_pos (by exact_mod_cast Nat.pos_of_ne_zero remains) denominator
    rcases order : compare (2 * (m % n)) n
    · have below : 2 * (m % n) < n := Nat.compare_eq_lt.mp order
      have half : ((m % n : ℕ) : ℚ) / n < 1 / 2 := by
        rw [div_lt_div_iff₀ denominator (by norm_num)]
        exact_mod_cast (by omega : m % n * 2 < 1 * n)
      show ((m / n : ℕ) : ℚ) < _ ∧ _ < ((m / n : ℕ) : ℚ) + 1 / 2
      constructor <;> linarith
    · have same : 2 * (m % n) = n := Nat.compare_eq_eq.mp order
      have half : ((m % n : ℕ) : ℚ) / n = 1 / 2 := by
        rw [div_eq_div_iff denominator.ne' (by norm_num)]
        exact_mod_cast (by omega : m % n * 2 = 1 * n)
      rw [half]
      rfl
    · have beyond : n < 2 * (m % n) := Nat.compare_eq_gt.mp order
      have half : 1 / 2 < ((m % n : ℕ) : ℚ) / n := by
        rw [div_lt_div_iff₀ (by norm_num) denominator]
        exact_mod_cast (by omega : 1 * n < m % n * 2)
      show ((m / n : ℕ) : ℚ) + 1 / 2 < _ ∧ _ < ((m / n : ℕ) : ℚ) + 1
      constructor <;> linarith

end Measures

/-! ### The last place, from the digits -/

section Target

variable {q : ℚ} {m : ℕ} {e place : ℤ} {accuracy : Accuracy}

theorem targetExponent_eq (total : ℤ) :
    Format.binary64.targetExponent total = max (total - 53) (-1074) := rfl

theorem mantissa_ofMantissaAndAccuracy (m : ℕ) (accuracy : Accuracy) :
    (ExtendedMantissa.ofMantissaAndAccuracy m accuracy).mantissa = m := by
  unfold ExtendedMantissa.ofMantissaAndAccuracy
  split <;> rfl

/-- **The digits tell where the last place is**; without any digits, they have to reach to it. -/
theorem targetExponent_of_measures
    (measures : Measures (.ofMantissaAndAccuracy m accuracy) (q / 2 ^ e))
    (isPlace : LastPlace q place) (reaches : m = 0 → e ≤ place) :
    Format.binary64.targetExponent (totalExponent m e) = place := by
  have unit := two_zpow_pos e
  have lower := measures.lower
  have upper := measures.upper
  rw [mantissa_ofMantissaAndAccuracy] at lower upper
  rw [le_div_iff₀ unit] at lower
  rw [div_lt_iff₀ unit] at upper
  rw [targetExponent_eq, totalExponent]
  rcases Nat.eq_zero_or_pos m with rfl | positive
  · -- Without any digits it is the least place.
    have low : place = -1074 := by
      refine isPlace.above.resolve_right fun above => ?_
      have one : (1 : ℚ) ≤ 2 ^ 52 := by norm_num
      have between : (1 : ℚ) * 2 ^ place ≤ 2 ^ 52 * 2 ^ place :=
        mul_le_mul_of_nonneg_right one (two_zpow_pos place).le
      have order : (2 : ℚ) ^ e ≤ 2 ^ place := zpow_le_zpow_right₀ (by norm_num) (reaches rfl)
      rw [Nat.cast_zero, zero_add, one_mul] at upper
      linarith
    have none : Nat.log2 0 = 0 := by decide
    have reaches := reaches rfl
    rw [none]
    omega
  · have digits : (2 : ℚ) ^ m.log2 ≤ m := by exact_mod_cast Nat.log2_self_le positive.ne'
    have digits' : (m : ℚ) + 1 ≤ 2 ^ (m.log2 + 1) := by exact_mod_cast Nat.lt_log2_self
    have lower' : (2 : ℚ) ^ ((m.log2 : ℤ) + e) ≤ q := by
      rw [← two_zpow_add]
      exact (mul_le_mul_of_nonneg_right digits unit.le).trans lower
    have upper' : q < (2 : ℚ) ^ (((m.log2 + 1 : ℕ) : ℤ) + e) := by
      rw [← two_zpow_add]
      exact upper.trans_le (mul_le_mul_of_nonneg_right digits' unit.le)
    have least := isPlace.least
    have below := lower'.trans_lt isPlace.below
    rw [two_zpow_add, zpow_lt_zpow_iff_right₀ (by norm_num)] at below
    rcases isPlace.above with rfl | above
    · omega
    · have beyond := above.trans_lt upper'
      rw [two_zpow_add, zpow_lt_zpow_iff_right₀ (by norm_num)] at beyond
      omega

end Target

/-! ### Rounding at the last place -/

section Round

variable {q : ℚ} {m : ℕ} {e place : ℤ} {accuracy : Accuracy}

theorem log2_lt_of_lt {n bits : ℕ} (small : n < 2 ^ bits) (some : 0 < bits) : n.log2 < bits := by
  rcases Nat.eq_zero_or_pos n with rfl | positive
  · have none : Nat.log2 0 = 0 := by decide
    omega
  · exact (Nat.log2_lt positive.ne').mpr small

/-- A rounded mantissa is brought back to its length. -/
theorem shiftToTargetExponent_carried (sign : Sign) {n : ℕ} (small : n ≤ 2 ^ 53)
    (least : -1074 ≤ e) :
    (let shifted := UnpackedFloat.shiftToTargetExponent .binary64 n e .exact
     if some : shifted.1.mantissa = 0 then .zero sign
     else .finite sign shifted.1.mantissa shifted.2 (Nat.pos_of_ne_zero some)) =
      carried sign n e := by
  unfold UnpackedFloat.shiftToTargetExponent UnpackedFloat.shiftToExponent
  rw [targetExponent_eq, totalExponent]
  rcases small.lt_or_eq with below | rfl
  · have digits := log2_lt_of_lt below (by decide)
    have still : (max ((n.log2 : ℤ) + 1 + e - 53) (-1074) - e).toNat = 0 := by omega
    simp only [still]
    have same : ExtendedMantissa.ofMantissaAndAccuracy n .exact >>> 0 = ⟨n, false, false⟩ := rfl
    simp only [same, Nat.cast_zero, add_zero]
    unfold carried
    rcases Nat.eq_zero_or_pos n with rfl | positive
    · rfl
    · rw [dif_neg positive.ne', dif_pos positive, if_pos below]
  · have digits : Nat.log2 (2 ^ 53) = 53 := Nat.log2_two_pow
    have once : (max (((2 ^ 53 : ℕ).log2 : ℤ) + 1 + e - 53) (-1074) - e).toNat = 1 := by
      rw [digits]
      omega
    simp only [once]
    rfl

/-- **Digits that reach to the last place or beyond are rounded rightly.** -/
theorem rounds_roundWithAccuracy (sign : Sign)
    (measures : Measures (.ofMantissaAndAccuracy m accuracy) (q / 2 ^ e))
    (isPlace : LastPlace q place) (reaches : e ≤ place) :
    Rounds sign q (UnpackedFloat.roundWithAccuracy .binary64 sign m e accuracy) := by
  have target := targetExponent_of_measures measures isPlace fun _ => reaches
  obtain ⟨n, rfl⟩ := Int.le.dest reaches
  have amount : (e + n - e).toNat = n := by omega
  have shifted : UnpackedFloat.shiftToTargetExponent .binary64 m e accuracy =
      (ExtendedMantissa.ofMantissaAndAccuracy m accuracy >>> n, e + n) := by
    unfold UnpackedFloat.shiftToTargetExponent UnpackedFloat.shiftToExponent
    simp only [target, amount]
  have scaled : q / 2 ^ e / 2 ^ n = q / 2 ^ (e + n) := by
    rw [div_div, zpow_add₀ (by norm_num), zpow_natCast]
  have nearest := (measures.shifted n).rounded
  rw [scaled] at nearest
  have below : q / 2 ^ (e + n) < ((2 ^ 53 : ℕ) : ℚ) := by
    rw [div_lt_iff₀ (two_zpow_pos _)]
    exact_mod_cast isPlace.below
  refine ⟨e + n, _, isPlace, nearest, ?_⟩
  rw [← shiftToTargetExponent_carried sign (nearest.le_of_lt below) isPlace.least]
  unfold UnpackedFloat.roundWithAccuracy
  simp only [shifted]

/-- **A whole number of units is rounded rightly.** -/
theorem rounds_round (positive : 0 < m) (sign : Sign) (e : ℤ) :
    Rounds sign (m * 2 ^ e) (UnpackedFloat.round .binary64 sign m e) := by
  have unit := two_zpow_pos e
  obtain ⟨place, isPlace⟩ := lastPlace_exists (mul_pos (Nat.cast_pos.mpr positive) unit)
  have measures : Measures (.ofMantissaAndAccuracy m .exact) (m * 2 ^ e / 2 ^ e) := by
    rw [mul_div_cancel_right₀ _ unit.ne']
    exact measures_exact m
  have target := targetExponent_of_measures measures isPlace (absurd · positive.ne')
  -- The mantissa is shifted to the left, where it is too short, before it is rounded.
  set n := (e - place).toNat with amount
  have split : (2 : ℚ) ^ e = 2 ^ n * 2 ^ (e - n) := by
    rw [two_zpow_add, add_sub_cancel]
  have measures' : Measures (.ofMantissaAndAccuracy (m <<< n) .exact)
      (m * 2 ^ e / 2 ^ (e - n)) := by
    rw [split, ← mul_assoc, mul_div_cancel_right₀ _ (two_zpow_pos _).ne', Nat.shiftLeft_eq]
    exact_mod_cast measures_exact (m * 2 ^ n)
  have rounds := rounds_roundWithAccuracy sign measures' isPlace (by omega)
  unfold UnpackedFloat.round UnpackedFloat.decreaseExponent
  simp only [target, ← amount]
  exact rounds

/-- **A product with enough digits is rounded rightly.** -/
theorem rounds_mul (sign₁ sign₂ : Sign) {m₁ m₂ : ℕ} {e₁ e₂ : ℤ} (positive₁ : 0 < m₁)
    (positive₂ : 0 < m₂) (long : 2 ^ 52 ≤ m₁ * m₂) :
    Rounds (sign₁ * sign₂) (m₁ * 2 ^ e₁ * (m₂ * 2 ^ e₂))
      (UnpackedFloat.mul .binary64 (.finite sign₁ m₁ e₁ positive₁)
        (.finite sign₂ m₂ e₂ positive₂)) := by
  have unit := two_zpow_pos (e₁ + e₂)
  have value : (m₁ : ℚ) * 2 ^ e₁ * (m₂ * 2 ^ e₂) = ((m₁ * m₂ : ℕ) : ℚ) * 2 ^ (e₁ + e₂) := by
    rw [zpow_add₀ (by norm_num)]
    push_cast
    ring
  rw [value]
  have positive : (0 : ℚ) < ((m₁ * m₂ : ℕ) : ℚ) :=
    Nat.cast_pos.mpr (Nat.mul_pos positive₁ positive₂)
  obtain ⟨place, isPlace⟩ := lastPlace_exists (mul_pos positive unit)
  refine rounds_roundWithAccuracy _ ?_ isPlace (isPlace.ge (.inr ?_))
  · rw [mul_div_cancel_right₀ _ unit.ne']
    exact measures_exact _
  · exact mul_le_mul_of_nonneg_right (by exact_mod_cast long) unit.le

/-- A quotient has as many digits as the two lengths say, or one less. -/
theorem LastPlace.quotient {m₁ m₂ : ℕ} {e₁ e₂ : ℤ} (positive₁ : 0 < m₁) (positive₂ : 0 < m₂)
    (isPlace : LastPlace (m₁ * 2 ^ e₁ / (m₂ * 2 ^ e₂)) place) :
    (m₁.log2 + 1 + e₁ - (m₂.log2 + 1 + e₂) - 53 : ℤ) ≤ place := by
  have divisor : (0 : ℚ) < m₂ := Nat.cast_pos.mpr positive₂
  have unit₂ := two_zpow_pos e₂
  have digits₁ : (2 : ℚ) ^ m₁.log2 ≤ m₁ := by exact_mod_cast Nat.log2_self_le positive₁.ne'
  have digits₂ : (m₂ : ℚ) ≤ 2 ^ (m₂.log2 + 1) := by exact_mod_cast Nat.lt_log2_self.le
  refine isPlace.ge (.inr ?_)
  rw [le_div_iff₀ (mul_pos divisor unit₂), two_zpow_add]
  calc (2 : ℚ) ^ (((52 : ℕ) : ℤ) + (m₁.log2 + 1 + e₁ - (m₂.log2 + 1 + e₂) - 53)) *
        (m₂ * 2 ^ e₂)
      ≤ 2 ^ (((52 : ℕ) : ℤ) + (m₁.log2 + 1 + e₁ - (m₂.log2 + 1 + e₂) - 53)) *
          (2 ^ (m₂.log2 + 1) * 2 ^ e₂) :=
        mul_le_mul_of_nonneg_left (mul_le_mul_of_nonneg_right digits₂ unit₂.le)
          (two_zpow_pos _).le
    _ = 2 ^ m₁.log2 * 2 ^ e₁ := by
        rw [two_zpow_add, two_zpow_add, ← zpow_add₀ (by norm_num)]
        congr 1
        push_cast
        ring
    _ ≤ m₁ * 2 ^ e₁ := mul_le_mul_of_nonneg_right digits₁ (two_zpow_pos e₁).le

/-- **A quotient is rounded rightly.** -/
theorem rounds_div (sign₁ sign₂ : Sign) {m₁ m₂ : ℕ} {e₁ e₂ : ℤ} (positive₁ : 0 < m₁)
    (positive₂ : 0 < m₂) :
    Rounds (sign₁ / sign₂) (m₁ * 2 ^ e₁ / (m₂ * 2 ^ e₂))
      (UnpackedFloat.div .binary64 (.finite sign₁ m₁ e₁ positive₁)
        (.finite sign₂ m₂ e₂ positive₂)) := by
  have dividend : (0 : ℚ) < m₁ := Nat.cast_pos.mpr positive₁
  have divisor : (0 : ℚ) < m₂ := Nat.cast_pos.mpr positive₂
  obtain ⟨place, isPlace⟩ := lastPlace_exists (div_pos (mul_pos dividend (two_zpow_pos e₁))
    (mul_pos divisor (two_zpow_pos e₂)))
  unfold UnpackedFloat.div UnpackedFloat.divCore
  simp only [targetExponent_eq, totalExponent]
  set target := min (e₁ - e₂)
    (max (↑m₁.log2 + 1 + e₁ - (↑m₂.log2 + 1 + e₂) - 53) (-1074)) with isTarget
  set n := (e₁ - e₂ - target).toNat with amount
  have exponent : (n : ℤ) + target = e₁ - e₂ := by omega
  have scaled : (m₁ : ℚ) * 2 ^ e₁ / (m₂ * 2 ^ e₂) / 2 ^ target = ((m₁ <<< n : ℕ) : ℚ) / m₂ := by
    have split : (2 : ℚ) ^ e₁ = 2 ^ n * 2 ^ target * 2 ^ e₂ := by
      rw [two_zpow_add, ← zpow_add₀ (by norm_num), exponent, sub_add_cancel]
    have unit := two_zpow_pos target
    have unit₂ := two_zpow_pos e₂
    rw [split, Nat.shiftLeft_eq]
    push_cast
    field_simp
  refine rounds_roundWithAccuracy _ ?_ isPlace ?_
  · rw [scaled]
    exact measures_quotient _ positive₂
  · have enough := isPlace.quotient positive₁ positive₂
    have least := isPlace.least
    omega

end Round

end LineBasic.Rounding
