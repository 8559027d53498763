/-
**Exact values of floats.**

A finite float stands for one fraction. The float nearest to a whole number up to `2 ^ 53` is that
number, its negative is the negative, and a sum that comes to such a number is exact: so floats
count.

* `Stands`, `exact_eq_finite_iff` — the fraction that a float stands for is its exact value;
* `exact_ofInt`, `exact_neg`, `exact_add` — whole numbers, their negatives and their sums;
* `below_iff`, `atMost_iff` — whole numbers compare as what they are.
-/

import LineBasic.Number.Basic
import LineBasic.Proofs.Rounding.Scientific

namespace LineBasic.Rounding

open Float.Model (UnpackedFloat Format)
open Float.Model.UnpackedFloat (Sign)

/-- The fraction that a float stands for. -/
inductive Stands : UnpackedFloat → ℚ → Prop where
  | zero (sign : Sign) : Stands (.zero sign) 0
  | finite (sign : Sign) (m : ℕ) (e : ℤ) (positive : 0 < m) :
      Stands (.finite sign m e positive) ((sign.apply m : ℤ) * 2 ^ e)

/-! ### The value of a float -/

section Stands

variable {x : UnpackedFloat} {q : ℚ}

/-- **The fraction that a float stands for is its exact value.** -/
theorem exact_eq_finite_iff (x : Float) (v : Dyadic) :
    Exact.ofFloat x = .finite v ↔ Stands x.toModel.unpack v.toRat := by
  unfold Exact.ofFloat
  generalize x.toModel.unpack = parts
  have value (n : ℤ) (e : ℤ) :
      Exact.finite (.ofIntWithPrec n (-e)) = .finite v ↔ (n : ℚ) * 2 ^ e = v.toRat := by
    rw [Exact.finite.injEq, ← Dyadic.toRat_inj, Dyadic.toRat_ofIntWithPrec_eq_mul_two_pow, neg_neg]
  constructor
  · intro same
    cases parts with
    | notANumber => cases same
    | infinity sign => cases sign <;> cases same
    | zero sign =>
      cases same
      exact .zero sign
    | finite sign m e positive =>
      cases sign
      · rw [← (value _ _).mp same]
        exact .finite .negative m e positive
      · rw [← (value _ _).mp same]
        exact .finite .positive m e positive
  · intro stands
    generalize fraction : v.toRat = q at stands
    cases stands with
    | zero sign =>
      have none : v = 0 := Dyadic.toRat_inj.mp fraction
      rw [none]
    | finite sign m e positive =>
      cases sign
      · exact (value _ _).mpr fraction.symm
      · exact (value _ _).mpr fraction.symm

theorem apply_eq (sign : Sign) (n : ℤ) : sign.apply n = sign.apply 1 * n := by
  cases sign with
  | negative => exact neg_eq_neg_one_mul n
  | positive => exact (one_mul n).symm

theorem apply_neg (sign : Sign) (n : ℤ) : (-sign).apply n = -sign.apply n := by
  cases sign with
  | negative => exact (neg_neg n).symm
  | positive => rfl

theorem Stands.neg (stands : Stands x q) : Stands x.neg (-q) := by
  cases stands with
  | zero sign =>
    rw [neg_zero]
    exact .zero _
  | finite sign m e positive =>
    rw [← neg_mul, ← Int.cast_neg, ← apply_neg]
    exact .finite _ _ _ _

theorem IsFloat.neg (isFloat : IsFloat x) : IsFloat x.neg := by
  cases isFloat with
  | notANumber => exact .notANumber
  | infinity sign => exact .infinity _
  | zero sign => exact .zero _
  | finite sign canonical inRange => exact .finite _ canonical inRange

end Stands

/-! ### Whole numbers -/

section Whole

variable {sign : Sign} {n : ℕ} {k : ℤ} {e : ℤ}

/-- What a whole number up to `2 ^ 53` is rounded to stands for it. -/
theorem rounds_natCast {x : UnpackedFloat} (positive : 0 < n) (small : n ≤ 2 ^ 53)
    (rounds : Rounds sign n x) : IsFloat x ∧ Stands x (sign.apply n : ℤ) := by
  obtain ⟨m, places, positive', small', few, rfl⟩ :
      ∃ m places, 0 < m ∧ m < 2 ^ 53 ∧ places ≤ 900 ∧ n = m * 2 ^ places := by
    rcases small.lt_or_eq with less | rfl
    · exact ⟨n, 0, positive, less, by decide, by rw [pow_zero, mul_one]⟩
    · exact ⟨2 ^ 52, 1, by decide, by decide, by decide, by decide⟩
  obtain ⟨m', e', canonical, rfl, value, inRange⟩ := rounds_whole positive' small' few rounds
  refine ⟨.finite sign canonical inRange, ?_⟩
  have signed : ((sign.apply (m * 2 ^ places : ℕ) : ℤ) : ℚ) = (sign.apply m' : ℤ) * 2 ^ e' := by
    rw [apply_eq, apply_eq sign m', Int.cast_mul, Int.cast_mul, Int.cast_natCast, Int.cast_natCast,
      mul_assoc, value]
  rw [signed]
  exact .finite sign m' e' canonical.positive

theorem normalize_negative {units : ℤ} (below : units < 0) :
    UnpackedFloat.normalize .binary64 units e sign =
      UnpackedFloat.round .binary64 .negative units.natAbs e := by
  have order : compare units 0 = .lt := Int.compare_eq_lt.mpr below
  have size : (-units).toNat = units.natAbs := by omega
  unfold UnpackedFloat.normalize
  rw [order, size]

theorem normalize_positive {units : ℤ} (above : 0 < units) :
    UnpackedFloat.normalize .binary64 units e sign =
      UnpackedFloat.round .binary64 .positive units.natAbs e := by
  have order : compare units 0 = .gt := Int.compare_eq_gt.mpr above
  have size : units.toNat = units.natAbs := by omega
  unfold UnpackedFloat.normalize
  rw [order, size]

/-- Units that come to a whole number up to `2 ^ 53` are rounded to it. -/
theorem normalize_whole {units : ℤ} (value : (units : ℚ) * 2 ^ e = k) (small : k.natAbs ≤ 2 ^ 53) :
    IsFloat (UnpackedFloat.normalize .binary64 units e sign) ∧
      Stands (UnpackedFloat.normalize .binary64 units e sign) k := by
  have unit := two_zpow_pos e
  have size : (units.natAbs : ℚ) * 2 ^ e = k.natAbs := by
    rw [Nat.cast_natAbs, Nat.cast_natAbs, Int.cast_abs, Int.cast_abs, ← value, abs_mul,
      abs_of_pos unit]
  rcases lt_trichotomy units 0 with below | rfl | above
  · have below' : (k : ℚ) < 0 := value ▸ mul_neg_of_neg_of_pos (by exact_mod_cast below) unit
    have negative : k < 0 := by exact_mod_cast below'
    have whole : Sign.negative.apply k.natAbs = k := by
      show -(k.natAbs : ℤ) = k
      omega
    have rounds := rounds_round (m := units.natAbs) (by omega) .negative e
    rw [size] at rounds
    rw [normalize_negative below]
    have result := rounds_natCast (by omega) small rounds
    rwa [whole] at result
  · have none : (k : ℚ) = 0 := by rw [← value, Int.cast_zero, zero_mul]
    rw [none]
    exact ⟨.zero sign, .zero sign⟩
  · have above' : (0 : ℚ) < k := value ▸ mul_pos (by exact_mod_cast above) unit
    have positive : 0 < k := by exact_mod_cast above'
    have whole : Sign.positive.apply k.natAbs = k := by
      show (k.natAbs : ℤ) = k
      omega
    have rounds := rounds_round (m := units.natAbs) (by omega) .positive e
    rw [size] at rounds
    rw [normalize_positive above]
    have result := rounds_natCast (by omega) small rounds
    rwa [whole] at result

/-- Units of a higher place in units of a lower one. -/
theorem decreased_value (m : ℕ) {place : ℤ} (lower : place ≤ e) :
    ((sign.apply (m <<< (e - place).toNat : ℕ) : ℤ) : ℚ) * 2 ^ place =
      (sign.apply m : ℤ) * 2 ^ e := by
  obtain ⟨n, rfl⟩ := Int.le.dest lower
  have amount : (place + n - place).toNat = n := by omega
  rw [amount, Nat.shiftLeft_eq, apply_eq, apply_eq sign m, zpow_add₀ (by norm_num), zpow_natCast]
  push_cast
  ring

/-- **A sum that comes to a whole number up to `2 ^ 53` is exact.** -/
theorem stands_add {x y : UnpackedFloat} {q r : ℚ} (isFloat : IsFloat x) (isFloat' : IsFloat y)
    (stands : Stands x q) (stands' : Stands y r) (value : q + r = k) (small : k.natAbs ≤ 2 ^ 53) :
    IsFloat (UnpackedFloat.add .binary64 x y) ∧ Stands (UnpackedFloat.add .binary64 x y) k := by
  rw [← value]
  cases stands with
  | zero sign =>
    cases stands' with
    | zero sign' =>
      rw [add_zero]
      cases sign <;> cases sign' <;> exact ⟨.zero _, .zero _⟩
    | finite sign' m e positive =>
      rw [zero_add]
      exact ⟨isFloat', .finite sign' m e positive⟩
  | finite sign m e positive =>
    cases stands' with
    | zero sign' =>
      rw [add_zero]
      exact ⟨isFloat, .finite sign m e positive⟩
    | finite sign' m' e' positive' =>
      rw [value]
      refine normalize_whole ?_ small
      rw [Int.cast_add, add_mul, decreased_value m (min_le_left e e'),
        decreased_value m' (min_le_right e e'), value]

end Whole

/-! ### Floats that count -/

section Count

variable {x y : Float} {k n : ℤ}

/-- A float equals a whole number. -/
theorem exact_eq_intCast_iff :
    Exact.ofFloat x = .finite n ↔ Stands x.toModel.unpack n := by
  rw [exact_eq_finite_iff, Dyadic.toRat_intCast]

/-- **The sum of two floats that come to a whole number up to `2 ^ 53` together.** -/
theorem exact_add (isWhole : Exact.ofFloat x = .finite k) (isWhole' : Exact.ofFloat y = .finite n)
    (small : (k + n).natAbs ≤ 2 ^ 53) : Exact.ofFloat (x + y) = .finite ((k + n : ℤ) : Dyadic) := by
  rw [exact_eq_intCast_iff] at isWhole isWhole' ⊢
  obtain ⟨isFloat, stands⟩ := stands_add (k := k + n) (isFloat_unpack _) (isFloat_unpack _)
    isWhole isWhole' (Int.cast_add k n).symm small
  show Stands (Float.Model.pack _).unpack _
  rwa [unpack_pack isFloat]

/-- **The negative of a whole number.** -/
theorem exact_neg (isWhole : Exact.ofFloat x = .finite k) :
    Exact.ofFloat (-x) = .finite ((-k : ℤ) : Dyadic) := by
  rw [exact_eq_intCast_iff] at isWhole ⊢
  show Stands (Float.Model.pack _).unpack _
  rw [unpack_pack (isFloat_unpack _).neg, Int.cast_neg]
  exact isWhole.neg

theorem exact_ofNat {n : ℕ} (small : n ≤ 2 ^ 53) :
    Exact.ofFloat (Float.ofNat n) = .finite ((n : ℤ) : Dyadic) := by
  rw [exact_eq_intCast_iff]
  rcases Nat.eq_zero_or_pos n with rfl | positive
  · have none : (Float.ofNat 0).toModel = .pack (.zero .positive) := by decide +kernel
    rw [none, unpack_pack (.zero _)]
    exact .zero _
  · obtain ⟨x, rounds, packed⟩ := rounds_ofScientific positive (Nat.zero_le 2048) false
    have value : tens n false 0 = n := by
      unfold tens
      rw [pow_zero]
      exact mul_one _
    rw [value] at rounds
    obtain ⟨isFloat, stands⟩ := rounds_natCast positive small rounds
    have shape : (Float.ofNat n).toModel = .pack x := packed
    rw [shape, unpack_pack isFloat]
    exact stands

/-- **A whole number up to `2 ^ 53` is a float.** -/
theorem exact_ofInt (small : n.natAbs ≤ 2 ^ 53) : Exact.ofFloat (Float.ofInt n) = .finite n := by
  cases n with
  | ofNat n => exact exact_ofNat small
  | negSucc n => exact exact_neg (exact_ofNat (n := n + 1) small)

end Count

/-! ### Comparing whole numbers -/

section Compare

variable {a b : Number} {k n : ℤ}

theorem order_intCast (k n : ℤ) : Exact.order (k : Dyadic) (n : Dyadic) = compare k n := by
  have less (i j : ℤ) : (i : Dyadic) < (j : Dyadic) ↔ i < j := by
    rw [← Dyadic.toRat_lt_toRat_iff, Dyadic.toRat_intCast, Dyadic.toRat_intCast]
    exact Int.cast_lt
  unfold Exact.order
  rcases lt_trichotomy k n with below | rfl | above
  · rw [if_pos ((less k n).mpr below), Int.compare_eq_lt.mpr below]
  · have unordered := (less k k).not.mpr (lt_irrefl k)
    rw [if_neg unordered, if_neg unordered, Int.compare_eq_eq.mpr rfl]
  · rw [if_neg ((less k n).not.mpr (not_lt.mpr above.le)), if_pos ((less n k).mpr above),
      Int.compare_eq_gt.mpr above]

/-- Numbers that are whole compare as whole numbers. -/
theorem compare?_whole (isWhole : a.exact = .finite k) (isWhole' : b.exact = .finite n) :
    a.compare? b = some (compare k n) := by
  unfold Number.compare?
  rw [isWhole, isWhole', Exact.compare?, order_intCast]

theorem below_iff (isWhole : a.exact = .finite k) (isWhole' : b.exact = .finite n) :
    a.below b = true ↔ k < n := by
  unfold Number.below
  rw [compare?_whole isWhole isWhole', beq_iff_eq, Option.some.injEq, Int.compare_eq_lt]

theorem atMost_iff (isWhole : a.exact = .finite k) (isWhole' : b.exact = .finite n) :
    a.atMost b = true ↔ k ≤ n := by
  unfold Number.atMost Number.same
  rw [Bool.or_eq_true, below_iff isWhole isWhole', compare?_whole isWhole isWhole', beq_iff_eq,
    Option.some.injEq, Int.compare_eq_eq, le_iff_lt_or_eq]

end Compare

end LineBasic.Rounding
