/-
**Decimals as floats.**

A decimal of few digits and a small power of ten is read by one product or quotient of two exact
floats, any other one by whole numbers of any size. Either way it is rounded once, so the float
depends on the value of the decimal alone.

* `unpack_ofNat` — a whole number with few enough binary digits is a float;
* `rounds_ofScientific` — a decimal is read as what its value is rounded to.
-/

import LineBasic.Proofs.Rounding.Packed

namespace LineBasic.Rounding

open Float.Model (UnpackedFloat Format)
open Float.Model.UnpackedFloat (Sign)

/-! ### Whole numbers -/

section Whole

variable {sign : Sign} {m n places : ℕ} {e : ℤ} {x : UnpackedFloat}

theorem Canonical.inRange (canonical : Canonical m e) (below : (m : ℚ) * 2 ^ e < 2 ^ (972 : ℤ)) :
    e ≤ 971 := by
  have one : (1 : ℚ) ≤ m := by exact_mod_cast canonical.positive
  have between := (le_mul_of_one_le_left (two_zpow_pos e).le one).trans_lt below
  rw [zpow_lt_zpow_iff_right₀ (by norm_num)] at between
  omega

/-- A float that is one or above has all its digits. -/
theorem Canonical.long (canonical : Canonical m e) (above : (1 : ℚ) ≤ m * 2 ^ e) : 2 ^ 52 ≤ m := by
  refine canonical.normal.resolve_left fun low => ?_
  have small : (m : ℚ) * 2 ^ e < 2 ^ 53 * 2 ^ e :=
    mul_lt_mul_of_pos_right (by exact_mod_cast canonical.small) (two_zpow_pos e)
  rw [two_zpow_add, low] at small
  have least : (2 : ℚ) ^ (((53 : ℕ) : ℤ) + -1074) ≤ 2 ^ (0 : ℤ) :=
    zpow_le_zpow_right₀ (by norm_num) (by decide)
  rw [zpow_zero] at least
  rw [low] at above
  linarith

/-- A whole number with few enough binary digits in front of its zeros is rounded to itself. -/
theorem rounds_whole (positive : 0 < m) (small : m < 2 ^ 53) (few : places ≤ 900)
    (rounds : Rounds sign ((m * 2 ^ places : ℕ) : ℚ) x) :
    ∃ m' e', ∃ canonical : Canonical m' e', x = .finite sign m' e' canonical.positive ∧
      (m' : ℚ) * 2 ^ e' = ((m * 2 ^ places : ℕ) : ℚ) ∧ e' ≤ 971 := by
  have value : ((m * 2 ^ places : ℕ) : ℚ) = m * 2 ^ (places : ℤ) := by
    rw [zpow_natCast]
    push_cast
    rfl
  rw [value] at rounds ⊢
  obtain ⟨m', e', canonical, rfl, same⟩ :=
    rounds_representable positive small (by omega) rounds
  refine ⟨m', e', canonical, rfl, same, canonical.inRange ?_⟩
  calc (m' : ℚ) * 2 ^ e' = m * 2 ^ (places : ℤ) := same
    _ < 2 ^ 53 * 2 ^ (places : ℤ) :=
        mul_lt_mul_of_pos_right (by exact_mod_cast small) (two_zpow_pos _)
    _ = 2 ^ (((53 : ℕ) : ℤ) + places) := two_zpow_add _ _
    _ ≤ 2 ^ (972 : ℤ) := zpow_le_zpow_right₀ (by norm_num) (by omega)

theorem normalize_natCast (sign : Sign) (positive : 0 < n) :
    UnpackedFloat.normalize .binary64 n 0 sign = UnpackedFloat.round .binary64 .positive n 0 := by
  have above : compare (n : ℤ) 0 = .gt := Int.compare_eq_gt.mpr (by omega)
  unfold UnpackedFloat.normalize
  rw [above]
  rfl

/-- A whole number with few enough binary digits in front of its zeros is a float. -/
theorem unpack_ofNat (positive : 0 < m) (small : m < 2 ^ 53) (few : places ≤ 900) :
    ∃ m' e', ∃ canonical : Canonical m' e',
      (Float.Model.ofNat (m * 2 ^ places)).unpack = .finite .positive m' e' canonical.positive ∧
        (m' : ℚ) * 2 ^ e' = ((m * 2 ^ places : ℕ) : ℚ) := by
  have some : 0 < m * 2 ^ places := Nat.mul_pos positive (Nat.two_pow_pos places)
  have rounds := rounds_round some .positive 0
  rw [zpow_zero, mul_one, ← normalize_natCast .positive some] at rounds
  obtain ⟨m', e', canonical, shape, value, inRange⟩ := rounds_whole positive small few rounds
  refine ⟨m', e', canonical, ?_, value⟩
  rw [← unpack_pack (.finite .positive canonical inRange), ← shape]
  rfl

end Whole

/-! ### The powers of ten kept ready -/

/-- The powers of ten that are kept ready are what the whole numbers are rounded to. -/
theorem powersOfTen_eq : ∀ power : Fin 23,
    Float.exactlyRepresentablePowersOfTen[power.val]? =
      some (.ofModel (.ofNat (10 ^ power.val))) := by
  decide +kernel

/-- They are exact. -/
theorem unpack_powerOfTen {power : ℕ}
    (inside : power < Float.exactlyRepresentablePowersOfTen.size) :
    ∃ m e, ∃ canonical : Canonical m e,
      Float.exactlyRepresentablePowersOfTen[power].toModel.unpack =
        .finite .positive m e canonical.positive ∧ (m : ℚ) * 2 ^ e = 10 ^ power := by
  have few : power < 23 := inside
  have split : 10 ^ power = 5 ^ power * 2 ^ power := (Nat.mul_pow 5 2 power)
  have small : 5 ^ power < 2 ^ 53 :=
    (Nat.pow_le_pow_right (by decide) (by omega : power ≤ 22)).trans_lt (by decide)
  have same : Float.exactlyRepresentablePowersOfTen[power] = .ofModel (.ofNat (10 ^ power)) :=
    (Array.getElem?_eq_some_iff.mp (powersOfTen_eq ⟨power, few⟩)).2
  obtain ⟨m, e, canonical, shape, value⟩ :=
    unpack_ofNat (Nat.pow_pos (by decide)) small (by omega : power ≤ 900)
  rw [← split] at shape value
  exact ⟨m, e, canonical, (congrArg (fun x => x.toModel.unpack) same).trans shape,
    by exact_mod_cast value⟩

/-! ### Decimals -/

section Scientific

variable {m power : ℕ}

/-- Digits times a power of ten, or divided by it. -/
def tens (m : ℕ) (down : Bool) (power : ℕ) : ℚ :=
  if down then m / 10 ^ power else m * 10 ^ power

/-- Few digits and a small power of ten: one operation on two exact floats. -/
theorem rounds_ofScientific_ready (positive : 0 < m) (small : m < 2 ^ 53) (ready : power ≤ 22)
    (down : Bool) :
    ∃ x, Rounds .positive (tens m down power) x ∧
      (Float.ofScientific m down power).toModel = .pack x := by
  obtain ⟨m₁, e₁, canonical₁, shape₁, value₁⟩ := unpack_ofNat positive small (Nat.zero_le 900)
  obtain ⟨m₂, e₂, canonical₂, shape₂, value₂⟩ := unpack_powerOfTen (show power < 23 by omega)
  rw [pow_zero, mul_one] at shape₁ value₁
  have digits : m.toUInt64.toFloat.toModel.unpack =
      .finite .positive m₁ e₁ canonical₁.positive := by
    rw [← shape₁]
    show (Float.Model.ofNat m.toUInt64.toNat).unpack = _
    rw [Nat.toUInt64_eq, UInt64.toNat_ofNat', Nat.mod_eq_of_lt (by omega)]
  have one : (1 : ℚ) ≤ m₂ * 2 ^ e₂ := by
    rw [value₂]
    exact one_le_pow₀ (by norm_num)
  unfold Float.ofScientific tens
  rw [dif_pos ⟨small, ready⟩, ← value₁, ← value₂]
  cases down with
  | false =>
    have long := (canonical₂.long one).trans (Nat.le_mul_of_pos_left m₂ canonical₁.positive)
    refine ⟨_, rounds_mul .positive .positive canonical₁.positive
      canonical₂.positive long, ?_⟩
    rw [← digits, ← shape₂]
    rfl
  | true =>
    refine ⟨_, rounds_div .positive .positive canonical₁.positive
      canonical₂.positive, ?_⟩
    rw [← digits, ← shape₂]
    rfl

/-- A power of ten above one: a product of whole numbers, the digits moved up first. -/
theorem rounds_ofScientific_up (positive : 0 < m) (few : power ≤ 2048) :
    Rounds .positive (m * 10 ^ power) (UnpackedFloat.ofScientific .binary64 m power) := by
  have ten : 0 < 10 ^ power := Nat.pow_pos (by decide)
  have digits : 0 < m * 2 ^ 53 := Nat.mul_pos positive (by decide)
  have product : UnpackedFloat.ofScientific .binary64 m power =
      UnpackedFloat.mul .binary64 (.finite .positive (m * 2 ^ 53) (-53) digits)
        (.finite .positive (10 ^ power) 0 ten) := by
    have below : ¬(power : ℤ) > 2 ^ Format.binary64.exponentBits := by
      show ¬(power : ℤ) > 2 ^ 11
      omega
    have above : ¬(power : ℤ) < -(2 ^ Format.binary64.exponentBits + m.log2) := by
      show ¬(power : ℤ) < -(2 ^ 11 + m.log2)
      omega
    have bits : Format.binary64.mantissaBits = 53 := rfl
    unfold UnpackedFloat.ofScientific
    rw [dif_neg positive.ne', if_neg below, if_neg above, if_pos (Int.natCast_nonneg power)]
    simp only [Int.toNat_natCast, bits, Nat.shiftLeft_eq]
    rfl
  have long : 2 ^ 52 ≤ m * 2 ^ 53 * 10 ^ power :=
    calc 2 ^ 52 ≤ m * 2 ^ 53 := by omega
      _ ≤ m * 2 ^ 53 * 10 ^ power := Nat.le_mul_of_pos_right _ ten
  have value : (m : ℚ) * 10 ^ power =
      ((m * 2 ^ 53 : ℕ) : ℚ) * 2 ^ (-53 : ℤ) * (((10 ^ power : ℕ) : ℚ) * 2 ^ (0 : ℤ)) := by
    rw [Nat.cast_mul, Nat.cast_pow, Nat.cast_ofNat, mul_assoc (m : ℚ), two_zpow_add, zpow_zero,
      mul_one]
    norm_num
  rw [product, value]
  exact rounds_mul .positive .positive digits ten long

/-- A power of ten below one: a quotient of whole numbers. -/
theorem rounds_ofScientific_down (positive : 0 < m) (few : power ≤ 2048) :
    Rounds .positive (m / 10 ^ power) (UnpackedFloat.ofScientific .binary64 m (-power)) := by
  rcases Nat.eq_zero_or_pos power with rfl | some
  · have same := rounds_ofScientific_up positive few
    rw [pow_zero, mul_one] at same
    rw [pow_zero, div_one]
    exact same
  have ten : 0 < 10 ^ power := Nat.pow_pos (by decide)
  have quotient : UnpackedFloat.ofScientific .binary64 m (-power) =
      UnpackedFloat.div .binary64 (.finite .positive m 0 positive)
        (.finite .positive (10 ^ power) 0 ten) := by
    have below : ¬-(power : ℤ) > 2 ^ Format.binary64.exponentBits := by
      show ¬-(power : ℤ) > 2 ^ 11
      omega
    have above : ¬-(power : ℤ) < -(2 ^ Format.binary64.exponentBits + m.log2) := by
      show ¬-(power : ℤ) < -(2 ^ 11 + m.log2)
      omega
    unfold UnpackedFloat.ofScientific
    rw [dif_neg positive.ne', if_neg below, if_neg above, if_neg (by omega)]
    simp only [neg_neg, Int.toNat_natCast]
  have value : (m : ℚ) / 10 ^ power =
      (m : ℚ) * 2 ^ (0 : ℤ) / (((10 ^ power : ℕ) : ℚ) * 2 ^ (0 : ℤ)) := by
    rw [zpow_zero, mul_one, mul_one, Nat.cast_pow, Nat.cast_ofNat]
  rw [quotient, value]
  exact rounds_div .positive .positive positive ten

/-- **A decimal is read as what its value is rounded to.** -/
theorem rounds_ofScientific (positive : 0 < m) (few : power ≤ 2048) (down : Bool) :
    ∃ x, Rounds .positive (tens m down power) x ∧
      (Float.ofScientific m down power).toModel = .pack x := by
  by_cases ready : m < 2 ^ 53 ∧ power ≤ 22
  · exact rounds_ofScientific_ready positive ready.1 ready.2 down
  · unfold Float.ofScientific
    rw [dif_neg ready]
    cases down with
    | false => exact ⟨_, rounds_ofScientific_up positive few, rfl⟩
    | true =>
      refine ⟨_, rounds_ofScientific_down positive few, ?_⟩
      have negated : -(power : ℤ) = Int.negOfNat power := by
        cases power <;> rfl
      rw [negated]
      rfl

end Scientific

end LineBasic.Rounding
