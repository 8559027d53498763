/-
**The shortest decimal of a float is found.**

A decimal is read as what its value is rounded to, so decimals of one value are one float. On the
grid with seventeen digits the nearer neighbour of a float is so close to it that it is read as the
float: the search for a shorter one ends there at the latest, and what it finds is the float again.

* `value`, `InReach`, `rounds_toFloat` — a decimal is read as what its value is rounded to;
* `toFloat_congr`, `unpack_toFloat` — decimals of one value are one float;
* `zpow_leadingPower_le`, `lt_zpow_leadingPower` — the leading digit of a fraction;
* `near_neighbours` — one of its neighbours is no further than half a step away;
* `shortest?_found` — the search finds a decimal that is read as the float.
-/

import LineBasic.Number.Shortest
import LineBasic.Proofs.Rounding.Scientific

namespace LineBasic.Decimal

open Rounding
open Float.Model (UnpackedFloat)

/-! ### The value of a decimal -/

/-- The fraction that a decimal stands for. -/
def value (d : Decimal) : ℚ :=
  d.digits * 10 ^ d.exponent

/-- A decimal whose digits and power of ten are small enough for whole numbers to decide it. -/
structure InReach (d : Decimal) : Prop where
  positive : 0 < d.digits
  short : d.digits < 2 ^ rangeBits
  low : -2048 ≤ d.exponent
  high : d.exponent ≤ 2048

theorem ten_zpow_pos (power : ℤ) : (0 : ℚ) < 10 ^ power :=
  zpow_pos (by norm_num) power

section Value

variable {d d' : Decimal} {m : ℕ} {e : ℤ}

/-- **A decimal is read as what its value is rounded to.** -/
theorem rounds_toFloat (inReach : d.InReach) :
    ∃ x, Rounds .positive d.value x ∧ d.toFloat.toModel = .pack x := by
  obtain ⟨digits, exponent⟩ := d
  obtain ⟨positive, short, low, high⟩ := inReach
  cases exponent with
  | ofNat places =>
    have few : digits.log2 < rangeBits := (Nat.log2_lt positive.ne').mpr short
    obtain ⟨x, rounds, packed⟩ := rounds_ofScientific positive (Int.ofNat_le.mp high) false
    refine ⟨x, ?_, ?_⟩
    · show Rounds .positive (digits * 10 ^ (places : ℤ)) x
      rwa [zpow_natCast]
    · show (if digits.log2 < rangeBits then _ else _ : Float).toModel = _
      rwa [if_pos few]
  | negSucc places =>
    have few : places + 1 ≤ 2048 := by
      simp only at low
      omega
    obtain ⟨x, rounds, packed⟩ := rounds_ofScientific positive few true
    refine ⟨x, ?_, packed⟩
    show Rounds .positive (digits * 10 ^ Int.negSucc places) x
    rwa [zpow_negSucc, ← div_eq_mul_inv]

/-- **Decimals of one value are one float.** -/
theorem toFloat_congr (inReach : d.InReach) (inReach' : d'.InReach) (same : d.value = d'.value) :
    d.toFloat = d'.toFloat := by
  obtain ⟨x, rounds, packed⟩ := rounds_toFloat inReach
  obtain ⟨x', rounds', packed'⟩ := rounds_toFloat inReach'
  rw [same] at rounds
  have models : d.toFloat.toModel = d'.toFloat.toModel := by
    rw [packed, packed', rounds.unique rounds']
  exact congrArg Float.ofModel models

/-- Zeros behind the digits can make up for the power of ten. -/
theorem value_zeros (digits zeros : ℕ) (exponent : ℤ) :
    value ⟨digits * 10 ^ zeros, exponent - zeros⟩ = value ⟨digits, exponent⟩ := by
  unfold value
  rw [Nat.cast_mul, Nat.cast_pow, Nat.cast_ofNat, zpow_sub₀ (by norm_num), zpow_natCast]
  field_simp

theorem value_trimmed (steps : ℕ) (d : Decimal) : (trimmed steps d).value = d.value := by
  obtain ⟨zeros, digits, exponent⟩ := trimmed_digits steps d
  rw [← value_zeros (trimmed steps d).digits zeros, exponent, add_sub_cancel_right, ← Nat.pow_eq,
    ← digits]

/-- **A decimal close to a float is read as it.** -/
theorem unpack_toFloat (inReach : d.InReach) (canonical : Canonical m e) (inRange : e ≤ 971)
    (near : |d.value - m * 2 ^ e| < m * 2 ^ e / 2 ^ 54) :
    d.toFloat.toModel.unpack = .finite .positive m e canonical.positive := by
  obtain ⟨x, rounds, packed⟩ := rounds_toFloat inReach
  rw [packed, rounds.unique (rounds_near canonical near),
    unpack_pack (.finite .positive canonical inRange)]

end Value

/-- A float equals a positive one just if it is made of the same parts. -/
theorem beq_iff {x : Float} {m : ℕ} {e : ℤ} {positive : 0 < m}
    (parts : x.toModel.unpack = .finite .positive m e positive) (y : Float) :
    (y == x) = true ↔ y.toModel.unpack = .finite .positive m e positive := by
  have equal : (y == x) = (y.toModel.unpack.compare x.toModel.unpack == some .eq) := rfl
  rw [equal, beq_iff_eq, parts]
  generalize y.toModel.unpack = parts'
  constructor
  · intro order
    cases parts' with
    | notANumber => cases order
    | infinity sign => cases sign <;> cases order
    | zero sign => cases order
    | finite sign m' e' positive' =>
      cases sign with
      | negative => cases order
      | positive =>
        have same : (compare e' e).then (compare m' m) = .eq := Option.some.inj order
        rw [Ordering.then_eq_eq, Int.compare_eq_eq, Nat.compare_eq_eq] at same
        obtain ⟨rfl, rfl⟩ := same
        rfl
  · rintro rfl
    have same : (compare e e).then (compare m m) = .eq := by
      rw [Ordering.then_eq_eq, Int.compare_eq_eq, Nat.compare_eq_eq]
      exact ⟨rfl, rfl⟩
    exact congrArg some same

/-! ### Brief decimals -/

/-- A decimal with no more than seventeen digits and a power of ten that floats have. -/
structure Brief (d : Decimal) : Prop where
  positive : 0 < d.digits
  short : d.digits ≤ 10 ^ 17
  low : -417 ≤ d.exponent
  high : d.exponent ≤ 417

theorem Brief.inReach {d : Decimal} (brief : d.Brief) {zeros : ℕ} (few : zeros ≤ 17) :
    InReach ⟨d.digits * 10 ^ zeros, d.exponent - zeros⟩ := by
  obtain ⟨positive, short, low, high⟩ := brief
  refine ⟨Nat.mul_pos positive (Nat.pow_pos (by decide)), ?_, ?_, ?_⟩
  · calc d.digits * 10 ^ zeros ≤ 10 ^ 17 * 10 ^ 17 :=
          Nat.mul_le_mul short (Nat.pow_le_pow_right (by decide) few)
      _ < 2 ^ 128 := by decide
      _ ≤ 2 ^ rangeBits := Nat.pow_le_pow_right (by decide) (by decide)
  · show -2048 ≤ d.exponent - zeros
    omega
  · show d.exponent - zeros ≤ 2048
    omega

theorem Brief.inReach_self {d : Decimal} (brief : d.Brief) : d.InReach := by
  have inReach := brief.inReach (Nat.zero_le 17)
  rwa [pow_zero, mul_one, Nat.cast_zero, sub_zero] at inReach

/-- It stays brief when zeros are taken off. -/
theorem Brief.trimmed {d : Decimal} (brief : d.Brief) (room : d.exponent ≤ 400) :
    (d.trimmed 17).Brief := by
  obtain ⟨positive, short, low, high⟩ := brief
  obtain ⟨zeros, digits, exponent⟩ := trimmed_digits 17 d
  rw [Nat.pow_eq] at digits
  have some : 0 < (d.trimmed 17).digits := Nat.pos_of_mul_pos_right (digits ▸ positive)
  have ten : 0 < 10 ^ zeros := Nat.pow_pos (by decide)
  have few : zeros ≤ 17 := by
    refine (Nat.pow_le_pow_iff_right (a := 10) (by decide)).mp (le_trans ?_ short)
    exact digits ▸ Nat.le_mul_of_pos_left _ some
  refine ⟨some, (Nat.le_mul_of_pos_right _ ten).trans (digits ▸ short), ?_, ?_⟩ <;> omega

/-! ### The value of a fraction -/

namespace Fraction

/-- The number that a fraction is. -/
def value (f : Fraction) : ℚ :=
  f.numerator / f.denominator

theorem value_ofBinary (m : ℕ) (e : ℤ) : (ofBinary m e).value = m * 2 ^ e := by
  unfold ofBinary value
  cases e with
  | ofNat places =>
    show ((m * 2 ^ places : ℕ) : ℚ) / (1 : ℕ) = m * 2 ^ (places : ℤ)
    rw [Nat.cast_one, div_one, zpow_natCast]
    push_cast
    rfl
  | negSucc places =>
    show (m : ℚ) / (2 ^ (places + 1) : ℕ) = m * 2 ^ Int.negSucc places
    rw [zpow_negSucc, ← div_eq_mul_inv, Nat.cast_pow, Nat.cast_ofNat]

variable {f : Fraction}

theorem value_scaled (f : Fraction) (power : ℤ) :
    (f.scaled power).value = f.value / 10 ^ power := by
  unfold scaled value
  cases power with
  | ofNat places =>
    show (f.numerator : ℚ) / (f.denominator * 10 ^ places : ℕ) = _ / 10 ^ (places : ℤ)
    rw [zpow_natCast, div_div]
    push_cast
    rfl
  | negSucc places =>
    show ((f.numerator * 10 ^ (places + 1) : ℕ) : ℚ) / f.denominator = _
    rw [zpow_negSucc, div_inv_eq_mul, div_mul_eq_mul_div]
    push_cast
    rfl

theorem floor_value (f : Fraction) : f.numerator / f.denominator = ⌊f.value⌋₊ :=
  (Nat.floor_div_eq_div f.numerator f.denominator).symm

/-! ### The leading digit -/

theorem lt_pow_width (n : ℕ) : n < 10 ^ width n :=
  (Nat.length_toDigits_le_iff (by decide) Nat.length_toDigits_pos).mp le_rfl

theorem pow_width_le {n : ℕ} (positive : 0 < n) : 10 ^ (width n - 1) ≤ n := by
  by_contra above
  have some : width n - 1 ≠ 0 := by
    intro none
    rw [none] at above
    omega
  have shorter : width n ≤ width n - 1 :=
    (Nat.length_toDigits_le_iff (by decide) (Nat.pos_of_ne_zero some)).mpr (Nat.lt_of_not_le above)
  omega

section Leading

theorem leadingPower_eq (f : Fraction) :
    f.leadingPower = (width ⌊f.value / 10 ^ (-400 : ℤ)⌋₊ : ℤ) - 401 := by
  unfold leadingPower
  rw [← value_scaled, ← floor_value]

theorem zpow_raised {leading : ℤ} {n : ℕ} (same : leading + 400 = n) :
    (10 : ℚ) ^ leading / 10 ^ (-400 : ℤ) = (10 ^ n : ℕ) := by
  rw [← zpow_sub₀ (by norm_num), sub_neg_eq_add, same, zpow_natCast, Nat.cast_pow, Nat.cast_ofNat]

/-- **A fraction is no less than the power of ten of its leading digit.** -/
theorem zpow_leadingPower_le (above : (10 : ℚ) ^ (-400 : ℤ) ≤ f.value) :
    (10 : ℚ) ^ f.leadingPower ≤ f.value := by
  have unit := ten_zpow_pos (-400)
  have some : 0 < width ⌊f.value / 10 ^ (-400 : ℤ)⌋₊ := Nat.length_toDigits_pos
  have lower := pow_width_le (Nat.floor_pos.mpr ((one_le_div₀ unit).mpr above))
  rw [← div_le_div_iff_of_pos_right unit,
    zpow_raised (n := width ⌊f.value / 10 ^ (-400 : ℤ)⌋₊ - 1) (by rw [leadingPower_eq]; omega)]
  exact (Nat.cast_le.mpr lower).trans
    (Nat.floor_le (div_nonneg (unit.le.trans above) unit.le))

/-- **It is less than the next one.** -/
theorem lt_zpow_leadingPower (f : Fraction) : f.value < (10 : ℚ) ^ (f.leadingPower + 1) := by
  have unit := ten_zpow_pos (-400)
  have upper := lt_pow_width ⌊f.value / 10 ^ (-400 : ℤ)⌋₊
  rw [← div_lt_div_iff_of_pos_right unit,
    zpow_raised (n := width ⌊f.value / 10 ^ (-400 : ℤ)⌋₊) (by rw [leadingPower_eq]; omega)]
  exact (Nat.lt_floor_add_one _).trans_le (by exact_mod_cast upper)

end Leading

end Fraction

/-! ### The neighbours of a fraction -/

section Neighbours

variable {f : Fraction} {power leading : ℤ} {count : ℕ} {d : Decimal}

theorem mem_neighbours_iff (f : Fraction) (power : ℤ) (d : Decimal) :
    d ∈ neighbours f power ↔
      d = ⟨⌊f.value / 10 ^ power⌋₊, power⟩ ∨ d = ⟨⌊f.value / 10 ^ power⌋₊ + 1, power⟩ := by
  unfold neighbours
  rw [← Fraction.value_scaled, ← Fraction.floor_value]
  simp only
  split
  · rw [List.mem_pair, or_comm]
  · rw [List.mem_pair]

/-- **One of the neighbours is no further than half a step away.** -/
theorem near_neighbours (positive : 0 ≤ f.value) (power : ℤ) :
    ∃ d ∈ neighbours f power, |d.value - f.value| ≤ 10 ^ power / 2 := by
  have unit := ten_zpow_pos power
  have steps : f.value = f.value / 10 ^ power * 10 ^ power := (div_mul_cancel₀ _ unit.ne').symm
  have lower := Nat.floor_le (div_nonneg positive unit.le)
  have upper := Nat.lt_floor_add_one (f.value / 10 ^ power)
  have distance (n : ℕ) (near : |(n : ℚ) - f.value / 10 ^ power| ≤ 1 / 2) :
      |value ⟨n, power⟩ - f.value| ≤ 10 ^ power / 2 := by
    rw [steps, value, ← sub_mul, abs_mul, abs_of_pos unit]
    linarith [mul_le_mul_of_nonneg_right near unit.le]
  by_cases first : f.value / 10 ^ power - ⌊f.value / 10 ^ power⌋₊ ≤ 1 / 2
  · refine ⟨_, (mem_neighbours_iff f power _).mpr (.inl rfl), distance _ ?_⟩
    rw [abs_le]
    constructor <;> linarith
  · refine ⟨_, (mem_neighbours_iff f power _).mpr (.inr rfl), distance _ ?_⟩
    push_cast
    rw [abs_le]
    constructor <;> linarith

/-- Among seventeen digits from the leading one of a fraction, its neighbours have few. -/
theorem digits_of_mem_neighbours (above : (10 : ℚ) ^ leading ≤ f.value)
    (below : f.value < (10 : ℚ) ^ (leading + 1)) (some : 1 ≤ count) (few : count ≤ 17)
    (member : d ∈ neighbours f (leading - count + 1)) : 0 < d.digits ∧ d.digits ≤ 10 ^ 17 := by
  have unit := ten_zpow_pos (leading - count + 1)
  have lower : 1 ≤ ⌊f.value / 10 ^ (leading - count + 1)⌋₊ := by
    refine Nat.floor_pos.mpr ((one_le_div₀ unit).mpr (le_trans ?_ above))
    exact zpow_le_zpow_right₀ (by norm_num) (by omega)
  have upper : ⌊f.value / 10 ^ (leading - count + 1)⌋₊ < 10 ^ count := by
    refine (Nat.floor_lt' (Nat.pow_pos (by decide)).ne').mpr ((div_lt_iff₀ unit).mpr ?_)
    have split : leading + 1 = count + (leading - count + 1) := by omega
    rw [split, zpow_add₀ (by norm_num), zpow_natCast] at below
    exact_mod_cast below
  have most : 10 ^ count ≤ 10 ^ 17 := Nat.pow_le_pow_right (by decide) few
  rcases (mem_neighbours_iff _ _ _).mp member with rfl | rfl
  · exact ⟨lower, upper.le.trans most⟩
  · exact ⟨Nat.succ_pos _, upper.trans_le most⟩

end Neighbours

/-! ### The search -/

section Search

variable {x : Float} {f : Fraction} {leading : ℤ} {counts : List ℕ} {count : ℕ} {d : Decimal}

/-- What is found is a neighbour for one of the counts. -/
theorem mem_of_shortestAmong (found : shortestAmong x f leading counts = some d) :
    ∃ count ∈ counts, d ∈ neighbours f (leading - count + 1) := by
  induction counts with
  | nil => cases found
  | cons digits more hypothesis =>
    rw [shortestAmong] at found
    split at found
    · next hit =>
      cases found
      exact ⟨digits, List.mem_cons_self, List.mem_of_find?_eq_some hit⟩
    · obtain ⟨count, member, near⟩ := hypothesis found
      exact ⟨count, List.mem_cons_of_mem digits member, near⟩

/-- Something is found if a neighbour for one of the counts reads back. -/
theorem shortestAmong_found (member : count ∈ counts)
    (near : d ∈ neighbours f (leading - count + 1)) (reads : readsBack x d = true) :
    ∃ d', shortestAmong x f leading counts = some d' := by
  induction counts with
  | nil => cases member
  | cons digits more hypothesis =>
    rw [shortestAmong]
    split
    · exact ⟨_, rfl⟩
    · next missed =>
      rcases List.mem_cons.mp member with rfl | later
      · exact absurd reads (List.find?_eq_none.mp missed d near)
      · exact hypothesis later

end Search

section Found

variable {m : ℕ} {e : ℤ}

theorem two_zpow_le : (2 : ℚ) ^ (1200 : ℤ) ≤ 10 ^ (400 : ℤ) :=
  calc (2 : ℚ) ^ (1200 : ℤ) = (2 ^ (3 : ℤ)) ^ (400 : ℤ) := zpow_mul 2 3 400
    _ ≤ 10 ^ (400 : ℤ) := zpow_le_zpow_left₀ (by decide) (by norm_num) (by norm_num)

/-- A float lies within the powers of ten that are searched. -/
theorem zpow_le_canonical (canonical : Canonical m e) : (10 : ℚ) ^ (-400 : ℤ) ≤ m * 2 ^ e :=
  calc (10 : ℚ) ^ (-400 : ℤ) = (10 ^ (400 : ℤ))⁻¹ := zpow_neg 10 400
    _ ≤ (2 ^ (1200 : ℤ))⁻¹ := inv_anti₀ (two_zpow_pos 1200) two_zpow_le
    _ = 2 ^ (-1200 : ℤ) := (zpow_neg 2 1200).symm
    _ ≤ 2 ^ e := zpow_le_zpow_right₀ (by norm_num) (by linarith [canonical.least])
    _ ≤ m * 2 ^ e :=
        le_mul_of_one_le_left (two_zpow_pos e).le (by exact_mod_cast canonical.positive)

theorem canonical_lt_zpow (canonical : Canonical m e) (inRange : e ≤ 971) :
    m * 2 ^ e < (10 : ℚ) ^ (400 : ℤ) :=
  calc (m : ℚ) * 2 ^ e < 2 ^ 53 * 2 ^ e :=
        mul_lt_mul_of_pos_right (by exact_mod_cast canonical.small) (two_zpow_pos e)
    _ = 2 ^ (((53 : ℕ) : ℤ) + e) := two_zpow_add _ _
    _ ≤ 2 ^ (1200 : ℤ) := zpow_le_zpow_right₀ (by norm_num) (by omega)
    _ ≤ 10 ^ (400 : ℤ) := two_zpow_le

/-- The power of ten of the leading digit of a float. -/
theorem leadingPower_bounds (canonical : Canonical m e) (inRange : e ≤ 971) :
    -401 < (Fraction.ofBinary m e).leadingPower ∧ (Fraction.ofBinary m e).leadingPower < 400 := by
  have low := zpow_le_canonical canonical
  have high := canonical_lt_zpow canonical inRange
  rw [← Fraction.value_ofBinary] at low high
  have above := low.trans_lt (Fraction.lt_zpow_leadingPower (.ofBinary m e))
  have below := (Fraction.zpow_leadingPower_le low).trans_lt high
  rw [zpow_lt_zpow_iff_right₀ (by norm_num)] at above below
  omega

/-- The neighbours that are searched are brief. -/
theorem brief_of_mem {d : Decimal} {count : ℕ} (canonical : Canonical m e) (inRange : e ≤ 971)
    (some : 1 ≤ count) (few : count ≤ 17) (member :
      d ∈ neighbours (.ofBinary m e) ((Fraction.ofBinary m e).leadingPower - count + 1)) :
    d.Brief ∧ d.exponent ≤ 400 := by
  have low := zpow_le_canonical canonical
  rw [← Fraction.value_ofBinary] at low
  have digits := digits_of_mem_neighbours (Fraction.zpow_leadingPower_le low)
    (Fraction.lt_zpow_leadingPower _) some few member
  have power : d.exponent = (Fraction.ofBinary m e).leadingPower - count + 1 := by
    rcases (mem_neighbours_iff _ _ _).mp member with rfl | rfl <;> rfl
  have bounds := leadingPower_bounds canonical inRange
  exact ⟨⟨digits.1, digits.2, by omega, by omega⟩, by omega⟩

/-- **Seventeen digits are enough**: one of the neighbours is read as the float. -/
theorem seventeen_read {x : Float} (canonical : Canonical m e) (inRange : e ≤ 971)
    (parts : x.toModel.unpack = .finite .positive m e canonical.positive) :
    ∃ d ∈ neighbours (.ofBinary m e) ((Fraction.ofBinary m e).leadingPower - (17 : ℕ) + 1),
      readsBack x d = true := by
  have value := Fraction.value_ofBinary m e
  have low := zpow_le_canonical canonical
  rw [← value] at low
  have leads := Fraction.zpow_leadingPower_le low
  have positive := (ten_zpow_pos (-400)).le.trans low
  obtain ⟨d, member, near⟩ :=
    near_neighbours positive ((Fraction.ofBinary m e).leadingPower - (17 : ℕ) + 1)
  refine ⟨d, member, (beq_iff parts _).mpr ?_⟩
  have brief := (brief_of_mem canonical inRange (by decide) le_rfl member).1
  refine unpack_toFloat brief.inReach_self canonical inRange ?_
  rw [← value]
  refine near.trans_lt ?_
  -- Half a step is less, since `10 ^ 16` is above `2 ^ 53`.
  have steps : (10 : ℚ) ^ (Fraction.ofBinary m e).leadingPower =
      10 ^ 16 * 10 ^ ((Fraction.ofBinary m e).leadingPower - (17 : ℕ) + 1) := by
    rw [← zpow_natCast (10 : ℚ) 16, ← zpow_add₀ (by norm_num)]
    congr 1
    omega
  have step := ten_zpow_pos ((Fraction.ofBinary m e).leadingPower - (17 : ℕ) + 1)
  rw [steps] at leads
  generalize (10 : ℚ) ^ ((Fraction.ofBinary m e).leadingPower - (17 : ℕ) + 1) = unit at leads step ⊢
  linarith

/-- **The search finds a decimal that is read as the float.** -/
theorem shortest?_found {x : Float} (canonical : Canonical m e) (inRange : e ≤ 971)
    (parts : x.toModel.unpack = .finite .positive m e canonical.positive) :
    ∃ d, shortest? x m e = some d ∧ d.Brief ∧
      d.toFloat.toModel.unpack = .finite .positive m e canonical.positive := by
  obtain ⟨near, member, reads⟩ := seventeen_read canonical inRange parts
  have counted : 17 ∈ List.range' 1 17 := List.mem_range'_1.mpr (by decide)
  obtain ⟨d, found⟩ := shortestAmong_found counted member reads
  obtain ⟨count, between, member⟩ := mem_of_shortestAmong found
  rw [List.mem_range'_1] at between
  obtain ⟨brief, room⟩ := brief_of_mem canonical inRange between.1 (by omega) member
  refine ⟨d.trimmed 17, ?_, brief.trimmed room, ?_⟩
  · unfold shortest?
    simp only [found, Option.map_some]
  · rw [toFloat_congr (brief.trimmed room).inReach_self brief.inReach_self (value_trimmed 17 d)]
    exact (beq_iff parts _).mp (readsBack_shortest found)

end Found

end LineBasic.Decimal
