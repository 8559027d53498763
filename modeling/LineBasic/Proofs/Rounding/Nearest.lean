/-
**The float nearest to a fraction.**

A float has 53 binary digits, and its last place is never below `2 ^ -1074`. To round a positive
fraction is to count it in units of the last place of the floats around it, to take the whole
number that is nearest, of two equally near ones the even one, and to carry where this has one digit
too many. The size of the result is left open, so a result past the range of floats is one too.

* `NearestWhole`, `LastPlace`, `carried` — the parts of rounding;
* `Rounds` — what a fraction is rounded to, `Rounds.unique`, which is one thing only;
* `rounds_representable` — a fraction that a float stands for is rounded to its own value;
* `rounds_near` — so is a fraction that differs from it by less than its `2 ^ 54`th part.
-/

import Mathlib

namespace LineBasic.Rounding

open Float.Model (UnpackedFloat)
open Float.Model.UnpackedFloat (Sign)

/-! ### Whole numbers -/

/-- A whole number that no other one is nearer to a fraction than, and that is even where another
one is as near. -/
def NearestWhole (q : ℚ) (n : ℕ) : Prop :=
  |q - n| < 1 / 2 ∨ (|q - n| = 1 / 2 ∧ n % 2 = 0)

section NearestWhole

variable {q : ℚ} {n n' : ℕ}

theorem NearestWhole.near (nearest : NearestWhole q n) : |q - n| ≤ 1 / 2 :=
  nearest.elim le_of_lt fun tie => tie.1.le

theorem NearestWhole.le (nearest : NearestWhole q n) (nearest' : NearestWhole q n') : n ≤ n' := by
  by_contra above
  have apart : (n' : ℚ) + 1 ≤ n := by exact_mod_cast Nat.lt_of_not_le above
  have upper := abs_le.mp nearest.near
  have lower := abs_le.mp nearest'.near
  -- The fraction lies halfway between the two, so both are even.
  have half : q - n = -(1 / 2) := by linarith
  have half' : q - n' = 1 / 2 := by linarith
  have next : (n : ℚ) = n' + 1 := by linarith
  have even : n % 2 = 0 := by
    rcases nearest with nearer | ⟨-, even⟩
    · rw [half] at nearer
      norm_num at nearer
    · exact even
  have even' : n' % 2 = 0 := by
    rcases nearest' with nearer | ⟨-, even⟩
    · rw [half'] at nearer
      norm_num at nearer
    · exact even
  have next' : n = n' + 1 := by exact_mod_cast next
  omega

theorem NearestWhole.unique (nearest : NearestWhole q n) (nearest' : NearestWhole q n') : n = n' :=
  Nat.le_antisymm (nearest.le nearest') (nearest'.le nearest)

theorem nearestWhole_natCast (n : ℕ) : NearestWhole (n : ℚ) n := by
  left
  rw [sub_self, abs_zero]
  norm_num

/-- Below a bound there is none but the bound that is nearest. -/
theorem NearestWhole.le_of_lt {bound : ℕ} (nearest : NearestWhole q n) (below : q < bound) :
    n ≤ bound := by
  by_contra above
  have apart : (bound : ℚ) + 1 ≤ n := by exact_mod_cast Nat.lt_of_not_le above
  have lower := abs_le.mp nearest.near
  linarith

end NearestWhole

/-! ### The last place -/

theorem two_zpow_pos (e : ℤ) : (0 : ℚ) < 2 ^ e :=
  zpow_pos (by norm_num) e

theorem two_zpow_add (k : ℕ) (e : ℤ) : (2 : ℚ) ^ k * 2 ^ e = 2 ^ ((k : ℤ) + e) := by
  rw [zpow_add₀ (by norm_num), zpow_natCast]

/-- **The exponent of the last place** of the floats around a positive fraction: the fraction has
53 digits in front of it, or fewer if the place is the least there is. -/
structure LastPlace (q : ℚ) (e : ℤ) : Prop where
  least : -1074 ≤ e
  below : q < 2 ^ 53 * 2 ^ e
  above : e = -1074 ∨ 2 ^ 52 * 2 ^ e ≤ q

section LastPlace

variable {q : ℚ} {e e' : ℤ}

/-- A place with 53 digits in front of it, or the least one, is no higher than the last place. -/
theorem LastPlace.ge (place : LastPlace q e) (above : e' = -1074 ∨ 2 ^ 52 * 2 ^ e' ≤ q) :
    e' ≤ e := by
  rcases above with rfl | above
  · exact place.least
  · have between : (2 : ℚ) ^ 52 * 2 ^ e' < 2 ^ 53 * 2 ^ e := above.trans_lt place.below
    rw [two_zpow_add, two_zpow_add, zpow_lt_zpow_iff_right₀ (by norm_num)] at between
    omega

theorem LastPlace.unique (place : LastPlace q e) (place' : LastPlace q e') : e = e' :=
  le_antisymm (place'.ge place.above) (place.ge place'.above)

/-- Every positive fraction has a last place. -/
theorem lastPlace_exists (positive : 0 < q) : ∃ e, LastPlace q e := by
  have lower : (2 : ℚ) ^ Int.log 2 q ≤ q := Int.zpow_log_le_self (by norm_num) positive
  have upper : q < (2 : ℚ) ^ (Int.log 2 q + 1) := Int.lt_zpow_succ_log_self (by norm_num) q
  refine ⟨max (Int.log 2 q - 52) (-1074), le_max_right _ _, upper.trans_le ?_, ?_⟩
  · rw [two_zpow_add, zpow_le_zpow_iff_right₀ (by norm_num)]
    omega
  · rcases le_total (Int.log 2 q - 52) (-1074) with low | high
    · exact .inl (max_eq_right low)
    · right
      rw [max_eq_left high, two_zpow_add]
      have same : ((52 : ℕ) : ℤ) + (Int.log 2 q - 52) = Int.log 2 q := by omega
      rwa [same]

end LastPlace

/-! ### Floats by mantissa and exponent -/

/-- A mantissa and an exponent as floats have them: 53 digits, or fewer at the least exponent. -/
structure Canonical (m : ℕ) (e : ℤ) : Prop where
  positive : 0 < m
  small : m < 2 ^ 53
  least : -1074 ≤ e
  normal : e = -1074 ∨ 2 ^ 52 ≤ m

/-- The float with a number of units of its last place; one digit too many is carried. -/
def carried (sign : Sign) (n : ℕ) (e : ℤ) : UnpackedFloat :=
  if positive : 0 < n then
    if n < 2 ^ 53 then .finite sign n e positive else .finite sign (2 ^ 52) (e + 1) (by decide)
  else .zero sign

/-- **What a positive fraction is rounded to.** -/
def Rounds (sign : Sign) (q : ℚ) (x : UnpackedFloat) : Prop :=
  ∃ e n, LastPlace q e ∧ NearestWhole (q / 2 ^ e) n ∧ x = carried sign n e

section Rounds

variable {sign : Sign} {q : ℚ} {x x' : UnpackedFloat} {m : ℕ} {e : ℤ}

/-- **A fraction is rounded to one float only.** -/
theorem Rounds.unique (rounds : Rounds sign q x) (rounds' : Rounds sign q x') : x = x' := by
  obtain ⟨e, n, place, nearest, rfl⟩ := rounds
  obtain ⟨e', n', place', nearest', rfl⟩ := rounds'
  cases place.unique place'
  rw [nearest.unique nearest']

theorem carried_small (positive : 0 < m) (small : m < 2 ^ 53) :
    carried sign m e = .finite sign m e positive := by
  rw [carried, dif_pos positive, if_pos small]

/-- **A fraction that some float stands for is rounded to its own value**, with the mantissa and
the exponent that floats have. -/
theorem rounds_representable (positive : 0 < m) (small : m < 2 ^ 53) (least : -1074 ≤ e)
    (rounds : Rounds sign (m * 2 ^ e) x) :
    ∃ m' e', ∃ canonical : Canonical m' e', x = .finite sign m' e' canonical.positive ∧
      (m' : ℚ) * 2 ^ e' = m * 2 ^ e := by
  obtain ⟨place, n, isPlace, nearest, rfl⟩ := rounds
  have unit := two_zpow_pos place
  have low : place ≤ e := by
    by_contra high
    have above := isPlace.above.resolve_left (by omega)
    have below : (m : ℚ) * 2 ^ e < 2 ^ 53 * 2 ^ e :=
      mul_lt_mul_of_pos_right (by exact_mod_cast small) (two_zpow_pos e)
    have between := above.trans_lt below
    rw [two_zpow_add, two_zpow_add, zpow_lt_zpow_iff_right₀ (by norm_num)] at between
    omega
  -- In units of the last place the fraction is whole.
  obtain ⟨k, rfl⟩ := Int.le.dest low
  have units : (m : ℚ) * 2 ^ (place + k) / 2 ^ place = ((m * 2 ^ k : ℕ) : ℚ) := by
    rw [zpow_add₀ (by norm_num), zpow_natCast]
    field_simp
    push_cast
    ring
  rw [units] at nearest
  cases nearest.unique (nearestWhole_natCast (m * 2 ^ k))
  have value : ((m * 2 ^ k : ℕ) : ℚ) * 2 ^ place = m * 2 ^ (place + k) :=
    (eq_div_iff unit.ne').mp units.symm
  have few : m * 2 ^ k < 2 ^ 53 := by
    have below := isPlace.below
    rw [← value] at below
    exact_mod_cast lt_of_mul_lt_mul_right below unit.le
  have canonical : Canonical (m * 2 ^ k) place := by
    refine ⟨Nat.mul_pos positive (Nat.two_pow_pos k), few, isPlace.least,
      isPlace.above.imp_right fun above => ?_⟩
    rw [← value] at above
    exact_mod_cast le_of_mul_le_mul_right above unit
  exact ⟨m * 2 ^ k, place, canonical, carried_small canonical.positive few, value⟩

/-- Below the least mantissa the last place is one further down: a fraction that is close enough is
rounded up, and the digit too many is carried. -/
theorem rounds_below (above : -1074 < e) (below : q < 2 ^ 52 * 2 ^ e)
    (near : 2 ^ 52 * 2 ^ e - 2 ^ e / 4 < q) :
    Rounds sign q (.finite sign (2 ^ 52) e (by decide)) := by
  have halved : (2 : ℚ) ^ (e - 1) = 2 ^ e / 2 := by
    rw [zpow_sub₀ (by norm_num), zpow_one]
  have halfUnit : (0 : ℚ) < 2 ^ e / 2 := half_pos (two_zpow_pos e)
  refine ⟨e - 1, 2 ^ 53, ⟨by omega, ?_, .inr ?_⟩, .inl ?_, ?_⟩
  · rw [halved]
    linarith
  · rw [halved]
    linarith
  · have whole : q / 2 ^ (e - 1) - ((2 ^ 53 : ℕ) : ℚ) = (q - 2 ^ 52 * 2 ^ e) / (2 ^ e / 2) := by
      rw [halved]
      field_simp
      push_cast
      ring
    rw [whole, abs_div, abs_of_pos halfUnit, div_lt_iff₀ halfUnit, abs_lt]
    constructor <;> linarith
  · rw [carried, dif_pos (by decide), if_neg (by decide)]
    have back : e - 1 + 1 = e := by omega
    simp only [back]

/-- A fraction close to a float has its last place, unless it lies below the least mantissa. -/
theorem lastPlace_near (canonical : Canonical m e) (near : |q - m * 2 ^ e| < m * 2 ^ e / 2 ^ 54)
    (stays : ¬(q < m * 2 ^ e ∧ m = 2 ^ 52 ∧ e ≠ -1074)) : LastPlace q e := by
  obtain ⟨positive, small, least, normal⟩ := canonical
  have unit := two_zpow_pos e
  obtain ⟨lower, upper⟩ := abs_lt.mp near
  refine ⟨least, ?_, ?_⟩
  · have size : ((m + 1 : ℕ) : ℚ) * 2 ^ e ≤ 2 ^ 53 * 2 ^ e :=
      mul_le_mul_of_nonneg_right (by exact_mod_cast small) unit.le
    have few : (m : ℚ) * 2 ^ e / 2 ^ 54 < 2 ^ e := by
      rw [div_lt_iff₀ (by norm_num), mul_comm]
      exact mul_lt_mul_of_pos_left (by exact_mod_cast (by omega : m < 2 ^ 54)) unit
    push_cast at size
    linarith
  · by_cases low : e = -1074
    · exact .inl low
    have normal := normal.resolve_left low
    right
    by_cases less : q < m * 2 ^ e
    · have other : 2 ^ 52 ≠ m := fun same => stays ⟨less, same.symm, low⟩
      have above : (2 : ℚ) ^ 52 + 1 ≤ m := by exact_mod_cast lt_of_le_of_ne normal other
      have size : ((2 : ℚ) ^ 52 + 1) * 2 ^ e ≤ m * 2 ^ e :=
        mul_le_mul_of_nonneg_right above unit.le
      linarith
    · have size : (2 : ℚ) ^ 52 * 2 ^ e ≤ m * 2 ^ e :=
        mul_le_mul_of_nonneg_right (by exact_mod_cast normal) unit.le
      linarith

/-- **A fraction close to a float is rounded to it**: one that differs from it by less than its
`2 ^ 54`th part. -/
theorem rounds_near (canonical : Canonical m e) (near : |q - m * 2 ^ e| < m * 2 ^ e / 2 ^ 54) :
    Rounds sign q (.finite sign m e canonical.positive) := by
  have unit := two_zpow_pos e
  by_cases descends : q < m * 2 ^ e ∧ m = 2 ^ 52 ∧ e ≠ -1074
  · obtain ⟨less, rfl, higher⟩ := descends
    have least := canonical.least
    have lower := (abs_lt.mp near).1
    push_cast at less lower
    exact rounds_below (by omega) less (by linarith)
  · refine ⟨e, m, lastPlace_near canonical near descends, .inl ?_,
      (carried_small canonical.positive canonical.small).symm⟩
    have size : (m : ℚ) * 2 ^ e ≤ 2 ^ 53 * 2 ^ e :=
      mul_le_mul_of_nonneg_right (by exact_mod_cast canonical.small.le) unit.le
    have whole : q / 2 ^ e - m = (q - m * 2 ^ e) / 2 ^ e := by
      field_simp
    rw [whole, abs_div, abs_of_pos unit, div_lt_iff₀ unit]
    linarith

end Rounds

end LineBasic.Rounding
