/-
**Floats as bits.**

A float is kept as its sign, its exponent and its mantissa without the leading digit. What floats
can be comes back as it was after it is packed in this way, and nothing else ever comes back; so
an operation on floats is the operation on what they are, if this leads to what floats can be.

* `IsFloat` — what floats can be;
* `unpack_pack` — it comes back as it was;
* `isFloat_unpack` — nothing else does.
-/

import LineBasic.Proofs.Rounding.Digits

namespace LineBasic.Rounding

open Float.Model (UnpackedFloat Format)
open Float.Model.UnpackedFloat (Sign packComponents unpackSign unpackExponent unpackMantissa)

/-- What floats can be. -/
inductive IsFloat : UnpackedFloat → Prop where
  | notANumber : IsFloat .notANumber
  | infinity (sign : Sign) : IsFloat (.infinity sign)
  | zero (sign : Sign) : IsFloat (.zero sign)
  | finite (sign : Sign) {m : ℕ} {e : ℤ} (canonical : Canonical m e) (inRange : e ≤ 971) :
      IsFloat (.finite sign m e canonical.positive)

/-! ### The parts of the bits -/

section Parts

variable (sign : Sign) (exponent : BitVec 11) (mantissa : BitVec 52)

theorem unpackSign_packComponents :
    unpackSign (packComponents .binary64 sign exponent mantissa) = sign.toBitVec := by
  show (sign.toBitVec ++ exponent ++ mantissa).extractLsb' 63 1 = sign.toBitVec
  rw [BitVec.extractLsb'_append_eq_of_le (by decide),
    BitVec.extractLsb'_append_eq_of_le (by decide)]
  exact BitVec.extractLsb'_eq_self

theorem ofBitVec_toBitVec : Sign.ofBitVec sign.toBitVec = sign := by
  cases sign <;> rfl

/-- The mantissa with the leading digit in front. -/
theorem toNat_leading : (1#1 ++ mantissa).toNat = 2 ^ 52 + mantissa.toNat := by
  rw [BitVec.toNat_append]
  show 1 <<< 52 ||| mantissa.toNat = _
  rw [← Nat.shiftLeft_add_eq_or_of_lt mantissa.isLt 1]
  rfl

/-- The float with the three parts. -/
def ofParts : UnpackedFloat :=
  if exponent = -1#11 then
    if mantissa = 0#52 then .infinity sign else .notANumber
  else if exponent = 0#11 then
    if none : mantissa = 0#52 then .zero sign
    else .finite sign mantissa.toNat ((exponent.toNat : ℤ) - 1075 + 1)
      (by rwa [BitVec.toNat_pos, BitVec.pos_iff_ne_zero])
  else .finite sign (1#1 ++ mantissa).toNat ((exponent.toNat : ℤ) - 1075)
    (by rw [toNat_leading]; omega)

/-- What is unpacked are the parts that were packed. -/
theorem unpack_packComponents :
    UnpackedFloat.unpack .binary64 (packComponents .binary64 sign exponent mantissa) =
      ofParts sign exponent mantissa := by
  unfold UnpackedFloat.unpack
  simp only [UnpackedFloat.unpackExponent_packComponents,
    UnpackedFloat.unpackMantissa_packComponents, unpackSign_packComponents, ofBitVec_toBitVec]
  rfl

theorem isFloat_ofParts : IsFloat (ofParts sign exponent mantissa) := by
  have few : exponent.toNat < 2 ^ 11 := exponent.isLt
  have short : mantissa.toNat < 2 ^ 52 := mantissa.isLt
  unfold ofParts
  split
  · split
    · exact .infinity _
    · exact .notANumber
  · next notLast =>
    split
    · next first =>
      split
      · exact .zero _
      · next some =>
        have positive : 0 < mantissa.toNat := by rwa [BitVec.toNat_pos, BitVec.pos_iff_ne_zero]
        have least : (exponent.toNat : ℤ) - 1075 + 1 = -1074 := by
          rw [first]
          rfl
        exact .finite _ ⟨positive, by omega, least.ge, .inl least⟩ (by omega)
    · next notFirst =>
      have leading := toNat_leading mantissa
      have above : exponent.toNat ≠ 0 := fun same => notFirst (BitVec.eq_of_toNat_eq same)
      have below : exponent.toNat ≠ 2047 := fun same => notLast (BitVec.eq_of_toNat_eq same)
      exact .finite _ ⟨by omega, by omega, by omega, .inr (by omega)⟩ (by omega)

end Parts

/-! ### Packing and unpacking -/

section Packed

variable {sign : Sign} {m : ℕ} {e : ℤ}

/-- What is packed, from the exponent and the mantissa. -/
theorem pack_finite (positive : 0 < m) :
    UnpackedFloat.pack .binary64 (.finite sign m e positive) =
      if 2048 ≤ (e + 1075).toNat + 1 then UnpackedFloat.packedInfinity .binary64 sign
      else if m.log2 + 1 = 53 then
        packComponents .binary64 sign (BitVec.ofNat 11 (e + 1075).toNat) (BitVec.ofNat 52 m)
      else packComponents .binary64 sign 0#11 (BitVec.ofNat 52 m) := by
  have bias : e + 1075 = e + 1023 + 52 := by omega
  rw [bias]
  rfl

theorem toNat_ofNat_of_lt {bits n : ℕ} (small : n < 2 ^ bits) :
    (BitVec.ofNat bits n).toNat = n := by
  rw [BitVec.toNat_ofNat, Nat.mod_eq_of_lt small]

/-- A float with 53 digits comes back. -/
theorem unpack_pack_normal (positive : 0 < m) (small : m < 2 ^ 53) (normal : 2 ^ 52 ≤ m)
    (least : -1074 ≤ e) (inRange : e ≤ 971) :
    (Float.Model.pack (.finite sign m e positive)).unpack = .finite sign m e positive := by
  have digits : m.log2 + 1 = 53 := by
    have below := (Nat.log2_lt positive.ne').mpr small
    have above := (Nat.log2_lt (k := 52) positive.ne').not.mpr (by omega)
    omega
  obtain ⟨biased, same⟩ : ∃ biased : ℕ, e = biased - 1075 := ⟨(e + 1075).toNat, by omega⟩
  have unbiased : (e + 1075).toNat = biased := by omega
  have exponent : (BitVec.ofNat 11 biased).toNat = biased := toNat_ofNat_of_lt (by omega)
  have notLast : BitVec.ofNat 11 biased ≠ -1#11 := fun last => by
    have last' : _ = 2047 := congrArg BitVec.toNat last
    omega
  have notFirst : BitVec.ofNat 11 biased ≠ 0#11 := fun first => by
    have first' : _ = 0 := congrArg BitVec.toNat first
    omega
  have whole : (1#1 ++ BitVec.ofNat 52 m).toNat = m := by
    rw [toNat_leading, BitVec.toNat_ofNat]
    omega
  show UnpackedFloat.unpack .binary64 (UnpackedFloat.pack .binary64 _) = _
  rw [pack_finite, unbiased, if_neg (by omega), if_pos digits, unpack_packComponents,
    ofParts, if_neg notLast, if_neg notFirst]
  simp only [whole, exponent, same]

/-- A float with fewer digits comes back. -/
theorem unpack_pack_subnormal (positive : 0 < m) (small : m < 2 ^ 52) :
    (Float.Model.pack (.finite sign m (-1074) positive)).unpack =
      .finite sign m (-1074) positive := by
  have digits : m.log2 + 1 ≠ 53 := by
    have below := (Nat.log2_lt positive.ne').mpr small
    omega
  have whole : (BitVec.ofNat 52 m).toNat = m := toNat_ofNat_of_lt small
  have some : BitVec.ofNat 52 m ≠ 0#52 := fun none => by
    have none' : _ = 0 := congrArg BitVec.toNat none
    omega
  show UnpackedFloat.unpack .binary64 (UnpackedFloat.pack .binary64 _) = _
  rw [pack_finite, if_neg (by decide), if_neg digits, unpack_packComponents, ofParts,
    if_neg (by decide), if_pos rfl, dif_neg some]
  simp only [whole]
  rfl

/-- **What floats can be comes back as it was.** -/
theorem unpack_pack {x : UnpackedFloat} (isFloat : IsFloat x) :
    (Float.Model.pack x).unpack = x := by
  cases isFloat with
  | notANumber => exact unpack_packComponents _ _ _
  | infinity sign => exact unpack_packComponents _ _ _
  | zero sign => exact unpack_packComponents _ _ _
  | @finite sign m e canonical inRange =>
    obtain ⟨positive, small, least, normal⟩ := canonical
    rcases Nat.lt_or_ge m (2 ^ 52) with below | long
    · cases normal.resolve_right (by omega)
      exact unpack_pack_subnormal positive below
    · exact unpack_pack_normal positive small long least inRange

/-- **Nothing else comes back.** -/
theorem isFloat_unpack (x : Float.Model) : IsFloat x.unpack :=
  isFloat_ofParts _ _ _

end Packed

end LineBasic.Rounding
