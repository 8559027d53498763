/-
**Decimals.**

A decimal is a whole number of digits times a power of ten. It reads as the float nearest to
it; of two equally near ones the even one, infinity past the range, zero below it.

* `trimmed_digits` — taking zeros off the end of the digits keeps the value.
-/

namespace LineBasic

/-- The value `digits · 10 ^ exponent`. -/
structure Decimal where
  digits : Nat
  exponent : Int
  deriving DecidableEq, Repr

namespace Decimal

/-- The binary digits of a whole number that is past the range of floats whatever they are. -/
def rangeBits : Nat :=
  1024

/-- The float nearest to a decimal. -/
def toFloat (d : Decimal) : Float :=
  match d.exponent with
  | .ofNat places =>
    if d.digits.log2 < rangeBits then Float.ofScientific d.digits false places else 1.0 / 0.0
  | .negSucc places => Float.ofScientific d.digits true (places + 1)

/-- The same decimal with the zeros at the end of its digits moved into the power, as far as a
count of steps allows. -/
def trimmed : Nat → Decimal → Decimal
  | 0, d => d
  | steps + 1, d =>
    if d.digits % 10 = 0 then trimmed steps ⟨d.digits / 10, d.exponent + 1⟩ else d

/-- Taking zeros off the end of the digits keeps the value. -/
theorem trimmed_digits (steps : Nat) (d : Decimal) :
    ∃ zeros : Nat, d.digits = (trimmed steps d).digits * Nat.pow 10 zeros ∧
      (trimmed steps d).exponent = d.exponent + zeros := by
  induction steps generalizing d with
  | zero => exact ⟨0, by simp [trimmed], by simp [trimmed]⟩
  | succ steps hypothesis =>
    rw [trimmed]
    split
    · next divides =>
      obtain ⟨zeros, digits, exponent⟩ := hypothesis ⟨d.digits / 10, d.exponent + 1⟩
      refine ⟨zeros + 1, ?_, ?_⟩
      · simp only at digits
        rw [Nat.pow, Nat.mul_eq, ← Nat.mul_assoc, ← digits]
        omega
      · simp only at exponent
        rw [exponent]
        omega
    · exact ⟨0, by simp, by simp⟩

end Decimal

end LineBasic
