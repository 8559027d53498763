/-
**ASCII letters and digits.**

The words and numbers of a program are spelled with the ASCII letters and digits alone; letters
of either case spell the same word.

* `asciiCapital_idem` — a capital is its own capital;
* `not_isLetter_of_isDigit` — no digit is a letter.
-/

namespace LineBasic.Text

/-- Whether the character is one of the ASCII digits. -/
def isDigit (c : Char) : Bool :=
  '0' ≤ c && c ≤ '9'

/-- Whether the character is an ASCII letter. -/
def isLetter (c : Char) : Bool :=
  ('a' ≤ c && c ≤ 'z') || ('A' ≤ c && c ≤ 'Z')

/-- The capital of an ASCII letter; other characters stand for themselves. -/
def asciiCapital (c : Char) : Char :=
  if 'a' ≤ c && c ≤ 'z' then Char.ofNat (c.toNat - 32) else c

/-- All characters below a bound have a property that is checked place by place. -/
theorem forall_below {bound : Nat} {property : Char → Prop}
    (checked : ∀ n < bound, property (Char.ofNat n)) (c : Char) (within : c.toNat < bound) :
    property c := by
  have := checked c.toNat within
  rwa [Char.ofNat_toNat] at this

/-- A capital is its own capital. -/
theorem asciiCapital_idem (c : Char) : asciiCapital (asciiCapital c) = asciiCapital c := by
  by_cases within : c.toNat < 128
  · exact @forall_below 128 (fun c => asciiCapital (asciiCapital c) = asciiCapital c)
      (by decide +kernel) c within
  · have : ¬ c ≤ 'z' := fun low => within (by
      have : c.toNat ≤ 122 := low
      omega)
    simp [asciiCapital, this]

/-- No digit is a letter. -/
theorem not_isLetter_of_isDigit {c : Char} (digit : isDigit c = true) : isLetter c = false := by
  simp only [isDigit, Bool.and_eq_true, decide_eq_true_eq] at digit
  have high : c.toNat ≤ 57 := digit.2
  have lower : ¬ 'a' ≤ c := fun low => by
    have : 97 ≤ c.toNat := low
    omega
  have upper : ¬ 'A' ≤ c := fun low => by
    have : 65 ≤ c.toNat := low
    omega
  simp [isLetter, lower, upper]

end LineBasic.Text
