/-
**Decimal digits.**

Ten digits in a row for each script that counts in tens, each row starting at its zero. The
words of a program know the ASCII row alone; numbers that are typed or read from a listing know
them all.

* `digitValue?_lt` — a digit counts less than ten;
* `digitValue?_ascii` — the ASCII digits count zero to nine in order.
-/

import LineBasic.Text.Ascii

namespace LineBasic.Text

/-- The zero of each row of ten decimal digits, in ascending order. -/
def zeros : List Nat := [
  0x30, 0x660, 0x6f0, 0x7c0, 0x966, 0x9e6, 0xa66, 0xae6, 0xb66, 0xbe6, 0xc66, 0xce6, 0xd66, 0xde6,
  0xe50, 0xed0, 0xf20, 0x1040, 0x1090, 0x17e0, 0x1810, 0x1946, 0x19d0, 0x1a80, 0x1a90, 0x1b50,
  0x1bb0, 0x1c40, 0x1c50, 0xa620, 0xa8d0, 0xa900, 0xa9d0, 0xa9f0, 0xaa50, 0xabf0, 0xff10, 0x104a0,
  0x10d30, 0x11066, 0x110f0, 0x11136, 0x111d0, 0x112f0, 0x11450, 0x114d0, 0x11650, 0x116c0,
  0x11730, 0x118e0, 0x11950, 0x11c50, 0x11d50, 0x11da0, 0x16a60, 0x16ac0, 0x16b50, 0x1d7ce,
  0x1d7d8, 0x1d7e2, 0x1d7ec, 0x1d7f6, 0x1e140, 0x1e2f0, 0x1e950, 0x1fbf0]

/-- What a decimal digit of any script counts. -/
def digitValue? (c : Char) : Option Nat :=
  (zeros.find? fun start => start ≤ c.toNat && c.toNat < start + 10).map (c.toNat - ·)

/-- Whether the character is a decimal digit of some script. -/
def isDecimal (c : Char) : Bool :=
  (digitValue? c).isSome

/-- The number that the decimal digits of a text spell; other characters count nothing. -/
def digitsValue (digits : List Char) : Nat :=
  digits.foldl (fun number c => 10 * number + (digitValue? c).getD 0) 0

/-- A digit counts less than ten. -/
theorem digitValue?_lt {c : Char} {value : Nat} (digit : digitValue? c = some value) :
    value < 10 := by
  obtain ⟨start, found, rfl⟩ := Option.map_eq_some_iff.mp digit
  have := List.find?_some found
  simp only [Bool.and_eq_true, decide_eq_true_eq] at this
  omega

/-- The ASCII digits count zero to nine in order. -/
theorem digitValue?_ascii {c : Char} (ascii : isDigit c = true) :
    digitValue? c = some (c.toNat - 48) := by
  simp only [isDigit, Bool.and_eq_true, decide_eq_true_eq] at ascii
  have low : 48 ≤ c.toNat := ascii.1
  have high : c.toNat ≤ 57 := ascii.2
  have found : zeros.find? (fun start => start ≤ c.toNat && c.toNat < start + 10) = some 48 := by
    unfold zeros
    exact List.find?_cons_of_pos (by simp; omega)
  rw [digitValue?, found]
  rfl

end LineBasic.Text
