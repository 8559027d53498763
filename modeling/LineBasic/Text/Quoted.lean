/-
**Quoted text.**

A text is quoted so that it fits on one line: single quotes around it, double ones if it holds
single quotes only; the backslash and the quote in use are escaped, the line marks have short
escapes, and every other character that does not print is given by its place in hexadecimal.

* `quote_double` — double quotes are used exactly for texts with single quotes and no double
  ones.
-/

import LineBasic.Text.Printable

namespace LineBasic.Text

/-- The digits of a place in lower-case hexadecimal, filled up with zeros to a width. -/
def hexadecimal (width n : Nat) : List Char :=
  let digits := Nat.toDigits 16 n
  List.replicate (width - digits.length) '0' ++ digits

/-- One character inside quotes. -/
def escape (quote c : Char) : List Char :=
  if c == quote || c == '\\' then ['\\', c]
  else if c == '\n' then ['\\', 'n']
  else if c == '\r' then ['\\', 'r']
  else if c == '\t' then ['\\', 't']
  else if isPrintable c then [c]
  else if c.toNat < 0x100 then '\\' :: 'x' :: hexadecimal 2 c.toNat
  else if c.toNat < 0x10000 then '\\' :: 'u' :: hexadecimal 4 c.toNat
  else '\\' :: 'U' :: hexadecimal 8 c.toNat

/-- The quote that goes around a text. -/
def quoteFor (text : List Char) : Char :=
  if text.contains '\'' && !text.contains '"' then '"' else '\''

/-- The text in quotes, on one line. -/
def quoted (text : String) : String :=
  let quote := quoteFor text.toList
  String.ofList (quote :: text.toList.flatMap (escape quote) ++ [quote])

/-- Double quotes are used exactly for texts with single quotes and no double ones. -/
theorem quote_double (text : List Char) :
    quoteFor text = '"' ↔ '\'' ∈ text ∧ '"' ∉ text := by
  unfold quoteFor
  split
  · next both => simpa using both
  · next either => simpa using either

end LineBasic.Text
