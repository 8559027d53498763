/-
**Blank characters and trimming.**

A text is trimmed of the characters that separate words: the ASCII controls that move the
print position, the four information separators, and the spaces of the wider alphabets.
Zero-width marks do not count.

* `isBlank_of_isWhitespace` — every ASCII white-space character is blank;
* `trim_eq_nil_iff` — a text trims to nothing exactly when all of it is blank;
* `trim_trim` — trimming twice changes nothing.
-/

namespace LineBasic.Text

/-- A blank separates words and carries no ink. -/
def isBlank (c : Char) : Bool :=
  let n := c.toNat
  (9 ≤ n && n ≤ 13) || (28 ≤ n && n ≤ 32) || n == 0x85 || n == 0xA0 || n == 0x1680 ||
    (0x2000 ≤ n && n ≤ 0x200A) || n == 0x2028 || n == 0x2029 || n == 0x202F || n == 0x205F ||
    n == 0x3000

/-- The text from its first character that is not blank. -/
def trimStart (text : List Char) : List Char :=
  text.dropWhile isBlank

/-- The text up to its last character that is not blank. -/
def trimEnd (text : List Char) : List Char :=
  (text.reverse.dropWhile isBlank).reverse

/-- The text without the blanks around it. -/
def trim (text : List Char) : List Char :=
  trimEnd (trimStart text)

/-- Whether nothing but blanks stands in the string. -/
def isBlankLine (text : String) : Bool :=
  text.toList.all isBlank

/-! ### Laws of trimming -/

/-- Every ASCII white-space character is blank. -/
theorem isBlank_of_isWhitespace {c : Char} (white : c.isWhitespace = true) : isBlank c = true := by
  simp only [Char.isWhitespace, Bool.or_eq_true, decide_eq_true_eq] at white
  rcases white with ((rfl | rfl) | rfl) | rfl <;> decide

/-- What is left after dropping starts with a character that is kept. -/
theorem head_dropWhile {α : Type} (drop : α → Bool) (items : List α) :
    ∀ first rest, items.dropWhile drop = first :: rest → drop first = false := by
  induction items with
  | nil => intro first rest equal; simp at equal
  | cons item others hypothesis =>
    intro first rest equal
    rw [List.dropWhile_cons] at equal
    split at equal
    · exact hypothesis first rest equal
    · next kept =>
      injection equal with same _
      subst same
      simpa using kept

/-- Nothing is left after dropping exactly when everything is dropped. -/
theorem dropWhile_eq_nil {α : Type} (drop : α → Bool) (items : List α) :
    items.dropWhile drop = [] ↔ ∀ item ∈ items, drop item = true := by
  induction items with
  | nil => simp
  | cons item others hypothesis =>
    rw [List.dropWhile_cons]
    split
    · next dropped => simp [hypothesis, dropped]
    · next kept => simp [kept]

/-- Dropping twice is dropping once. -/
theorem dropWhile_dropWhile {α : Type} (drop : α → Bool) (items : List α) :
    (items.dropWhile drop).dropWhile drop = items.dropWhile drop := by
  cases equal : items.dropWhile drop with
  | nil => rfl
  | cons first rest => simp [head_dropWhile drop items first rest equal]

/-- Trimming the end keeps a first character that is not blank. -/
theorem trimEnd_cons_of_not_blank {c : Char} (kept : isBlank c = false) (rest : List Char) :
    ∃ tail, trimEnd (c :: rest) = c :: tail := by
  unfold trimEnd
  rw [List.reverse_cons, List.dropWhile_append]
  split
  · exact ⟨[], by simp [kept]⟩
  · exact ⟨(rest.reverse.dropWhile isBlank).reverse, by simp⟩

/-- A text trims to nothing exactly when all of it is blank. -/
theorem trim_eq_nil_iff (text : List Char) : trim text = [] ↔ ∀ c ∈ text, isBlank c = true := by
  constructor
  · intro empty
    cases equal : trimStart text with
    | nil => exact (dropWhile_eq_nil isBlank text).mp equal
    | cons first rest =>
      obtain ⟨tail, shape⟩ :=
        trimEnd_cons_of_not_blank (head_dropWhile isBlank text first rest equal) rest
      rw [trim, equal, shape] at empty
      exact absurd empty (by simp)
  · intro blank
    have : trimStart text = [] := (dropWhile_eq_nil isBlank text).mpr blank
    rw [trim, this]
    rfl

/-- Trimming the end twice changes nothing. -/
theorem trimEnd_trimEnd (text : List Char) : trimEnd (trimEnd text) = trimEnd text := by
  simp [trimEnd, dropWhile_dropWhile]

/-- Trimming twice changes nothing. -/
theorem trim_trim (text : List Char) : trim (trim text) = trim text := by
  cases equal : trimStart text with
  | nil => rw [show trim text = [] by rw [trim, equal]; rfl]; rfl
  | cons first rest =>
    have kept := head_dropWhile isBlank text first rest equal
    obtain ⟨tail, shape⟩ := trimEnd_cons_of_not_blank kept rest
    have start : trimStart (trim text) = trim text := by
      rw [trim, equal, shape]
      simp [trimStart, kept]
    rw [trim, start, trim, trimEnd_trimEnd]

end LineBasic.Text
