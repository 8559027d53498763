/-
**Typed keys that are taken back.**

A key adds the capital form of its character to the line, and a Backspace takes the last character
of the line away, whichever key it came from. So a key is taken back by as many Backspaces as its
capital form has characters. A character never vanishes, so as many Backspaces as keys take back at
most what the keys have added, and all of it only if each character has a single capital.

* `Key.foldl_backspace` — Backspaces drop the end of a line;
* `length_le_capitals`, `length_eq_capitals` — a text in capitals is at least as long as it was;
* `keys_taken_back` — what Backspaces leave of a line behind the keys that it was typed with.
-/

import LineBasic.Proofs.Echo
import LineBasic.Proofs.FrontEnds

namespace LineBasic

/-- Backspaces drop the end of a line. -/
theorem Key.foldl_backspace (count : Nat) (line : List Char) :
    (List.replicate count Key.backspace).foldl Key.edit line = line.take (line.length - count) := by
  induction count generalizing line with
  | zero => simp
  | succ count hypothesis =>
    have shortened : Key.edit line .backspace = line.take (line.length - 1) :=
      List.dropLast_eq_take
    rw [List.replicate_succ, List.foldl_cons, shortened, hypothesis, List.take_take,
      List.length_take]
    congr 1
    omega

namespace Text

variable {text : List Char}

/-- A text in capitals is at least as long as it was. -/
theorem length_le_capitals (text : List Char) : text.length ≤ (text.flatMap capital).length := by
  induction text with
  | nil => exact Nat.le_refl 0
  | cons c rest hypothesis =>
    have some := List.length_pos_iff.mpr (capital_ne_nil c)
    rw [List.flatMap_cons, List.length_append, List.length_cons]
    omega

/-- It is as long as it was exactly if each character has a single capital. -/
theorem length_eq_capitals :
    (text.flatMap capital).length = text.length ↔ ∀ c ∈ text, (capital c).length = 1 := by
  induction text with
  | nil => simp
  | cons c rest hypothesis =>
    have some := List.length_pos_iff.mpr (capital_ne_nil c)
    have more := length_le_capitals rest
    rw [List.forall_mem_cons, ← hypothesis, List.flatMap_cons, List.length_append, List.length_cons]
    omega

end Text

namespace Screen

variable {screen : Screen} {text : List Char}

/-- Backspaces behind the keys of characters that print. -/
theorem pressAll_backspaces (reading : screen.reading = true)
    (printable : ∀ c ∈ text, Text.isPrintable c = true) (count : Nat) :
    ∃ after, screen.pressAll (text.map .character ++ List.replicate count .backspace) =
        (after, .ok none) ∧
      screen.Edited ((screen.typed ++ text.flatMap Text.capital).take
        ((screen.typed ++ text.flatMap Text.capital).length - count)) after := by
  have goesOn : Key.enter ∉ text.map Key.character ++ List.replicate count Key.backspace := by
    simp [List.mem_replicate]
  obtain ⟨after, presses, edited⟩ := pressAll_edits reading goesOn
  have pressed := presses []
  rw [List.append_nil] at pressed
  rw [List.foldl_append, Key.foldl_edit printable, Key.foldl_backspace] at edited
  exact ⟨after, pressed, edited⟩

/-- **As many Backspaces as the capital forms have characters take typed keys back**: the line, the
grid with its cursor and the read that waits are as they were before. As many Backspaces as keys do
so exactly if each key has a single character as its capital form; otherwise they leave the
beginning of what was typed behind the line. -/
theorem keys_taken_back (reading : screen.reading = true)
    (printable : ∀ c ∈ text, Text.isPrintable c = true) :
    let added := text.flatMap Text.capital
    (∃ after, screen.pressAll (text.map .character ++ List.replicate added.length .backspace) =
        (after, .ok none) ∧ screen.Edited screen.typed after) ∧
      ∃ after, screen.pressAll (text.map .character ++ List.replicate text.length .backspace) =
          (after, .ok none) ∧
        screen.Edited (screen.typed ++ added.take (added.length - text.length)) after ∧
        (after.typed = screen.typed ↔ ∀ c ∈ text, (Text.capital c).length = 1) := by
  intro added
  constructor
  · obtain ⟨after, pressed, edited⟩ := pressAll_backspaces reading printable added.length
    rw [List.length_append, Nat.add_sub_cancel, List.take_left] at edited
    exact ⟨after, pressed, edited⟩
  · obtain ⟨after, pressed, edited⟩ := pressAll_backspaces reading printable text.length
    -- No capital form is empty, so the Backspaces stay within what the keys have added.
    have atLeast : text.length ≤ added.length := Text.length_le_capitals text
    have kept : (screen.typed ++ added).take ((screen.typed ++ added).length - text.length) =
        screen.typed ++ added.take (added.length - text.length) := by
      rw [List.length_append, Nat.add_sub_assoc atLeast, List.take_length_add_append]
    rw [kept] at edited
    refine ⟨after, pressed, edited, ?_⟩
    calc after.typed = screen.typed
        ↔ added.take (added.length - text.length) = [] := by
          rw [edited.typed, List.append_right_eq_self]
      _ ↔ added.length = text.length := by
          rw [List.take_eq_nil_iff, ← List.length_eq_zero_iff]
          omega
      _ ↔ ∀ c ∈ text, (Text.capital c).length = 1 := Text.length_eq_capitals

/-- Behind an A, the two letters that a ß has as its capital form and a B are taken back by three
Backspaces; two leave the first of them. -/
theorem keys_taken_back_sharp :
    let waiting : Screen := ⟨.blank 1 8, "]", "_", ['A'], true, some 0, 1, false, []⟩
    waiting.reading = true ∧ (∀ c ∈ ['ß', 'b'], Text.isPrintable c = true) ∧
      (∃ after, waiting.pressAll
          [.character 'ß', .character 'b', .backspace, .backspace, .backspace] =
            (after, .ok none) ∧
        waiting.Edited ['A'] after) ∧
      ∃ after, waiting.pressAll [.character 'ß', .character 'b', .backspace, .backspace] =
          (after, .ok none) ∧
        waiting.Edited ['A', 'S'] after := by
  intro waiting
  have sharp : Text.isPrintable 'ß' = true := by decide +kernel
  have plain : Text.isPrintable 'b' = true := by decide +kernel
  have printable : ∀ c ∈ ['ß', 'b'], Text.isPrintable c = true := by simp [sharp, plain]
  have added : ['ß', 'b'].flatMap Text.capital = ['S', 'S', 'B'] := by decide +kernel
  have back := @keys_taken_back waiting _ rfl printable
  rw [added] at back
  obtain ⟨whole, after, pressed, edited, -⟩ := back
  exact ⟨rfl, printable, whole, after, pressed, edited⟩

/-- A Backspace leaves one of the two letters that a ß has as its capital form. -/
theorem sharp_not_taken_back :
    ∃ waiting after : Screen, waiting.reading = true ∧ waiting.pending = some 0 ∧
      Text.isPrintable 'ß' = true ∧
      waiting.pressAll [.character 'ß', .backspace] = (after, .ok none) ∧
      waiting.typed = [] ∧ after.typed = ['S'] := by
  refine ⟨⟨.blank 1 8, "]", "_", [], true, some 0, 1, false, []⟩,
    ⟨.blank 1 8, "]", "_", ['S'], true, some 0, 1, false, []⟩, rfl, rfl, ?_, ?_, rfl, rfl⟩
  · decide +kernel
  · decide +kernel

end Screen

end LineBasic
