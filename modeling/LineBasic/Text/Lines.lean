/-
**Lines of a text.**

Three ways in which a text falls into lines: the pieces between line feeds (of captured
output), the lines as a keyboard sends them, each with its line feed (of a console), and the
lines of a file, which also end at carriage returns and at the other line marks.

* `flatten_inputLines` — reading a keyboard line by line loses nothing;
* `pieces_ne_nil` — a text has at least one piece.
-/

import LineBasic.Text.Blank

namespace LineBasic.Text

/-- The pieces of a text between its line feeds. -/
def pieces : List Char → List (List Char)
  | [] => [[]]
  | c :: rest =>
    if c = '\n' then [] :: pieces rest
    else
      match pieces rest with
      | [] => [[c]]
      | first :: others => (c :: first) :: others

/-- The lines of a keyboard's text, each up to and including its line feed. -/
def inputLines : List Char → List (List Char)
  | [] => []
  | c :: rest =>
    if c = '\n' then [c] :: inputLines rest
    else
      match inputLines rest with
      | [] => [[c]]
      | first :: others => (c :: first) :: others

/-- A typed line without the line feeds and carriage returns at its end. -/
def withoutLineEnd (line : List Char) : List Char :=
  (line.reverse.dropWhile fun c => c == '\n' || c == '\r').reverse

/-- Carriage returns, alone or before a line feed, become line feeds. -/
def unifyLineEnds : List Char → List Char
  | [] => []
  | '\r' :: '\n' :: rest => '\n' :: unifyLineEnds rest
  | c :: rest => (if c = '\r' then '\n' else c) :: unifyLineEnds rest

/-- Whether a character ends a line of a file. -/
def isLineMark (c : Char) : Bool :=
  let n := c.toNat
  (10 ≤ n && n ≤ 13) || (28 ≤ n && n ≤ 30) || n == 0x85 || n == 0x2028 || n == 0x2029

/-- The lines of a file whose line ends are unified, without their marks. -/
def markedLines : List Char → List (List Char)
  | [] => []
  | c :: rest =>
    if isLineMark c then [] :: markedLines rest
    else
      match rest, markedLines rest with
      | [], _ => [[c]]
      | _, [] => [[c]]
      | _, first :: others => (c :: first) :: others

/-- The lines of a file. -/
def fileLines (text : String) : List String :=
  (markedLines (unifyLineEnds text.toList)).map String.ofList

/-- Reading a keyboard line by line loses nothing. -/
theorem flatten_inputLines (text : List Char) : (inputLines text).flatten = text := by
  induction text with
  | nil => rfl
  | cons c rest hypothesis =>
    rw [inputLines]
    split
    · simp [hypothesis]
    · split
      · next empty => simpa [empty] using hypothesis
      · next first others shape => simpa [shape] using hypothesis

/-- A text has at least one piece. -/
theorem pieces_ne_nil (text : List Char) : pieces text ≠ [] := by
  cases text with
  | nil => simp [pieces]
  | cons c rest =>
    rw [pieces]
    split
    · simp
    · split <;> simp

end LineBasic.Text
