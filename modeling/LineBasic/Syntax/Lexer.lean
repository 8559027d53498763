/-
**Reading the tokens of a line.**

The line is trimmed and read from the left, one lexeme after the other, each as long as it can
be; blanks between lexemes are skipped. A number starts with a digit and may hold one point, a
text runs to the next quote or to the end, a word is a letter with letters and digits after it
and may be closed by a dollar sign. After the word `REM` the rest of the line is one text.

* `length_lexemeAt_le` — a lexeme takes at least its first character, so reading ends;
* `scan_blank` — blanks between lexemes only move the columns.
-/

import LineBasic.Number.Numeral
import LineBasic.Syntax.Token

namespace LineBasic

open Text

/-- Why a line has no tokens. -/
inductive ScanError where
  | unknownCharacter (character : Char) (column : Nat)
  | tooManyDigits (count : Nat)
  deriving DecidableEq

namespace Lexer

/-- The words of the language. -/
def keywords : List String :=
  ["PRINT", "LET", "INPUT", "IF", "THEN", "GOTO", "GOSUB", "RETURN", "FOR", "TO", "STEP", "NEXT",
    "REM", "END", "LIST", "RUN", "NEW", "HOME", "AND", "OR", "NOT"]

/-- The operators of two characters. -/
def pairs : List (Char × Char) :=
  [('<', '>'), ('<', '='), ('>', '=')]

/-- The operators of one character. -/
def singles : List Char :=
  ['=', '<', '>', '+', '-', '*', '/', '^']

/-- The marks of punctuation. -/
def marks : List Char :=
  ['(', ')', ',', ';', ':']

/-- The most digits that an integer may be written with. -/
def digitLimit : Nat :=
  4300

/-- Whether a character can stand inside a word. -/
def isWordCharacter (c : Char) : Bool :=
  isLetter c || isDigit c

/-- The number at the front of a text that starts with a digit, and what follows it. -/
def number (text : List Char) : Except ScanError Lexeme × List Char :=
  let whole := text.takeWhile isDigit
  match text.dropWhile isDigit with
  | '.' :: rest =>
    let numeral : Numeral := ⟨false, whole, rest.takeWhile isDigit, 0⟩
    (.ok (.number (.real numeral.toFloat)), rest.dropWhile isDigit)
  | rest =>
    if digitLimit < whole.length then (.error (.tooManyDigits whole.length), rest)
    else (.ok (.number (.int (digitsValue whole))), rest)

/-- The text up to the next quote or to the end, and what follows the quote. -/
def string (text : List Char) : Lexeme × List Char :=
  (.string (String.ofList (text.takeWhile (· != '"'))), (text.dropWhile (· != '"')).drop 1)

/-- What a word of this spelling is: a word of the language, or a name. -/
def wordLexeme (spelling : List Char) : Lexeme :=
  let word := String.ofList (spelling.map asciiCapital)
  if keywords.contains word then .keyword word else .identifier word

/-- The word at the front of a text that starts with a letter, and what follows it. -/
def word (text : List Char) : Lexeme × List Char :=
  let body := text.takeWhile isWordCharacter
  match text.dropWhile isWordCharacter with
  | '$' :: rest => (wordLexeme (body ++ ['$']), rest)
  | rest => (wordLexeme body, rest)

/-- The operator or mark that starts with a character, and what follows it. -/
def symbol (c : Char) (rest : List Char) : Option (Lexeme × List Char) :=
  match rest with
  | d :: after =>
    if pairs.contains (c, d) then some (.operator (String.ofList [c, d]), after)
    else if singles.contains c then some (.operator (String.ofList [c]), rest)
    else if marks.contains c then some (.punctuation (String.ofList [c]), rest)
    else none
  | [] =>
    if singles.contains c then some (.operator (String.ofList [c]), rest)
    else if marks.contains c then some (.punctuation (String.ofList [c]), rest)
    else none

/-- The lexeme that starts with a character at a column, and what follows it. -/
def lexemeAt (column : Nat) (c : Char) (rest : List Char) : Except ScanError Lexeme × List Char :=
  if isDigit c then number (c :: rest)
  else if c = '"' then (.ok (string rest).1, (string rest).2)
  else if isLetter c then (.ok (word (c :: rest)).1, (word (c :: rest)).2)
  else
    match symbol c rest with
    | some (lexeme, after) => (.ok lexeme, after)
    | none => (.error (.unknownCharacter c column), rest)

/-! ### A lexeme takes at least one character -/

/-- Dropping from the front makes nothing longer. -/
theorem length_dropWhile_le (drop : Char → Bool) (text : List Char) :
    (text.dropWhile drop).length ≤ text.length :=
  (List.dropWhile_suffix drop).length_le

/-- A number takes at least its first digit. -/
theorem length_number_le {c : Char} (digit : isDigit c = true) (rest : List Char) :
    (number (c :: rest)).2.length ≤ rest.length := by
  have start : (c :: rest).dropWhile isDigit = rest.dropWhile isDigit := by simp [digit]
  have shorter := length_dropWhile_le isDigit rest
  unfold number
  rw [start]
  split
  · next after shape =>
    rw [shape, List.length_cons] at shorter
    have := length_dropWhile_le isDigit after
    simp only
    omega
  · simp only
    split <;> exact shorter

/-- A text takes what is left of the line, or less. -/
theorem length_string_le (rest : List Char) : (string rest).2.length ≤ rest.length := by
  unfold string
  have := length_dropWhile_le (· != '"') rest
  simp only [List.length_drop]
  omega

/-- A word takes at least its first letter. -/
theorem length_word_le {c : Char} (letter : isLetter c = true) (rest : List Char) :
    (word (c :: rest)).2.length ≤ rest.length := by
  have start : (c :: rest).dropWhile isWordCharacter = rest.dropWhile isWordCharacter := by
    simp [isWordCharacter, letter]
  have shorter := length_dropWhile_le isWordCharacter rest
  unfold word
  rw [start]
  split
  · next after shape =>
    rw [shape, List.length_cons] at shorter
    simp only
    omega
  · exact shorter

/-- A symbol takes at least its first character. -/
theorem length_symbol_le {c : Char} {rest after : List Char} {lexeme : Lexeme}
    (found : symbol c rest = some (lexeme, after)) : after.length ≤ rest.length := by
  unfold symbol at found
  split at found
  · next d tail =>
    split at found
    · cases found
      simp
    · split at found
      · cases found
        exact Nat.le_refl _
      · split at found
        · cases found
          exact Nat.le_refl _
        · cases found
  · split at found
    · cases found
      exact Nat.le_refl _
    · split at found
      · cases found
        exact Nat.le_refl _
      · cases found

/-- A lexeme takes at least its first character. -/
theorem length_lexemeAt_le (column : Nat) (c : Char) (rest : List Char) :
    (lexemeAt column c rest).2.length ≤ rest.length := by
  unfold lexemeAt
  split
  · next digit => exact length_number_le digit rest
  · split
    · exact length_string_le rest
    · split
      · next letter => exact length_word_le letter rest
      · split
        · next found => exact length_symbol_le found
        · exact Nat.le_refl _

/-! ### The tokens of a line -/

/-- The tokens after the word `REM`: the trimmed rest, if there is any, and the end. -/
def remark (column : Nat) (rest : List Char) : List Token :=
  let text := trim rest
  let last : Token := ⟨.endOfLine, column + rest.length⟩
  if text.isEmpty then [last]
  else
    [⟨.string (String.ofList text), column + (rest.length - (trimStart rest).length)⟩, last]

/-- The tokens of a text whose first character stands at a column. -/
def scan (column : Nat) : List Char → Except ScanError (List Token)
  | [] => .ok [⟨.endOfLine, column⟩]
  | c :: rest =>
    if isBlank c then scan (column + 1) rest
    else
      match shape : lexemeAt column c rest with
      | (.error error, _) => .error error
      | (.ok lexeme, after) =>
        have shorter : after.length ≤ rest.length := by
          have := length_lexemeAt_le column c rest
          rwa [shape] at this
        let next := column + (rest.length + 1 - after.length)
        if lexeme = .keyword "REM" then .ok (⟨lexeme, column⟩ :: remark next after)
        else
          match scan next after with
          | .ok tokens => .ok (⟨lexeme, column⟩ :: tokens)
          | .error error => .error error
termination_by text => text.length
decreasing_by
  · exact Nat.lt_succ_self _
  · exact Nat.lt_succ_of_le shorter

/-- Blanks between lexemes only move the columns. -/
theorem scan_blank {c : Char} (blank : isBlank c = true) (column : Nat) (rest : List Char) :
    scan column (c :: rest) = scan (column + 1) rest := by
  rw [scan, if_pos blank]

end Lexer

/-- The tokens of a line. -/
def tokens (line : String) : Except ScanError (List Token) :=
  Lexer.scan 0 (trim line.toList)

end LineBasic
