/-
**What a text is read as, wherever it stands.**

The columns of a line are kept beside its lexemes, and nothing but an unknown character tells them
apart: what stands behind a lexeme is read alike wherever it stands. An integer in front of a line
is all of its decimal digits, since the digits of other scripts are unknown characters.

* `scan_columns` — what a text is read as does not depend on its column;
* `scan_decimal` — a decimal digit of another script is unknown;
* `opening_of_tokens` — a line that starts with an integer is its digits and what is read behind.
-/

import LineBasic.Proofs.Spelling.Line

namespace LineBasic

open Text Lexer

/-! ### Texts at different columns -/

section Columns

variable {column : Nat} {text : List Char} {read : List Token}

/-- The lexeme at a column does not depend on the column. -/
theorem lexemeAt_columns {c : Char} {tail after : List Char} {lexeme : Lexeme}
    (reads : lexemeAt column c tail = (.ok lexeme, after)) (column' : Nat) :
    lexemeAt column' c tail = (.ok lexeme, after) := by
  unfold lexemeAt at reads ⊢
  split at reads
  · next digit => rwa [if_pos digit]
  · next notDigit =>
    rw [if_neg notDigit]
    split at reads
    · next quote => rwa [if_pos quote]
    · next notQuote =>
      rw [if_neg notQuote]
      split at reads
      · next letter => rwa [if_pos letter]
      · next notLetter =>
        rw [if_neg notLetter]
        split at reads
        · exact reads
        · cases reads

theorem remark_columns (column column' : Nat) (rest : List Char) :
    (remark column rest).map Token.lexeme = (remark column' rest).map Token.lexeme := by
  unfold remark
  by_cases empty : (trim rest).isEmpty = true
  · rw [if_pos empty, if_pos empty]
    rfl
  · rw [if_neg empty, if_neg empty]
    rfl

/-- A text whose first lexeme cannot be read is not read. -/
theorem scan_unread {c : Char} {tail after : List Char} {error : ScanError}
    (inked : isBlank c = false) (unread : lexemeAt column c tail = (.error error, after)) :
    scan column (c :: tail) = .error error := by
  rw [scan, if_neg (by rw [inked]; decide)]
  split
  · next shape =>
    rw [unread] at shape
    cases shape
    rfl
  · next shape =>
    rw [unread] at shape
    cases shape

/-- **What a text is read as does not depend on its column.** -/
theorem scan_columns (scanned : scan column text = .ok read) (column' : Nat) :
    ∃ read', scan column' text = .ok read' ∧
      read'.map Token.lexeme = read.map Token.lexeme := by
  fun_induction scan column text generalizing read column'
  case case1 =>
    cases scanned
    exact ⟨[⟨.endOfLine, column'⟩], by rw [scan], rfl⟩
  case case2 blank hypothesis =>
    rw [scan_blank blank]
    exact hypothesis scanned _
  case case3 => cases scanned
  case case4 notBlank after next reads shorter =>
    cases scanned
    have inked := Bool.eq_false_iff.mpr notBlank
    refine ⟨_, scan_remark inked (lexemeAt_columns reads column'), ?_⟩
    rw [List.map_cons, List.map_cons, remark_columns]
  case case5 rest notBlank lexeme after reads shorter next opens tokens found hypothesis =>
    cases scanned
    have inked := Bool.eq_false_iff.mpr notBlank
    have scanned := scan_lexeme inked opens (lexemeAt_columns reads column')
    obtain ⟨others, isRead, same⟩ :=
      hypothesis found (column' + (rest.length + 1 - after.length))
    rw [isRead] at scanned
    exact ⟨_, scanned, by rw [List.map_cons, List.map_cons, same]⟩
  case case6 => cases scanned

/-- Blanks in front of a text are not read. -/
theorem scan_trimStart (column : Nat) (text : List Char) :
    ∃ column', scan column text = scan column' (trimStart text) := by
  induction text generalizing column with
  | nil => exact ⟨column, rfl⟩
  | cons c rest hypothesis =>
    by_cases blank : isBlank c = true
    · obtain ⟨column', same⟩ := hypothesis (column + 1)
      refine ⟨column', ?_⟩
      rw [scan_blank blank, same, trimStart, trimStart, List.dropWhile_cons_of_pos blank]
    · refine ⟨column, ?_⟩
      rw [trimStart, List.dropWhile_cons_of_neg blank]

/-- The decimal digits of other scripts stand apart from the ASCII characters and the blanks. -/
theorem apart_of_isDecimal {c : Char} (decimal : isDecimal c = true)
    (notDigit : isDigit c = false) : 128 ≤ c.toNat ∧ isBlank c = false := by
  have rows : ∀ start ∈ zeros, start = 48 ∨ (0xA0 < start ∧
      (start + 10 ≤ 0x1680 ∨ 0x1680 < start) ∧ (start + 10 ≤ 0x2000 ∨ 0x205F < start) ∧
      (start + 10 ≤ 0x3000 ∨ 0x3000 < start)) := by
    decide
  obtain ⟨value, found⟩ := Option.isSome_iff_exists.mp decimal
  obtain ⟨start, isFound, rfl⟩ := Option.map_eq_some_iff.mp found
  have within := List.find?_some isFound
  simp only [Bool.and_eq_true, decide_eq_true_eq] at within
  rcases rows start (List.mem_of_find?_eq_some isFound) with rfl | apart
  · have low : '0' ≤ c := within.1
    have high : c ≤ '9' := Nat.le_of_lt_succ within.2
    simp [isDigit, low, high] at notDigit
  · refine ⟨by omega, ?_⟩
    simp only [isBlank, Bool.or_eq_false_iff, Bool.and_eq_false_iff, beq_eq_false_iff_ne,
      decide_eq_false_iff_not]
    omega

/-- A decimal digit of another script is unknown. -/
theorem scan_decimal {c : Char} (decimal : isDecimal c = true) (notDigit : isDigit c = false)
    (column : Nat) (rest : List Char) :
    scan column (c :: rest) = .error (.unknownCharacter c column) := by
  obtain ⟨high, inked⟩ := apart_of_isDecimal decimal notDigit
  have strange : ∀ d : Char, d.toNat < 128 → c ≠ d := by
    rintro d below rfl
    omega
  have notLetter : isLetter c = false := by
    by_contra letter
    have := below_of_isLetter (by simpa using letter)
    omega
  have unread : symbol c rest = none := by
    cases rest <;> simp [symbol, pairs, singles, marks, strange]
  refine @scan_unread _ _ _ rest _ inked ?_
  unfold lexemeAt
  rw [notDigit, if_neg (by decide), if_neg (strange '"' (by decide)), notLetter,
    if_neg (by decide), unread]

/-- A text that is read starts with no decimal digit but an ASCII one. -/
theorem not_isDecimal_of_scan (scanned : scan column text = .ok read) {c : Char}
    (first : text.head? = some c) (notDigit : isDigit c = false) : isDecimal c = false := by
  obtain ⟨rest, rfl⟩ := List.head?_eq_some_iff.mp first
  by_contra decimal
  rw [scan_decimal (by simpa using decimal) notDigit] at scanned
  cases scanned

/-- The first token of a text is its first lexeme, and the others are read behind it. -/
theorem scan_opens {c : Char} {tail : List Char} {first : Token} {others : List Token}
    (inked : isBlank c = false) (plain : first.lexeme ≠ .keyword "REM")
    (scanned : scan column (c :: tail) = .ok (first :: others)) :
    ∃ after column', lexemeAt column c tail = (.ok first.lexeme, after) ∧
      scan column' after = .ok others := by
  rcases reads : lexemeAt column c tail with ⟨error | lexeme, after⟩
  · rw [scan_unread inked reads] at scanned
    cases scanned
  · by_cases opens : lexeme = .keyword "REM"
    · subst opens
      rw [scan_remark inked reads] at scanned
      cases scanned
      exact absurd rfl plain
    · rw [scan_lexeme inked opens reads] at scanned
      rcases found : scan (column + (tail.length + 1 - after.length)) after with error | tokens
      · rw [found] at scanned
        cases scanned
      · rw [found] at scanned
        cases scanned
        exact ⟨after, _, rfl, found⟩

end Columns

/-! ### A line that starts with an integer -/

theorem word_ne_number (text : List Char) (value : Value) : (word text).1 ≠ .number value := by
  unfold word wordLexeme
  split <;> simp only <;> split <;> exact nofun

theorem symbol_ne_number (c : Char) (rest after : List Char) (value : Value) :
    symbol c rest ≠ some (.number value, after) := by
  unfold symbol
  (repeat' split) <;> exact nofun

/-- An integer is all the digits in front of a text. -/
theorem lexemeAt_integer {column : Nat} {c : Char} {tail after : List Char} {n : Int}
    (reads : lexemeAt column c tail = (.ok (.number (.number (.int n))), after)) :
    isDigit c = true ∧ after = (c :: tail).dropWhile isDigit := by
  unfold lexemeAt at reads
  split at reads
  · next digit =>
    refine ⟨digit, ?_⟩
    unfold number at reads
    split at reads
    · cases reads
    · simp only at reads
      split at reads
      · cases reads
      · cases reads
        rfl
  · split at reads
    · cases reads
    · split at reads
      · have impossible := congrArg Prod.fst reads
        exact absurd (Except.ok.inj impossible) (word_ne_number _ _)
      · split at reads
        · next found =>
          cases reads
          exact absurd found (symbol_ne_number _ _ _ _)
        · cases reads

/-- A text that was trimmed does not start with a blank. -/
theorem head_of_trim {text tail : List Char} {c : Char} (trimmed : trim text = c :: tail) :
    isBlank c = false := by
  rcases start : trimStart text with _ | ⟨first, rest⟩
  · rw [trim, start] at trimmed
    cases trimmed
  · have inked := head_dropWhile isBlank text first rest start
    obtain ⟨others, shape⟩ := trimEnd_cons_of_not_blank inked rest
    rw [trim, start, shape] at trimmed
    cases trimmed
    exact inked

/-- **A line that starts with an integer is its digits, and what is read behind them.** -/
theorem opening_of_tokens {line : String} {n : Int} {column : Nat} {others : List Token}
    (isRead : tokens line = .ok (⟨.number (.number (.int n)), column⟩ :: others)) :
    ∃ digits after column', trim line.toList = digits ++ after ∧ AreDigits digits ∧
      (∀ c, after.head? = some c → isDecimal c = false) ∧
      Writable (.number (.number (.int n))) ∧ scan column' after = .ok others := by
  unfold tokens at isRead
  rcases shape : trim line.toList with _ | ⟨c, tail⟩
  · rw [shape, scan] at isRead
    cases isRead
  · rw [shape] at isRead
    have plain : Lexeme.number (.number (.int n)) ≠ .keyword "REM" := by rintro ⟨⟩
    obtain ⟨after, column', reads, behind⟩ := scan_opens (head_of_trim shape) plain isRead
    have writable := written_of_lexemeAt reads
    obtain ⟨digit, rfl⟩ := lexemeAt_integer reads
    refine ⟨(c :: tail).takeWhile isDigit, _, column', List.takeWhile_append_dropWhile.symm,
      ⟨?_, ?_⟩, ?_, writable, behind⟩
    · rw [List.takeWhile_cons_of_pos digit]
      exact List.cons_ne_nil _ _
    · exact fun d member => List.all_eq_true.mp List.all_takeWhile d member
    · intro d first
      obtain ⟨rest, left⟩ := List.head?_eq_some_iff.mp first
      exact not_isDecimal_of_scan behind first (head_dropWhile isDigit _ d rest left)

end LineBasic
