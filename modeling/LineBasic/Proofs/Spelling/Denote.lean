/-
**What a stretch of a line denotes.**

Digits denote their number, alone or around a point; a text between quotes, or behind a quote that
is never closed, denotes that text; a letter with letters and digits behind it denotes the word in
capitals; and a mark denotes itself. What is read off the front of a line is the longest stretch
that denotes anything. Every lexeme that is read can be written.

* `real?_of_digits` — digits around a point are a float, as a text on its own is;
* `denotes_of_lexemeAt` — what is read off the front of a text denotes its lexeme;
* `lexemeAt_longest`, `front_of_lexemeAt` — no longer stretch at the front denotes anything;
* `written_of_lexemeAt` — a lexeme that was read can be written.
-/

import LineBasic.Number.Spelled
import LineBasic.Proofs.Spelling.Lexeme

namespace LineBasic

open Text Lexer

/-! ### Digits around a point -/

namespace Spelled

/-- Nothing stands around a text that starts and ends with ink. -/
theorem core_of_inked {text : List Char} (first : ∀ c, text.head? = some c → isBlank c = false)
    (last : ∀ c, text.getLast? = some c → isBlank c = false) : core text = text := by
  have margin : ∀ c, isBlank c = false → isMargin c = false := by
    intro c inked
    rw [isMargin, inked]
    rfl
  obtain ⟨start, finish⟩ := dropWhile_ends (fun c head => margin c (first c head))
    fun c ends => margin c (last c ends)
  rw [core, start, finish]

/-- A numeral without blanks and underscores is a float. -/
theorem real?_of_read {text : List Char} {numeral : Numeral}
    (inked : ∀ c ∈ text, isBlank c = false) (plain : '_' ∉ text)
    (found : Numeral.read text = some (numeral, [])) :
    real? (String.ofList text) = some numeral.toFloat := by
  have core := core_of_inked (fun c first => inked c (List.mem_of_head? first))
    fun c last => inked c (List.mem_of_getLast? last)
  unfold real?
  rw [String.toList_ofList, core, withoutUnderscores_of_plain _ _ plain]
  simp only [found]

end Spelled

theorem isDecimal_of_isDigit {c : Char} (digit : isDigit c = true) : isDecimal c = true := by
  rw [isDecimal, digitValue?_ascii digit]
  rfl

section Point

variable {whole fraction : List Char}

theorem Numeral.read_digits (areDigits : AreDigits whole)
    (areDigits' : ∀ c ∈ fraction, isDigit c = true) :
    Numeral.read (whole ++ '.' :: fraction) = some (⟨false, whole, fraction, 0⟩, []) := by
  have decimals : ∀ c ∈ whole, isDecimal c = true :=
    fun c member => isDecimal_of_isDigit (areDigits.2 c member)
  have point : ∀ c, ('.' :: fraction).head? = some c → isDecimal c = false := by
    rintro c ⟨⟩
    decide
  have front : Numeral.digits (whole ++ '.' :: fraction) = (whole, '.' :: fraction) := by
    obtain ⟨taken, left⟩ := takeWhile_ended decimals point
    rw [Numeral.digits, taken, left]
  have back : Numeral.digits fraction = (fraction, []) := by
    have decimals' : ∀ c ∈ fraction, isDecimal c = true := fun c member =>
      isDecimal_of_isDigit (areDigits' c member)
    rw [Numeral.digits, List.takeWhile_eq_self_iff.mpr decimals',
      List.dropWhile_eq_nil_iff.mpr decimals']
  obtain ⟨c, tail, rfl⟩ := List.exists_cons_of_ne_nil areDigits.1
  have digit : isDigit c = true := areDigits.2 c List.mem_cons_self
  have unsigned : Numeral.sign (c :: tail ++ '.' :: fraction) =
      (false, c :: tail ++ '.' :: fraction) := by
    rw [List.cons_append, Numeral.sign]
    · rintro rest ⟨⟩
      cases digit
    · rintro rest ⟨⟩
      cases digit
  have parts : Numeral.mantissa (c :: tail ++ '.' :: fraction) =
      some (c :: tail, fraction, []) := by
    simp only [Numeral.mantissa, front, Numeral.fractionPart, back]
  simp only [Numeral.read, unsigned, parts, Numeral.exponentPart]

/-- **Digits around a point are a float**, as they are when they are handed over as a whole. -/
theorem real?_of_digits (areDigits : AreDigits whole)
    (areDigits' : ∀ c ∈ fraction, isDigit c = true) :
    Spelled.real? (String.ofList (whole ++ '.' :: fraction)) =
      some (Numeral.toFloat ⟨false, whole, fraction, 0⟩) := by
  have inside : ∀ c ∈ whole ++ '.' :: fraction, isDigit c = true ∨ c = '.' := by
    intro c member
    rcases List.mem_append.mp member with inWhole | behind
    · exact .inl (areDigits.2 c inWhole)
    · exact (List.mem_cons.mp behind).symm.imp (areDigits' c) id
  have inked : ∀ c ∈ whole ++ '.' :: fraction, isBlank c = false := by
    intro c member
    rcases inside c member with digit | rfl
    · exact not_isBlank_of_isDigit digit
    · decide
  have plain : '_' ∉ whole ++ '.' :: fraction := by
    intro member
    rcases inside _ member with digit | point
    · cases digit
    · cases point
  exact Spelled.real?_of_read inked plain (Numeral.read_digits areDigits areDigits')

end Point

/-! ### What a stretch of a line denotes -/

/-- A word as it is typed: a letter with letters and digits behind it, and perhaps a dollar sign at
its end. -/
def IsTypedWord (spelling : List Char) : Prop :=
  ∃ first rest closing, spelling = first :: (rest ++ closing) ∧ isLetter first = true ∧
    (∀ c ∈ rest, isWordCharacter c = true) ∧ (closing = [] ∨ closing = ['$'])

/-- The word in capitals. -/
def capitals (spelling : List Char) : String :=
  String.ofList (spelling.map asciiCapital)

/-- What a stretch of a line denotes, in front of the rest of the line. -/
inductive Denotes (after : List Char) : List Char → Lexeme → Prop where
  | integer {digits : List Char} (areDigits : AreDigits digits) :
      Denotes after digits (.number (.int (digitsValue digits)))
  | real {whole fraction : List Char} {x : Float} (areDigits : AreDigits whole)
      (areDigits' : ∀ c ∈ fraction, isDigit c = true)
      (value : Spelled.real? (String.ofList (whole ++ '.' :: fraction)) = some x) :
      Denotes after (whole ++ '.' :: fraction) (.number (.real x))
  | quoted {text : List Char} (plain : '"' ∉ text) :
      Denotes after ('"' :: (text ++ ['"'])) (.string (String.ofList text))
  | unclosed {text : List Char} (plain : '"' ∉ text) (last : after = []) :
      Denotes after ('"' :: text) (.string (String.ofList text))
  | keyword {spelling : List Char} (isWord : IsTypedWord spelling)
      (known : capitals spelling ∈ keywords) : Denotes after spelling (.keyword (capitals spelling))
  | identifier {spelling : List Char} (isWord : IsTypedWord spelling)
      (unknown : capitals spelling ∉ keywords) :
      Denotes after spelling (.identifier (capitals spelling))
  | pair {c d : Char} (member : (c, d) ∈ pairs) :
      Denotes after [c, d] (.operator (String.ofList [c, d]))
  | single {c : Char} (member : c ∈ singles) : Denotes after [c] (.operator (String.ofList [c]))
  | mark {c : Char} (member : c ∈ marks) : Denotes after [c] (.punctuation (String.ofList [c]))

theorem Denotes.ne_nil {after span : List Char} {lexeme : Lexeme}
    (denotes : Denotes after span lexeme) : span ≠ [] := by
  cases denotes with
  | integer areDigits => exact areDigits.1
  | keyword isWord known =>
    obtain ⟨first, rest, closing, rfl, _⟩ := isWord
    exact List.cons_ne_nil _ _
  | identifier isWord unknown =>
    obtain ⟨first, rest, closing, rfl, _⟩ := isWord
    exact List.cons_ne_nil _ _
  | _ => simp

theorem Denotes.noEnd {after span : List Char} {lexeme : Lexeme}
    (denotes : Denotes after span lexeme) : lexeme.isEnd = false := by
  cases denotes <;> rfl

/-! ### What is read denotes its lexeme -/

section Read

variable {c : Char} {rest after : List Char} {lexeme : Lexeme}

theorem denotes_of_number {text : List Char} (starts : text.takeWhile isDigit ≠ [])
    (read : number text = (.ok lexeme, after)) :
    ∃ span, text = span ++ after ∧ Denotes after span lexeme := by
  have areDigits : AreDigits (text.takeWhile isDigit) :=
    ⟨starts, fun c member => List.all_eq_true.mp List.all_takeWhile c member⟩
  have parts : text.takeWhile isDigit ++ text.dropWhile isDigit = text :=
    List.takeWhile_append_dropWhile
  unfold number at read
  split at read
  · next others shape =>
    cases read
    have areDigits' : ∀ c ∈ others.takeWhile isDigit, isDigit c = true :=
      fun c member => List.all_eq_true.mp List.all_takeWhile c member
    refine ⟨text.takeWhile isDigit ++ '.' :: others.takeWhile isDigit, ?_,
      .real areDigits areDigits' (real?_of_digits areDigits areDigits')⟩
    rw [List.append_assoc, List.cons_append, List.takeWhile_append_dropWhile, ← shape, parts]
  · simp only at read
    split at read
    · cases read
    · cases read
      exact ⟨text.takeWhile isDigit, parts.symm, .integer areDigits⟩

theorem denotes_of_string (rest : List Char) :
    ∃ tail, rest = tail ++ (string rest).2 ∧
      Denotes (string rest).2 ('"' :: tail) (string rest).1 := by
  have plain : '"' ∉ rest.takeWhile (· != '"') := by
    intro member
    have kept := List.all_eq_true.mp List.all_takeWhile _ member
    simp at kept
  have parts : rest.takeWhile (· != '"') ++ rest.dropWhile (· != '"') = rest :=
    List.takeWhile_append_dropWhile
  unfold string
  cases shape : rest.dropWhile (· != '"') with
  | nil =>
    rw [shape, List.append_nil] at parts
    exact ⟨rest.takeWhile (· != '"'), by simp [parts], .unclosed plain rfl⟩
  | cons d others =>
    have quote : d = '"' := by simpa using head_dropWhile _ rest d others shape
    subst quote
    rw [shape] at parts
    exact ⟨rest.takeWhile (· != '"') ++ ['"'], by simp [parts], .quoted plain⟩

/-- A typed word denotes a word of the language, or a name. -/
theorem denotes_word {spelling : List Char} (isWord : IsTypedWord spelling) :
    Denotes after spelling (wordLexeme spelling) := by
  unfold wordLexeme
  by_cases known : capitals spelling ∈ keywords
  · have held : keywords.contains (capitals spelling) = true := List.contains_iff_mem.mpr known
    rw [capitals] at held
    simp only [held, if_true]
    exact .keyword isWord known
  · have missed : keywords.contains (capitals spelling) = false := by simpa using known
    rw [capitals] at missed
    simp only [missed, Bool.false_eq_true, if_false]
    exact .identifier isWord known

theorem denotes_of_word (letter : isLetter c = true) (rest : List Char) :
    ∃ tail, rest = tail ++ (word (c :: rest)).2 ∧
      Denotes (word (c :: rest)).2 (c :: tail) (word (c :: rest)).1 := by
  have inWord : isWordCharacter c = true := by
    rw [isWordCharacter, letter]
    rfl
  have kept : ∀ d ∈ rest.takeWhile isWordCharacter, isWordCharacter d = true :=
    fun d member => List.all_eq_true.mp List.all_takeWhile d member
  have parts : rest.takeWhile isWordCharacter ++ rest.dropWhile isWordCharacter = rest :=
    List.takeWhile_append_dropWhile
  unfold word
  rw [List.takeWhile_cons_of_pos inWord, List.dropWhile_cons_of_pos inWord]
  split
  · next others shape =>
    rw [shape] at parts
    exact ⟨rest.takeWhile isWordCharacter ++ ['$'], by simp [parts],
      denotes_word ⟨c, _, ['$'], rfl, letter, kept, .inr rfl⟩⟩
  · exact ⟨rest.takeWhile isWordCharacter, parts.symm,
      denotes_word ⟨c, _, [], by rw [List.append_nil], letter, kept, .inl rfl⟩⟩

theorem denotes_of_symbol (read : symbol c rest = some (lexeme, after)) :
    ∃ tail, rest = tail ++ after ∧ Denotes after (c :: tail) lexeme := by
  unfold symbol at read
  split at read
  · next d others =>
    split at read
    · next member =>
      cases read
      exact ⟨[d], rfl, .pair (List.contains_iff_mem.mp member)⟩
    · split at read
      · next member =>
        cases read
        exact ⟨[], rfl, .single (List.contains_iff_mem.mp member)⟩
      · split at read
        · next member =>
          cases read
          exact ⟨[], rfl, .mark (List.contains_iff_mem.mp member)⟩
        · cases read
  · split at read
    · next member =>
      cases read
      exact ⟨[], rfl, .single (List.contains_iff_mem.mp member)⟩
    · split at read
      · next member =>
        cases read
        exact ⟨[], rfl, .mark (List.contains_iff_mem.mp member)⟩
      · cases read

/-- **What is read off the front of a text denotes its lexeme.** -/
theorem denotes_of_lexemeAt {column : Nat} (read : lexemeAt column c rest = (.ok lexeme, after)) :
    ∃ tail, rest = tail ++ after ∧ Denotes after (c :: tail) lexeme := by
  unfold lexemeAt at read
  split at read
  · next digit =>
    obtain ⟨span, shape, denotes⟩ := denotes_of_number (by simp [digit]) read
    obtain ⟨d, tail, rfl⟩ := List.exists_cons_of_ne_nil denotes.ne_nil
    cases shape
    exact ⟨tail, rfl, denotes⟩
  · split at read
    · next quote =>
      cases read
      exact quote ▸ denotes_of_string rest
    · split at read
      · next letter =>
        cases read
        exact denotes_of_word letter rest
      · split at read
        · next found =>
          cases read
          exact denotes_of_symbol found
        · cases read

end Read

/-! ### No longer stretch denotes anything -/

section Longest

variable {after : List Char}

/-- A number takes all digits at the front. -/
theorem length_number_digits {digits : List Char} (are : ∀ c ∈ digits, isDigit c = true) :
    (number (digits ++ after)).2.length ≤ after.length := by
  have behind := length_dropWhile_le isDigit after
  unfold number
  rw [List.dropWhile_append_of_pos are]
  split
  · next others shape =>
    rw [shape, List.length_cons] at behind
    have := length_dropWhile_le isDigit others
    simp only
    omega
  · simp only
    split <;> exact behind

/-- A number takes all digits around a point at the front. -/
theorem length_number_point {whole fraction : List Char} (are : ∀ c ∈ whole, isDigit c = true)
    (are' : ∀ c ∈ fraction, isDigit c = true) :
    (number ((whole ++ '.' :: fraction) ++ after)).2.length ≤ after.length := by
  have point : isDigit '.' = false := by decide
  unfold number
  rw [List.append_assoc, List.dropWhile_append_of_pos are, List.cons_append,
    List.dropWhile_cons_of_neg (by rw [point]; decide)]
  simp only
  rw [List.dropWhile_append_of_pos are']
  exact length_dropWhile_le isDigit after

/-- A word takes all letters and digits at the front, and a dollar sign behind them. -/
theorem length_word_typed {spelling : List Char} (isWord : IsTypedWord spelling) :
    (word (spelling ++ after)).2.length ≤ after.length := by
  obtain ⟨first, rest, closing, rfl, letter, are, closed⟩ := isWord
  have kept : ∀ c ∈ first :: rest, isWordCharacter c = true :=
    List.forall_mem_cons.mpr ⟨by rw [isWordCharacter, letter]; rfl, are⟩
  have behind := length_dropWhile_le isWordCharacter after
  unfold word
  rcases closed with rfl | rfl
  · rw [List.append_nil, List.dropWhile_append_of_pos kept]
    split
    · next others shape =>
      rw [shape, List.length_cons] at behind
      simp only
      omega
    · exact behind
  · have closing : isWordCharacter '$' = false := by decide
    rw [← List.cons_append, List.append_assoc, List.dropWhile_append_of_pos kept,
      List.singleton_append, List.dropWhile_cons_of_neg (by rw [closing]; decide)]
    exact Nat.le_refl _

/-- A typed word starts with a letter. -/
theorem IsTypedWord.head {c : Char} {rest spelling : List Char} (isWord : IsTypedWord spelling)
    (shape : c :: rest = spelling ++ after) : isLetter c = true := by
  obtain ⟨first, _, _, rfl, letter, _⟩ := isWord
  cases shape
  exact letter

theorem AreDigits.head {c : Char} {rest digits : List Char} (areDigits : AreDigits digits)
    (shape : c :: rest = digits ++ after) : isDigit c = true := by
  obtain ⟨first, others, rfl⟩ := List.exists_cons_of_ne_nil areDigits.1
  cases shape
  exact areDigits.2 c List.mem_cons_self

/-- **No longer stretch at the front denotes anything** than the one that is read. -/
theorem lexemeAt_longest {span : List Char} {lexeme : Lexeme} (denotes : Denotes after span lexeme)
    {c : Char} {rest : List Char} (shape : c :: rest = span ++ after) (column : Nat) :
    (lexemeAt column c rest).2.length ≤ after.length := by
  cases denotes with
  | integer areDigits =>
    rw [lexemeAt, if_pos (areDigits.head shape), shape]
    exact length_number_digits areDigits.2
  | real areDigits areDigits' value =>
    rw [lexemeAt, if_pos (areDigits.head (shape.trans (List.append_assoc ..))), shape]
    exact length_number_point areDigits.2 areDigits'
  | quoted plain =>
    rw [List.cons_append] at shape
    cases shape
    have notDigit : ¬ isDigit '"' = true := by decide
    rw [lexemeAt, if_neg notDigit, if_pos rfl, string_quoted plain]
  | unclosed plain last =>
    rw [List.cons_append, last, List.append_nil] at shape
    cases shape
    have notDigit : ¬ isDigit '"' = true := by decide
    rw [lexemeAt, if_neg notDigit, if_pos rfl, string_unclosed plain]
    exact Nat.zero_le _
  | keyword isWord known =>
    have letter := isWord.head shape
    have notDigit : ¬ isDigit c = true := by simp [isDigit_of_letter letter]
    rw [lexemeAt, if_neg notDigit, if_neg (quote_of_letter letter), if_pos letter, shape]
    exact length_word_typed isWord
  | identifier isWord unknown =>
    have letter := isWord.head shape
    have notDigit : ¬ isDigit c = true := by simp [isDigit_of_letter letter]
    rw [lexemeAt, if_neg notDigit, if_neg (quote_of_letter letter), if_pos letter, shape]
    exact length_word_typed isWord
  | pair member =>
    rw [List.cons_append, List.singleton_append] at shape
    cases shape
    rw [lexemeAt_symbol (starts_of_pair member) (symbol_pair member)]
  | single member =>
    cases shape
    exact length_lexemeAt_le column c after
  | mark member =>
    cases shape
    exact length_lexemeAt_le column c after

/-- **The stretch that is read off the front of a text** denotes its lexeme, and is the longest that
denotes anything. -/
theorem front_of_lexemeAt {column : Nat} {c : Char} {rest : List Char} {lexeme : Lexeme}
    (reads : lexemeAt column c rest = (.ok lexeme, after)) :
    ∃ front, c :: rest = front ++ after ∧ rest.length + 1 - after.length = front.length ∧
      Denotes after front lexeme ∧ ∀ longer after' other, front ++ after = longer ++ after' →
        Denotes after' longer other → longer.length ≤ front.length := by
  obtain ⟨tail, rfl, denotes⟩ := denotes_of_lexemeAt reads
  refine ⟨c :: tail, rfl, ?_, denotes, fun longer after' other same denotes' => ?_⟩
  · rw [List.length_append, List.length_cons]
    omega
  · have least := lexemeAt_longest denotes' same column
    have total := congrArg List.length same
    rw [List.append_eq, reads] at least
    simp only [List.length_append] at total
    simp only at least
    omega

end Longest

/-! ### Lexemes that are read can be written -/

/-- The capitals of a typed word are a word. -/
theorem IsTypedWord.isWord {spelling : List Char} (isWord : IsTypedWord spelling) :
    IsWord (spelling.map asciiCapital) := by
  obtain ⟨first, body, closing, rfl, letter, are, closed⟩ := isWord
  have kept : ∀ c ∈ first :: body, isWordCharacter c = true :=
    List.forall_mem_cons.mpr ⟨by rw [isWordCharacter, letter]; rfl, are⟩
  have same : closing.map asciiCapital = closing := by
    rcases closed with rfl | rfl
    · rfl
    · decide
  refine ⟨asciiCapital first, body.map asciiCapital, closing, ?_, isLetter_asciiCapital letter,
    ?_, closed⟩
  · rw [List.map_cons, List.map_append, same]
  · intro c member
    rw [← List.map_cons] at member
    obtain ⟨d, isIn, rfl⟩ := List.mem_map.mp member
    exact ⟨isWordCharacter_asciiCapital (kept d isIn), asciiCapital_idem d⟩

/-- An integer that was read has no more digits than may be written. -/
theorem short_of_number {text after : List Char} {n : Nat}
    (read : number text = (.ok (.number (.int n)), after)) : n < 10 ^ digitLimit := by
  unfold number at read
  split at read
  · cases read
  · simp only at read
    split at read
    · cases read
    · next short =>
      cases read
      refine Nat.lt_of_lt_of_le (digitsValue_lt _) ?_
      exact Nat.pow_le_pow_right (by decide) (Nat.le_of_not_lt short)

theorem length_of_number {span text after : List Char} {n : Int}
    (read : number text = (.ok (.number (.int n)), after)) (shape : text = span ++ after) :
    span.length ≤ digitLimit := by
  have parts : text.takeWhile isDigit ++ text.dropWhile isDigit = text :=
    List.takeWhile_append_dropWhile
  unfold number at read
  split at read
  · cases read
  · simp only at read
    split at read
    · cases read
    · next short =>
      cases read
      rw [← List.append_cancel_right (parts.trans shape)]
      exact Nat.le_of_not_lt short

/-- An integer that was read has no more digits than it may be written with. -/
theorem length_of_lexemeAt {column : Nat} {c : Char} {rest span after : List Char}
    {lexeme : Lexeme} (reads : lexemeAt column c rest = (.ok lexeme, after))
    (shape : c :: rest = span ++ after) :
    ∀ n, lexeme = .number (.int n) → span.length ≤ digitLimit := by
  rintro n rfl
  obtain ⟨front, shape', _, denotes, _⟩ := front_of_lexemeAt reads
  cases denotes with
  | integer areDigits =>
    rw [lexemeAt, if_pos (areDigits.head shape')] at reads
    exact length_of_number reads shape

/-- **A lexeme that was read can be written.** -/
theorem written_of_lexemeAt {column : Nat} {c : Char} {rest after : List Char} {lexeme : Lexeme}
    (read : lexemeAt column c rest = (.ok lexeme, after)) :
    ∃ spelling, Written lexeme spelling := by
  obtain ⟨front, shape, _, denotes, _⟩ := front_of_lexemeAt read
  cases denotes with
  | integer areDigits =>
    rw [lexemeAt, if_pos (areDigits.head shape)] at read
    exact ⟨_, .integer (short_of_number read)⟩
  | real areDigits areDigits' value =>
    rw [real?_of_digits areDigits areDigits'] at value
    cases value
    exact ⟨_, .real areDigits areDigits'⟩
  | quoted plain => exact ⟨_, .string plain⟩
  | unclosed plain last => exact ⟨_, .string plain⟩
  | keyword isWord known => exact ⟨_, .keyword isWord.isWord (List.contains_iff_mem.mpr known)⟩
  | identifier isWord unknown =>
    exact ⟨_, .named isWord.isWord (by simpa [capitals] using unknown)⟩
  | pair member => exact ⟨_, .pair member⟩
  | single member => exact ⟨_, .single member⟩
  | mark member => exact ⟨_, .mark member⟩

end LineBasic
