/-
**How a lexeme is written.**

An integer is written in decimal, a float with digits around a point, a text between quotes, and
every other lexeme as its own text. What is written like this is read back as the lexeme, unless
the character behind it makes it longer.

* `lexemeAt_written` — a written lexeme is read back, whatever stands apart from it.
-/

import LineBasic.Syntax.Lexer
import Mathlib

namespace LineBasic

open Text Lexer

/-! ### Characters and digits -/

theorem below_of_isDigit {c : Char} (digit : isDigit c = true) : c.toNat < 128 := by
  simp only [isDigit, Bool.and_eq_true, decide_eq_true_eq] at digit
  have high : c.toNat ≤ 57 := digit.2
  omega

theorem below_of_isLetter {c : Char} (letter : isLetter c = true) : c.toNat < 128 := by
  simp only [isLetter, Bool.and_eq_true, Bool.or_eq_true, decide_eq_true_eq] at letter
  rcases letter with ⟨_, high⟩ | ⟨_, high⟩
  · have high : c.toNat ≤ 122 := high
    omega
  · have high : c.toNat ≤ 90 := high
    omega

/-- A blank is no digit, no letter and no mark that a lexeme may hold. -/
theorem ends_of_isBlank {c : Char} (blank : isBlank c = true) :
    isDigit c = false ∧ isWordCharacter c = false ∧ c ≠ '.' ∧ c ≠ '$' ∧ c ≠ '=' ∧ c ≠ '>' := by
  have ascii : c.toNat < 128 → isDigit c = false ∧ isLetter c = false := by
    intro below
    exact @forall_below 128
      (fun c => isBlank c = true → isDigit c = false ∧ isLetter c = false)
      (by decide +kernel) c below blank
  have digit : isDigit c = false := by
    by_cases is : isDigit c = true
    · exact (ascii (below_of_isDigit is)).1
    · simpa using is
  have letter : isLetter c = false := by
    by_cases is : isLetter c = true
    · exact (ascii (below_of_isLetter is)).2
    · simpa using is
  refine ⟨digit, by rw [isWordCharacter, digit, letter]; rfl, ?_⟩
  refine ⟨?_, ?_, ?_, ?_⟩ <;> rintro rfl <;> cases blank

theorem not_isBlank_of_isDigit {c : Char} (digit : isDigit c = true) : isBlank c = false := by
  by_cases blank : isBlank c = true
  · rw [(ends_of_isBlank blank).1] at digit
    cases digit
  · simpa using blank

theorem not_isBlank_of_isWordCharacter {c : Char} (inWord : isWordCharacter c = true) :
    isBlank c = false := by
  by_cases blank : isBlank c = true
  · rw [(ends_of_isBlank blank).2.1] at inWord
    cases inWord
  · simpa using blank

/-- The capital of a letter is a letter. -/
theorem isLetter_asciiCapital {c : Char} (letter : isLetter c = true) :
    isLetter (asciiCapital c) = true :=
  @forall_below 128 (fun c => isLetter c = true → isLetter (asciiCapital c) = true)
    (by decide +kernel) c (below_of_isLetter letter) letter

/-- The capital of a character of a word can stand in a word. -/
theorem isWordCharacter_asciiCapital {c : Char} (inWord : isWordCharacter c = true) :
    isWordCharacter (asciiCapital c) = true := by
  have below : c.toNat < 128 := by
    simp only [isWordCharacter, Bool.or_eq_true] at inWord
    rcases inWord with letter | digit
    · exact below_of_isLetter letter
    · exact below_of_isDigit digit
  exact @forall_below 128
    (fun c => isWordCharacter c = true → isWordCharacter (asciiCapital c) = true)
    (by decide +kernel) c below inWord

/-- The number that some digits spell has no more digits. -/
theorem digitsValue_lt (digits : List Char) : digitsValue digits < 10 ^ digits.length := by
  have all : ∀ (digits : List Char) (start : Nat),
      digits.foldl (fun number c => 10 * number + (digitValue? c).getD 0) start <
        10 ^ digits.length * (start + 1) := by
    intro digits
    induction digits with
    | nil => simp
    | cons c rest hypothesis =>
      intro start
      have small : (digitValue? c).getD 0 < 10 := by
        cases found : digitValue? c with
        | none => decide
        | some value => exact digitValue?_lt found
      rw [List.foldl_cons, List.length_cons, Nat.pow_succ]
      refine Nat.lt_of_lt_of_le (hypothesis _) ?_
      rw [Nat.mul_assoc]
      exact Nat.mul_le_mul_left _ (by omega)
  simpa [digitsValue] using all digits 0

theorem isDigit_of_mem_toDigits {c : Char} {n : Nat} (member : c ∈ Nat.toDigits 10 n) :
    isDigit c = true := by
  have digit := Nat.isDigit_of_mem_toDigits (by decide) (by decide) member
  simp only [Char.isDigit, Bool.and_eq_true, decide_eq_true_eq] at digit
  simp only [isDigit, Bool.and_eq_true, decide_eq_true_eq]
  exact digit

/-- The decimal digits of a number spell it. -/
theorem digitsValue_toDigits (n : Nat) : digitsValue (Nat.toDigits 10 n) = n := by
  have agree : ∀ (digits : List Char) (start : Nat), (∀ c ∈ digits, isDigit c = true) →
      digits.foldl (fun number c => 10 * number + (digitValue? c).getD 0) start =
        Nat.ofDigitChars 10 digits start := by
    intro digits
    induction digits with
    | nil => simp
    | cons c rest hypothesis =>
      intro start are
      rw [List.foldl_cons, Nat.ofDigitChars_cons, digitValue?_ascii (are c List.mem_cons_self)]
      exact hypothesis _ fun d member => are d (List.mem_cons_of_mem c member)
  rw [digitsValue, agree _ _ fun c => isDigit_of_mem_toDigits, Nat.ofDigitChars_ten_toDigits]

/-! ### Written lexemes -/

/-- Some digits are there, and nothing but digits. -/
def AreDigits (digits : List Char) : Prop :=
  digits ≠ [] ∧ ∀ c ∈ digits, isDigit c = true

/-- A word is a letter with letters and digits behind it, all of them capitals, and perhaps a
dollar sign at its end. -/
def IsWord (spelling : List Char) : Prop :=
  ∃ first rest closing, spelling = first :: (rest ++ closing) ∧ isLetter first = true ∧
    (∀ c ∈ first :: rest, isWordCharacter c = true ∧ asciiCapital c = c) ∧
    (closing = [] ∨ closing = ['$'])

/-- Capital letters are a word. -/
theorem isWord_of_all {first : Char} {rest : List Char}
    (capitals : (first :: rest).all (fun c => isLetter c && asciiCapital c == c) = true) :
    IsWord (first :: rest) := by
  have are : ∀ c ∈ first :: rest, isLetter c = true ∧ asciiCapital c = c := by
    intro c member
    simpa using List.all_eq_true.mp capitals c member
  refine ⟨first, rest, [], by rw [List.append_nil], (are first List.mem_cons_self).1, ?_, .inl rfl⟩
  intro c member
  obtain ⟨letter, capital⟩ := are c member
  exact ⟨by rw [isWordCharacter, letter]; rfl, capital⟩

/-- How lexemes are written. -/
inductive Written : Lexeme → List Char → Prop where
  | integer {n : Nat} (short : n < 10 ^ digitLimit) :
      Written (.number (.int n)) (Nat.toDigits 10 n)
  | real {whole fraction : List Char} (digits : AreDigits whole)
      (digits' : ∀ c ∈ fraction, isDigit c = true) :
      Written (.number (.real (Numeral.toFloat ⟨false, whole, fraction, 0⟩)))
        (whole ++ '.' :: fraction)
  | string {text : List Char} (plain : '"' ∉ text) :
      Written (.string (String.ofList text)) ('"' :: (text ++ ['"']))
  | keyword {spelling : List Char} (isWord : IsWord spelling)
      (known : keywords.contains (String.ofList spelling) = true) :
      Written (.keyword (String.ofList spelling)) spelling
  | named {spelling : List Char} (isWord : IsWord spelling)
      (unknown : keywords.contains (String.ofList spelling) = false) :
      Written (.identifier (String.ofList spelling)) spelling
  | pair {c d : Char} (member : (c, d) ∈ pairs) :
      Written (.operator (String.ofList [c, d])) [c, d]
  | single {c : Char} (member : c ∈ singles) : Written (.operator (String.ofList [c])) [c]
  | mark {c : Char} (member : c ∈ marks) : Written (.punctuation (String.ofList [c])) [c]

/-- Whether a lexeme may go on with a character. -/
def Lexeme.goesOn (lexeme : Lexeme) (c : Char) : Bool :=
  match lexeme with
  | .number _ => isDigit c || c == '.'
  | .keyword _ => isWordCharacter c || c == '$'
  | .identifier _ => isWordCharacter c || c == '$'
  | .operator symbol => pairs.any fun pair => symbol.toList == [pair.1] && pair.2 == c
  | _ => false

/-- The text that follows does not make the lexeme longer. -/
def Apart (lexeme : Lexeme) (rest : List Char) : Prop :=
  ∀ c, rest.head? = some c → lexeme.goesOn c = false

theorem apart_nil (lexeme : Lexeme) : Apart lexeme [] :=
  nofun

/-- No lexeme goes on with a blank. -/
theorem goesOn_of_isBlank {c : Char} (blank : isBlank c = true) (lexeme : Lexeme) :
    lexeme.goesOn c = false := by
  obtain ⟨digit, inWord, point, dollar, equals, greater⟩ := ends_of_isBlank blank
  cases lexeme <;> simp [Lexeme.goesOn, pairs, *, Ne.symm equals, Ne.symm greater]

theorem apart_space (lexeme : Lexeme) (rest : List Char) : Apart lexeme (' ' :: rest) := by
  rintro c ⟨⟩
  exact goesOn_of_isBlank rfl lexeme

/-! ### Written lexemes are read back -/

section Reading

variable {rest : List Char}

/-- A stretch of characters ends where the next character does not belong to it. -/
theorem takeWhile_ended {keep : Char → Bool} {text : List Char}
    (kept : ∀ c ∈ text, keep c = true) (ended : ∀ c, rest.head? = some c → keep c = false) :
    (text ++ rest).takeWhile keep = text ∧ (text ++ rest).dropWhile keep = rest := by
  rw [List.takeWhile_append_of_pos kept, List.dropWhile_append_of_pos kept]
  cases rest with
  | nil => simp
  | cons c others =>
    have notKept : keep c = false := ended c rfl
    simp [notKept]

/-- Nothing is dropped from a text that has nothing to drop at its ends. -/
theorem dropWhile_ends {drop : Char → Bool} {text : List Char}
    (first : ∀ c, text.head? = some c → drop c = false)
    (last : ∀ c, text.getLast? = some c → drop c = false) :
    text.dropWhile drop = text ∧ (text.reverse.dropWhile drop).reverse = text := by
  have kept : ∀ text : List Char, (∀ c, text.head? = some c → drop c = false) →
      text.dropWhile drop = text := by
    intro text first
    cases text with
    | nil => rfl
    | cons c rest => exact List.dropWhile_cons_of_neg (by rw [first c rfl]; decide)
  refine ⟨kept text first, ?_⟩
  rw [← List.head?_reverse] at last
  rw [kept text.reverse last, List.reverse_reverse]

theorem number_integer {digits : List Char} (areDigits : AreDigits digits)
    (short : digits.length ≤ digitLimit)
    (apart : Apart (.number (.int (digitsValue digits))) rest) :
    number (digits ++ rest) = (.ok (.number (.int (digitsValue digits))), rest) := by
  have ended : ∀ c, rest.head? = some c → isDigit c = false ∧ c ≠ '.' := by
    intro c first
    simpa [Lexeme.goesOn] using apart c first
  obtain ⟨taken, left⟩ := takeWhile_ended areDigits.2 fun c first => (ended c first).1
  unfold number
  rw [taken, left]
  split
  · exact absurd rfl (ended '.' rfl).2
  · simp only
    rw [if_neg (by omega)]

theorem number_real {whole fraction : List Char} (areDigits : AreDigits whole)
    (areDigits' : ∀ c ∈ fraction, isDigit c = true)
    (ended : ∀ c, rest.head? = some c → isDigit c = false) :
    number ((whole ++ '.' :: fraction) ++ rest) =
      (.ok (.number (.real (Numeral.toFloat ⟨false, whole, fraction, 0⟩))), rest) := by
  obtain ⟨taken, left⟩ := takeWhile_ended areDigits' ended
  have point : isDigit '.' = false := by decide
  unfold number
  rw [List.append_assoc, List.takeWhile_append_of_pos areDigits.2,
    List.dropWhile_append_of_pos areDigits.2]
  simp [point, taken, left]

theorem string_quoted {text : List Char} (plain : '"' ∉ text) :
    string ((text ++ ['"']) ++ rest) = (.string (String.ofList text), rest) := by
  have kept : ∀ c ∈ text, (c != '"') = true := by
    intro c member
    simpa using fun same : c = '"' => plain (same ▸ member)
  unfold string
  rw [List.append_assoc, List.takeWhile_append_of_pos kept, List.dropWhile_append_of_pos kept]
  simp

theorem string_unclosed {text : List Char} (plain : '"' ∉ text) :
    string text = (.string (String.ofList text), []) := by
  have kept : ∀ c ∈ text, (c != '"') = true := by
    intro c member
    simpa using fun same : c = '"' => plain (same ▸ member)
  rw [string, List.takeWhile_eq_self_iff.mpr kept, List.dropWhile_eq_nil_iff.mpr kept]
  rfl

/-- Capitals stay as they are. -/
theorem capitals_of_isWord {spelling : List Char} (isWord : IsWord spelling) :
    spelling.map asciiCapital = spelling := by
  obtain ⟨first, body, closing, rfl, letter, are, closed⟩ := isWord
  have capital : ∀ c ∈ first :: (body ++ closing), asciiCapital c = c := by
    intro c member
    rcases List.mem_append.mp ((List.cons_append ▸ member : c ∈ (first :: body) ++ closing)) with
      inBody | closes
    · exact (are c inBody).2
    · rcases closed with rfl | rfl
      · cases closes
      · rw [List.mem_singleton.mp closes]
        decide
  calc (first :: (body ++ closing)).map asciiCapital
      = (first :: (body ++ closing)).map id := List.map_congr_left capital
    _ = first :: (body ++ closing) := List.map_id _

theorem word_written {spelling : List Char} (isWord : IsWord spelling)
    (ended : ∀ c, rest.head? = some c → isWordCharacter c = false ∧ c ≠ '$') :
    word (spelling ++ rest) = (wordLexeme spelling, rest) := by
  obtain ⟨first, body, closing, rfl, letter, are, closed⟩ := isWord
  have kept : ∀ c ∈ first :: body, isWordCharacter c = true := fun c member => (are c member).1
  unfold word
  rcases closed with rfl | rfl
  · rw [List.append_nil]
    obtain ⟨taken, left⟩ := takeWhile_ended kept fun c next => (ended c next).1
    rw [taken, left]
    split
    · exact absurd rfl (ended '$' rfl).2
    · rfl
  · have closing : isWordCharacter '$' = false := by decide
    have shape : first :: (body ++ ['$']) ++ rest = (first :: body) ++ '$' :: rest := by simp
    rw [shape, List.takeWhile_append_of_pos kept, List.dropWhile_append_of_pos kept]
    simp [closing]

theorem wordLexeme_keyword {spelling : List Char} (isWord : IsWord spelling)
    (known : keywords.contains (String.ofList spelling) = true) :
    wordLexeme spelling = .keyword (String.ofList spelling) := by
  unfold wordLexeme
  rw [capitals_of_isWord isWord]
  exact if_pos known

theorem wordLexeme_identifier {spelling : List Char} (isWord : IsWord spelling)
    (unknown : keywords.contains (String.ofList spelling) = false) :
    wordLexeme spelling = .identifier (String.ofList spelling) := by
  unfold wordLexeme
  rw [capitals_of_isWord isWord]
  exact if_neg (by rw [unknown]; decide)

theorem symbol_pair {c d : Char} (member : (c, d) ∈ pairs) :
    symbol c (d :: rest) = some (.operator (String.ofList [c, d]), rest) := by
  unfold symbol
  exact if_pos (List.contains_iff_mem.mpr member)

theorem symbol_single {c : Char} (member : c ∈ singles)
    (apart : Apart (.operator (String.ofList [c])) rest) :
    symbol c rest = some (.operator (String.ofList [c]), rest) := by
  have single : singles.contains c = true := List.contains_iff_mem.mpr member
  cases rest with
  | nil =>
    simp only [symbol]
    rw [if_pos single]
  | cons d others =>
    have notPair : pairs.contains (c, d) = false := by
      have ends := apart d rfl
      simp only [Lexeme.goesOn, String.toList_ofList] at ends
      simpa [pairs, eq_comm (a := d)] using ends
    simp only [symbol]
    rw [notPair, if_neg (by decide), if_pos single]

theorem symbol_mark {c : Char} (member : c ∈ marks) :
    symbol c rest = some (.punctuation (String.ofList [c]), rest) := by
  have known : (∀ d, pairs.contains (c, d) = false) ∧ singles.contains c = false ∧
      marks.contains c = true := by
    simp only [marks, List.mem_cons, List.not_mem_nil, or_false] at member
    rcases member with rfl | rfl | rfl | rfl | rfl <;> simp [pairs, singles, marks]
  obtain ⟨notPair, notSingle, mark⟩ := known
  cases rest with
  | nil =>
    simp only [symbol]
    rw [notSingle, if_neg (by decide), if_pos mark]
  | cons d others =>
    simp only [symbol]
    rw [notPair d, if_neg (by decide), notSingle, if_neg (by decide), if_pos mark]

end Reading

theorem isDigit_of_letter {c : Char} (letter : isLetter c = true) : isDigit c = false := by
  by_cases digit : isDigit c = true
  · rw [not_isLetter_of_isDigit digit] at letter
    cases letter
  · simpa using digit

theorem quote_of_letter {c : Char} (letter : isLetter c = true) : c ≠ '"' := by
  rintro rfl
  cases letter

/-- What starts a mark or an operator starts nothing else. -/
theorem symbol_start : ∀ c ∈ singles ++ marks,
    isBlank c = false ∧ isDigit c = false ∧ c ≠ '"' ∧ isLetter c = false := by
  have all : (singles ++ marks).all (fun c =>
      !isBlank c && !isDigit c && c != '"' && !isLetter c) = true := by
    decide
  intro c member
  simpa [and_assoc] using List.all_eq_true.mp all c member

theorem starts_of_pair {c d : Char} (member : (c, d) ∈ pairs) : c ∈ singles ++ marks := by
  simp only [pairs, List.mem_cons, Prod.mk.injEq, List.not_mem_nil, or_false] at member
  rcases member with ⟨rfl, _⟩ | ⟨rfl, _⟩ | ⟨rfl, _⟩ <;> decide

theorem lexemeAt_symbol {c : Char} {lexeme : Lexeme} {text rest : List Char}
    (starts : c ∈ singles ++ marks) (read : symbol c text = some (lexeme, rest))
    (column : Nat) : lexemeAt column c text = (.ok lexeme, rest) := by
  obtain ⟨_, notDigit, notQuote, notLetter⟩ := symbol_start c starts
  unfold lexemeAt
  rw [notDigit, if_neg (by decide), if_neg notQuote, notLetter, if_neg (by decide), read]

theorem lexemeAt_word {spelling rest : List Char} (isWord : IsWord spelling)
    (ended : ∀ c, rest.head? = some c → isWordCharacter c = false ∧ c ≠ '$') :
    ∃ c tail, spelling = c :: tail ∧ isBlank c = false ∧
      ∀ column, lexemeAt column c (tail ++ rest) = (.ok (wordLexeme spelling), rest) := by
  have read := word_written isWord ended
  obtain ⟨first, body, closing, rfl, letter, are, closed⟩ := isWord
  have inked := not_isBlank_of_isWordCharacter (are first List.mem_cons_self).1
  refine ⟨first, body ++ closing, rfl, inked, fun column => ?_⟩
  have notDigit : ¬ isDigit first = true := by simp [isDigit_of_letter letter]
  rw [List.cons_append] at read
  unfold lexemeAt
  rw [if_neg notDigit, if_neg (quote_of_letter letter), if_pos letter, read]

/-- A written lexeme starts with a character that is no blank, and is read back from it. -/
theorem lexemeAt_written {lexeme : Lexeme} {text rest : List Char} (writes : Written lexeme text)
    (apart : Apart lexeme rest) :
    ∃ c tail, text = c :: tail ∧ isBlank c = false ∧
      ∀ column, lexemeAt column c (tail ++ rest) = (.ok lexeme, rest) := by
  cases writes with
  | @integer n short =>
    have areDigits : AreDigits (Nat.toDigits 10 n) :=
      ⟨Nat.toDigits_ne_nil, fun c => isDigit_of_mem_toDigits⟩
    have within : (Nat.toDigits 10 n).length ≤ digitLimit :=
      (Nat.length_toDigits_le_iff (by decide) (by decide)).mpr short
    have read : number (Nat.toDigits 10 n ++ rest) = (.ok (.number (.int n)), rest) := by
      rw [← digitsValue_toDigits n] at apart
      rw [number_integer areDigits within apart, digitsValue_toDigits]
    cases shape : Nat.toDigits 10 n with
    | nil => exact absurd shape areDigits.1
    | cons c tail =>
      rw [shape] at areDigits read
      have digit : isDigit c = true := areDigits.2 c List.mem_cons_self
      refine ⟨c, tail, rfl, not_isBlank_of_isDigit digit, fun column => ?_⟩
      unfold lexemeAt
      rw [if_pos digit]
      exact read
  | @real whole fraction areDigits areDigits' =>
    have ended : ∀ c, rest.head? = some c → isDigit c = false := by
      intro c first
      have := apart c first
      simp only [Lexeme.goesOn, Bool.or_eq_false_iff] at this
      exact this.1
    have read := number_real areDigits areDigits' ended
    cases whole with
    | nil => exact absurd rfl areDigits.1
    | cons c tail =>
      have digit : isDigit c = true := areDigits.2 c List.mem_cons_self
      refine ⟨c, tail ++ '.' :: fraction, rfl, not_isBlank_of_isDigit digit, fun column => ?_⟩
      unfold lexemeAt
      rw [if_pos digit]
      exact read
  | @string text plain =>
    refine ⟨'"', text ++ ['"'], rfl, rfl, fun column => ?_⟩
    have notDigit : ¬ isDigit '"' = true := by decide
    unfold lexemeAt
    rw [if_neg notDigit, if_pos rfl, string_quoted plain]
  | keyword isWord known =>
    rw [← wordLexeme_keyword isWord known]
    exact lexemeAt_word isWord fun c first => by simpa [Lexeme.goesOn] using apart c first
  | named isWord unknown =>
    rw [← wordLexeme_identifier isWord unknown]
    exact lexemeAt_word isWord fun c first => by simpa [Lexeme.goesOn] using apart c first
  | @pair c d member =>
    have starts := starts_of_pair member
    exact ⟨c, [d], rfl, (symbol_start c starts).1, lexemeAt_symbol starts (symbol_pair member)⟩
  | @single c member =>
    have starts : c ∈ singles ++ marks := List.mem_append_left marks member
    exact ⟨c, [], rfl, (symbol_start c starts).1,
      lexemeAt_symbol starts (symbol_single member apart)⟩
  | @mark c member =>
    have starts : c ∈ singles ++ marks := List.mem_append_right singles member
    exact ⟨c, [], rfl, (symbol_start c starts).1, lexemeAt_symbol starts (symbol_mark member)⟩

/-- The characters of a word are no blanks. -/
theorem inked_of_isWord {spelling : List Char} (isWord : IsWord spelling) :
    spelling ≠ [] ∧ ∀ c ∈ spelling, isBlank c = false := by
  obtain ⟨first, body, closing, rfl, letter, are, closed⟩ := isWord
  refine ⟨List.cons_ne_nil _ _, fun c member => ?_⟩
  rw [← List.cons_append] at member
  rcases List.mem_append.mp member with inBody | closes
  · exact not_isBlank_of_isWordCharacter (are c inBody).1
  · rcases closed with rfl | rfl
    · cases closes
    · rw [List.mem_singleton.mp closes]
      decide

theorem last_of_inked {text : List Char} (inked : text ≠ [] ∧ ∀ c ∈ text, isBlank c = false) :
    ∃ c, text.getLast? = some c ∧ isBlank c = false :=
  ⟨_, List.getLast?_eq_some_getLast inked.1, inked.2 _ (List.getLast_mem inked.1)⟩

/-- A written lexeme does not end with a blank. -/
theorem Written.last {lexeme : Lexeme} {text : List Char} (writes : Written lexeme text) :
    ∃ c, text.getLast? = some c ∧ isBlank c = false := by
  cases writes with
  | integer short =>
    exact last_of_inked ⟨Nat.toDigits_ne_nil, fun c member =>
      not_isBlank_of_isDigit (isDigit_of_mem_toDigits member)⟩
  | @real whole fraction areDigits areDigits' =>
    refine last_of_inked ⟨by simp, fun c member => ?_⟩
    rcases List.mem_append.mp member with inWhole | behind
    · exact not_isBlank_of_isDigit (areDigits.2 c inWhole)
    · rcases List.mem_cons.mp behind with rfl | inFraction
      · decide
      · exact not_isBlank_of_isDigit (areDigits' c inFraction)
  | @string body plain =>
    have last : (('"' :: body) ++ ['"']).getLast? = some '"' := List.getLast?_concat
    exact ⟨'"', last, rfl⟩
  | keyword isWord known => exact last_of_inked (inked_of_isWord isWord)
  | named isWord unknown => exact last_of_inked (inked_of_isWord isWord)
  | pair member =>
    refine last_of_inked ⟨List.cons_ne_nil _ _, ?_⟩
    simp only [pairs, List.mem_cons, Prod.mk.injEq, List.not_mem_nil, or_false] at member
    rcases member with ⟨rfl, rfl⟩ | ⟨rfl, rfl⟩ | ⟨rfl, rfl⟩ <;> simp [isBlank]
  | single member =>
    exact ⟨_, rfl, (symbol_start _ (List.mem_append_left marks member)).1⟩
  | mark member =>
    exact ⟨_, rfl, (symbol_start _ (List.mem_append_right singles member)).1⟩

end LineBasic
