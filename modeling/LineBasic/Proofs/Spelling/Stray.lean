/-
**Where a line is not read any further.**

A line is read from the left, blanks and longest lexemes in turn. Reading comes to a halt at the
end, behind the word `REM`, at a character that no lexeme starts with, or at an integer of too many
digits. Only the third is an unknown character, and what stands behind it does not matter: the
line fails in the same way whatever follows. A point and a dollar sign start no lexeme, nor does
any character outside ASCII; in a line that is read such characters are sheltered by a text, a
remark, a number or a word.

* `Leads` — a stretch that denotes its lexeme and could not be longer;
* `Passed` — what is read before reading halts;
* `lexemeAt_ended` — a stretch that does not go on with the next character is what is read;
* `passed_to_halt` — the ways in which reading comes to a halt;
* `located` — the first unknown character of a line, and what stands before and behind it.
-/

import LineBasic.Proofs.Spelling.Column

namespace LineBasic

open Text Lexer

/-! ### The longest stretch at the front of a text -/

/-- A stretch denotes its lexeme, and no longer stretch from the same place denotes anything. -/
structure Leads (after span : List Char) (lexeme : Lexeme) : Prop where
  denotes : Denotes after span lexeme
  longest : ∀ longer after' other, span ++ after = longer ++ after' →
    Denotes after' longer other → longer.length ≤ span.length

/-- A stretch goes on with a character: with it, the stretch denotes something wherever it
stands. -/
def Extends (span : List Char) (d : Char) : Prop :=
  ∃ lexeme, ∀ after, Denotes after (span ++ [d]) lexeme

/-- An integer has no more digits than it may be written with. -/
def Short (span : List Char) (lexeme : Lexeme) : Prop :=
  ∀ n, lexeme = .number (.int n) → span.length ≤ digitLimit

section Leads

variable {after span : List Char} {lexeme : Lexeme}

/-- The longest stretch does not go on with the next character. -/
theorem Leads.ended (leads : Leads after span lexeme) :
    ∀ d, after.head? = some d → ¬ Extends span d := by
  rintro d first ⟨other, denotes⟩
  obtain ⟨rest, rfl⟩ := List.head?_eq_some_iff.mp first
  have short := leads.longest (span ++ [d]) rest other (by simp) (denotes rest)
  rw [List.length_append, List.length_singleton] at short
  omega

theorem extends_digit (areDigits : AreDigits span) {d : Char} (digit : isDigit d = true) :
    Extends span d :=
  ⟨_, fun _ => .integer ⟨by simp, List.forall_mem_append.mpr
    ⟨areDigits.2, List.forall_mem_singleton.mpr digit⟩⟩⟩

theorem extends_point (areDigits : AreDigits span) : Extends span '.' :=
  ⟨_, fun _ => .real areDigits (List.forall_mem_nil _)
    (real?_of_digits areDigits (List.forall_mem_nil _))⟩

theorem extends_fraction {whole fraction : List Char} (areDigits : AreDigits whole)
    (areDigits' : ∀ c ∈ fraction, isDigit c = true) {d : Char} (digit : isDigit d = true) :
    Extends (whole ++ '.' :: fraction) d := by
  have more : ∀ c ∈ fraction ++ [d], isDigit c = true :=
    List.forall_mem_append.mpr ⟨areDigits', List.forall_mem_singleton.mpr digit⟩
  have same : whole ++ '.' :: fraction ++ [d] = whole ++ '.' :: (fraction ++ [d]) := by simp
  rw [Extends, same]
  exact ⟨_, fun _ => .real areDigits more (real?_of_digits areDigits more)⟩

theorem extends_word {first : Char} {rest : List Char} (letter : isLetter first = true)
    (are : ∀ c ∈ rest, isWordCharacter c = true) {d : Char}
    (goesOn : isWordCharacter d = true ∨ d = '$') : Extends (first :: rest) d := by
  rcases goesOn with inWord | rfl
  · exact ⟨_, fun _ => denotes_word ⟨first, rest ++ [d], [], by simp, letter,
      List.forall_mem_append.mpr ⟨are, List.forall_mem_singleton.mpr inWord⟩, .inl rfl⟩⟩
  · exact ⟨_, fun _ => denotes_word ⟨first, rest, ['$'], rfl, letter, are, .inr rfl⟩⟩

/-- An integer of too many digits is not read. -/
theorem number_overlong {digits : List Char} (areDigits : AreDigits digits)
    (long : digitLimit < digits.length)
    (ended : ∀ c, after.head? = some c → isDigit c = false ∧ c ≠ '.') :
    number (digits ++ after) = (.error (.tooManyDigits digits.length), after) := by
  obtain ⟨taken, left⟩ := takeWhile_ended areDigits.2 fun c first => (ended c first).1
  unfold number
  rw [taken, left]
  split
  · exact absurd rfl (ended '.' rfl).2
  · simp only
    rw [if_pos long]

/-- A typed word is read up to its end. -/
theorem word_typed (isWord : IsTypedWord span)
    (ended : ∀ d, after.head? = some d → ¬ Extends span d) :
    word (span ++ after) = (wordLexeme span, after) := by
  obtain ⟨first, rest, closing, rfl, letter, are, closed⟩ := isWord
  have kept : ∀ c ∈ first :: rest, isWordCharacter c = true :=
    List.forall_mem_cons.mpr ⟨by rw [isWordCharacter, letter]; rfl, are⟩
  unfold word
  rcases closed with rfl | rfl
  · rw [List.append_nil] at ended ⊢
    have apart : ∀ c, after.head? = some c → isWordCharacter c = false ∧ c ≠ '$' := by
      intro c next
      have stops := fun goesOn => ended c next (extends_word letter are goesOn)
      exact ⟨by simpa using fun inWord => stops (.inl inWord), fun same => stops (.inr same)⟩
    obtain ⟨taken, left⟩ := takeWhile_ended kept fun c next => (apart c next).1
    rw [taken, left]
    split
    · exact absurd rfl (apart '$' rfl).2
    · rfl
  · have closing : isWordCharacter '$' = false := by decide
    have shape : first :: (rest ++ ['$']) ++ after = (first :: rest) ++ '$' :: after := by simp
    rw [shape, List.takeWhile_append_of_pos kept, List.dropWhile_append_of_pos kept]
    simp [closing]

/-- A lexeme that starts with a letter is a word. -/
theorem lexemeAt_typed {c : Char} {rest : List Char} (isWord : IsTypedWord span)
    (ended : ∀ d, after.head? = some d → ¬ Extends span d) (shape : c :: rest = span ++ after)
    (column : Nat) : lexemeAt column c rest = (.ok (wordLexeme span), after) := by
  have letter := isWord.head shape
  have notDigit : ¬ isDigit c = true := by simp [isDigit_of_letter letter]
  rw [lexemeAt, if_neg notDigit, if_neg (quote_of_letter letter), if_pos letter, shape,
    word_typed isWord ended]

/-- **A stretch that does not go on with the next character** is what is read, unless it is an
integer of too many digits. -/
theorem lexemeAt_ended (denotes : Denotes after span lexeme)
    (ended : ∀ d, after.head? = some d → ¬ Extends span d) {c : Char} {rest : List Char}
    (shape : c :: rest = span ++ after) (column : Nat) :
    Short span lexeme ∧ lexemeAt column c rest = (.ok lexeme, after) ∨
      (∃ n, lexeme = .number (.int n)) ∧ digitLimit < span.length ∧
        lexemeAt column c rest = (.error (.tooManyDigits span.length), after) := by
  cases denotes with
  | integer areDigits =>
    have apart : ∀ c, after.head? = some c → isDigit c = false ∧ c ≠ '.' := by
      intro c next
      refine ⟨by simpa using fun digit => ended c next (extends_digit areDigits digit), ?_⟩
      rintro rfl
      exact ended '.' next (extends_point areDigits)
    rw [lexemeAt, if_pos (areDigits.head shape), shape]
    rcases Nat.lt_or_ge digitLimit span.length with long | short
    · exact .inr ⟨⟨_, rfl⟩, long, number_overlong areDigits long apart⟩
    · refine .inl ⟨fun _ _ => short, number_integer areDigits short fun c next => ?_⟩
      simpa [Lexeme.goesOn] using apart c next
  | real areDigits areDigits' value =>
    refine .inl ⟨by rintro _ ⟨⟩, ?_⟩
    rw [real?_of_digits areDigits areDigits'] at value
    cases value
    rw [lexemeAt, if_pos (areDigits.head (shape.trans (List.append_assoc ..))), shape]
    refine number_real areDigits areDigits' fun d next => ?_
    simpa using fun digit => ended d next (extends_fraction areDigits areDigits' digit)
  | quoted plain =>
    refine .inl ⟨by rintro _ ⟨⟩, ?_⟩
    cases shape
    have notDigit : ¬ isDigit '"' = true := by decide
    rw [List.append_eq, lexemeAt, if_neg notDigit, if_pos rfl, string_quoted plain]
  | unclosed plain last =>
    refine .inl ⟨by rintro _ ⟨⟩, ?_⟩
    subst last
    rw [List.append_nil] at shape
    cases shape
    have notDigit : ¬ isDigit '"' = true := by decide
    rw [lexemeAt, if_neg notDigit, if_pos rfl, string_unclosed plain]
  | keyword isWord known =>
    have held : keywords.contains (capitals span) = true := List.contains_iff_mem.mpr known
    refine .inl ⟨by rintro _ ⟨⟩, ?_⟩
    rw [lexemeAt_typed isWord ended shape, wordLexeme, ← capitals, if_pos held]
  | identifier isWord unknown =>
    have missed : ¬ keywords.contains (capitals span) = true := by simpa using unknown
    refine .inl ⟨by rintro _ ⟨⟩, ?_⟩
    rw [lexemeAt_typed isWord ended shape, wordLexeme, ← capitals, if_neg missed]
  | pair member =>
    cases shape
    exact .inl ⟨by rintro _ ⟨⟩,
      lexemeAt_symbol (starts_of_pair member) (symbol_pair member) column⟩
  | single member =>
    cases shape
    refine .inl ⟨by rintro _ ⟨⟩, lexemeAt_symbol (List.mem_append_left marks member) ?_ column⟩
    refine symbol_single member fun d next => ?_
    have notPair : (c, d) ∉ pairs := fun isPair => ended d next ⟨_, fun _ => .pair isPair⟩
    rw [Lexeme.goesOn, String.toList_ofList]
    refine List.any_eq_false.mpr fun pair isPair held => notPair ?_
    simp only [Bool.and_eq_true, beq_iff_eq, List.cons.injEq, and_true] at held
    rw [held.1, ← held.2]
    exact isPair
  | mark member =>
    cases shape
    exact .inl ⟨by rintro _ ⟨⟩,
      lexemeAt_symbol (List.mem_append_right singles member) (symbol_mark member) column⟩

/-- What is left behind the front of a text tells its longest stretch. -/
theorem leads_of_left (denotes : Denotes after span lexeme) {c : Char} {rest : List Char}
    (shape : c :: rest = span ++ after) (column : Nat)
    (left : (lexemeAt column c rest).2 = after) : Leads after span lexeme where
  denotes := denotes
  longest longer after' other same denotes' := by
    have least := lexemeAt_longest denotes' (shape.trans same) column
    have total := congrArg List.length same
    rw [left] at least
    simp only [List.length_append] at total
    omega

theorem leads_of_ended (denotes : Denotes after span lexeme)
    (ended : ∀ d, after.head? = some d → ¬ Extends span d) : Leads after span lexeme := by
  obtain ⟨c, tail, rfl⟩ := List.exists_cons_of_ne_nil denotes.ne_nil
  refine leads_of_left denotes rfl 0 ?_
  rcases lexemeAt_ended denotes ended rfl 0 with ⟨_, reads⟩ | ⟨_, _, unread⟩
  · rw [reads]
  · rw [unread]

/-- A stretch with something behind it denotes the same whatever stands behind it. -/
theorem Denotes.anywhere (denotes : Denotes after span lexeme) (more : after ≠ [])
    (after' : List Char) : Denotes after' span lexeme := by
  cases denotes with
  | integer areDigits => exact .integer areDigits
  | real areDigits areDigits' value => exact .real areDigits areDigits' value
  | quoted plain => exact .quoted plain
  | unclosed plain last => exact absurd last more
  | keyword isWord known => exact .keyword isWord known
  | identifier isWord unknown => exact .identifier isWord unknown
  | pair member => exact .pair member
  | single member => exact .single member
  | mark member => exact .mark member

/-- Of what stands behind a stretch, nothing but the next character matters. -/
theorem Leads.beside (leads : Leads after span lexeme) (more : after ≠ []) {after' : List Char}
    (next : ∀ d, after'.head? = some d → after.head? = some d) : Leads after' span lexeme :=
  leads_of_ended (leads.denotes.anywhere more after') fun d first => leads.ended d (next d first)

end Leads

/-! ### Characters that start no lexeme -/

/-- A character is neither a blank nor the first of a lexeme. -/
structure Stray (c : Char) : Prop where
  notBlank : isBlank c = false
  notDigit : isDigit c = false
  notLetter : isLetter c = false
  notQuote : c ≠ '"'
  notOperator : c ∉ singles
  notMark : c ∉ marks

theorem stray_point : Stray '.' := by
  constructor <;> decide

theorem stray_dollar : Stray '$' := by
  constructor <;> decide

/-- No character outside ASCII starts a lexeme. -/
theorem stray_of_wide {c : Char} (wide : 128 ≤ c.toNat) (notBlank : isBlank c = false) :
    Stray c := by
  have strange : ∀ d : Char, d.toNat < 128 → c ≠ d := by
    rintro d below rfl
    omega
  have digit : isDigit c = false := by
    by_contra digit
    have := below_of_isDigit (by simpa using digit)
    omega
  have letter : isLetter c = false := by
    by_contra letter
    have := below_of_isLetter (by simpa using letter)
    omega
  refine ⟨notBlank, digit, letter, strange '"' (by decide), ?_, ?_⟩
  · simp [singles, strange]
  · simp [marks, strange]

section Characters

variable {after span rest : List Char} {lexeme : Lexeme} {c : Char} {column : Nat}

/-- A stray character is not read. -/
theorem Stray.unread (stray : Stray c) (column : Nat) (rest : List Char) :
    lexemeAt column c rest = (.error (.unknownCharacter c column), rest) := by
  have unknown : symbol c rest = none := by
    have notPair : ∀ d, (c, d) ∉ pairs := by
      intro d member
      rcases List.mem_append.mp (starts_of_pair member) with isSingle | isMark
      · exact stray.notOperator isSingle
      · exact stray.notMark isMark
    cases rest <;> simp [symbol, notPair, stray.notOperator, stray.notMark]
  rw [lexemeAt, stray.notDigit, if_neg (by decide), if_neg stray.notQuote, stray.notLetter,
    if_neg (by decide), unknown]

/-- Digits, letters and the characters of operators and marks are no blanks and no stray
characters. -/
theorem inked_of_plain (plain : isWordCharacter c = true ∨ c ∈ singles ++ marks) :
    isBlank c = false ∧ ¬ Stray c := by
  rcases plain with inWord | starts
  · refine ⟨not_isBlank_of_isWordCharacter inWord, fun stray => ?_⟩
    rw [isWordCharacter, stray.notDigit, stray.notLetter] at inWord
    cases inWord
  · refine ⟨(symbol_start c starts).1, fun stray => ?_⟩
    rcases List.mem_append.mp starts with isSingle | isMark
    · exact stray.notOperator isSingle
    · exact stray.notMark isMark

theorem inked_of_digit (digit : isDigit c = true) : isBlank c = false ∧ ¬ Stray c :=
  inked_of_plain (.inl (by rw [isWordCharacter, digit, Bool.or_true]))

/-- How a character stands in a stretch: in a text, as the point of a number, as the dollar sign at
the end of a word, or as a character that may start a lexeme. -/
inductive Stands (span : List Char) (lexeme : Lexeme) (offset : Nat) (c : Char) : Prop
  | quoted {text : String} (isText : lexeme = .string text)
  | point {x : Float} (isPoint : c = '.') (isNumber : lexeme = .number (.real x))
  | dollar (isDollar : c = '$') (isWord : IsTypedWord span) (closes : offset + 1 = span.length)
  | plain (inked : isBlank c = false ∧ ¬ Stray c)

theorem IsTypedWord.stands (isWord : IsTypedWord span) {offset : Nat}
    (found : span[offset]? = some c) : Stands span lexeme offset c := by
  obtain ⟨first, body, closing, shape, letter, are, closed⟩ := id isWord
  have kept : ∀ d ∈ first :: body, isWordCharacter d = true :=
    List.forall_mem_cons.mpr ⟨by rw [isWordCharacter, letter]; rfl, are⟩
  rw [shape, ← List.cons_append] at found
  rcases Nat.lt_or_ge offset (first :: body).length with inside | behind
  · rw [List.getElem?_append_left inside] at found
    exact .plain (inked_of_plain (.inl (kept c (List.mem_of_getElem? found))))
  · rw [List.getElem?_append_right behind] at found
    rcases closed with rfl | rfl
    · cases found
    · obtain ⟨last, rfl⟩ := List.getElem?_eq_some_iff.mp found
      simp only [List.length_singleton] at last
      refine .dollar (by simp) isWord ?_
      rw [shape, ← List.cons_append, List.length_append, List.length_singleton]
      omega

/-- **Every character of a stretch** that starts no lexeme stands in a text, in a number or at the
end of a word. -/
theorem Denotes.stands (denotes : Denotes after span lexeme) {offset : Nat}
    (found : span[offset]? = some c) : Stands span lexeme offset c := by
  have member := List.mem_of_getElem? found
  cases denotes with
  | integer areDigits => exact .plain (inked_of_digit (areDigits.2 c member))
  | real areDigits areDigits' value =>
    rcases List.mem_append.mp member with inWhole | behind
    · exact .plain (inked_of_digit (areDigits.2 c inWhole))
    · rcases List.mem_cons.mp behind with isPoint | inFraction
      · exact .point isPoint rfl
      · exact .plain (inked_of_digit (areDigits' c inFraction))
  | quoted plain => exact .quoted rfl
  | unclosed plain last => exact .quoted rfl
  | keyword isWord known => exact isWord.stands found
  | identifier isWord unknown => exact isWord.stands found
  | @pair first second isPair =>
    have isSymbol : c ∈ singles ++ marks := by
      simp only [pairs, List.mem_cons, Prod.mk.injEq, List.not_mem_nil, or_false] at isPair member
      rcases isPair with ⟨rfl, rfl⟩ | ⟨rfl, rfl⟩ | ⟨rfl, rfl⟩ <;> rcases member with rfl | rfl <;>
        decide
    exact .plain (inked_of_plain (.inr isSymbol))
  | single isSingle =>
    rw [List.mem_singleton.mp member]
    exact .plain (inked_of_plain (.inr (List.mem_append_left marks isSingle)))
  | mark isMark =>
    rw [List.mem_singleton.mp member]
    exact .plain (inked_of_plain (.inr (List.mem_append_right singles isMark)))

/-- A lexeme starts neither with a blank nor with a stray character. -/
theorem Denotes.start (denotes : Denotes after span lexeme) (shape : span = c :: rest) :
    isBlank c = false ∧ ¬ Stray c := by
  have first : span[0]? = some c := by
    rw [shape]
    rfl
  cases denotes.stands first with
  | quoted isText =>
    subst isText
    cases denotes <;> cases shape <;> exact ⟨rfl, fun stray => stray.notQuote rfl⟩
  | point isPoint isNumber =>
    subst isNumber
    cases denotes with
    | real areDigits areDigits' value => exact inked_of_digit (areDigits.head shape.symm)
  | dollar isDollar isWord closes =>
    have letter := isWord.head (shape.symm.trans (List.append_nil span).symm)
    exact inked_of_plain (.inl (by rw [isWordCharacter, letter]; rfl))
  | plain inked => exact inked

/-- A stretch with something behind it does not end with a blank. -/
theorem Denotes.finish (denotes : Denotes after span lexeme) (more : after ≠ [])
    (last : span.getLast? = some c) : isBlank c = false := by
  rw [List.getLast?_eq_getElem?] at last
  cases denotes.stands last with
  | quoted isText =>
    subst isText
    cases denotes with
    | quoted plain =>
      rw [← List.getLast?_eq_getElem?, ← List.cons_append, List.getLast?_concat] at last
      cases last
      rfl
    | unclosed plain ended => exact absurd ended more
  | point isPoint isNumber =>
    rw [isPoint]
    rfl
  | dollar isDollar isWord closes =>
    rw [isDollar]
    rfl
  | plain inked => exact inked.1

end Characters

/-! ### What is read before reading halts -/

/-- **Blanks and longest lexemes, one behind the other,** in front of the rest of a text. The word
`REM` is none of them, as what stands behind it is not read, nor is an integer of too many
digits. -/
inductive Passed (after : List Char) : List Char → Prop
  | nil : Passed after []
  | blank {c : Char} {front : List Char} (isBlank : isBlank c = true)
      (behind : Passed after front) : Passed after (c :: front)
  | lexeme {span front : List Char} {lexeme : Lexeme} (leads : Leads (front ++ after) span lexeme)
      (plain : lexeme ≠ .keyword "REM")
      (short : Short span lexeme) (behind : Passed after front) : Passed after (span ++ front)

/-- Reading a text comes to a lexeme at a place. -/
def Comes (text : List Char) (place : Nat) (span : List Char) (lexeme : Lexeme) : Prop :=
  ∃ front after, text = front ++ (span ++ after) ∧ front.length = place ∧
    Passed (span ++ after) front ∧ Leads after span lexeme

/-- **Reading a text comes to a stray character:** it stands at the first place where a lexeme
would have to start and none does. -/
def Strays (text : List Char) (c : Char) (k : Nat) : Prop :=
  ∃ front rest, text = front ++ c :: rest ∧ front.length = k ∧ Passed (c :: rest) front ∧ Stray c

/-- Reading a text comes to an integer of too many digits. -/
def Overlong (text : List Char) : Prop :=
  ∃ place span n, Comes text place span (.number (.int n)) ∧ digitLimit < span.length

/-- **What keeps a stray character of a text from being read as one:** a text around it, the word
`REM` before it, the number whose point it is, or the word that it closes. -/
inductive Sheltered (text : List Char) (c : Char) (k : Nat) : Prop
  | quoted {place : Nat} {span : List Char} {string : String}
      (comes : Comes text place span (.string string))
      (inside : place ≤ k ∧ k < place + span.length)
  | remark {place : Nat} {span : List Char} (comes : Comes text place span (.keyword "REM"))
      (behind : place + span.length ≤ k)
  | point {place : Nat} {span : List Char} {x : Float}
      (comes : Comes text place span (.number (.real x)))
      (inside : place ≤ k ∧ k < place + span.length) (isPoint : c = '.')
  | dollar {place : Nat} {span : List Char} {lexeme : Lexeme} (comes : Comes text place span lexeme)
      (isWord : IsTypedWord span) (closes : k + 1 = place + span.length) (isDollar : c = '$')

section Passed

variable {text front mid after span : List Char} {lexeme : Lexeme} {c : Char} {place k : Nat}

theorem Passed.trans (passed : Passed (mid ++ after) front) (others : Passed after mid) :
    Passed after (front ++ mid) := by
  induction passed with
  | nil => exact others
  | blank isBlank behind hypothesis => exact .blank isBlank hypothesis
  | lexeme leads plain short behind hypothesis =>
    rw [← List.append_assoc] at leads
    rw [List.append_assoc]
    exact .lexeme leads plain short hypothesis

/-- A lexeme by itself. -/
theorem Leads.passed (leads : Leads after span lexeme) (plain : lexeme ≠ .keyword "REM")
    (short : Short span lexeme) : Passed after span := by
  rw [← List.append_nil span]
  exact .lexeme leads plain short .nil

/-- Of what stands behind, nothing but the next character matters. -/
theorem Passed.beside (passed : Passed after front) (more : after ≠ []) {after' : List Char}
    (next : ∀ d, after'.head? = some d → after.head? = some d) : Passed after' front := by
  induction passed with
  | nil => exact .nil
  | blank isBlank behind hypothesis => exact .blank isBlank hypothesis
  | @lexeme span front lexeme leads plain short behind hypothesis =>
    refine .lexeme (leads.beside ?_ fun d first => ?_) plain short hypothesis
    · exact fun nothing => more (List.append_eq_nil_iff.mp nothing).2
    · cases front with
      | nil => exact next d first
      | cons e others => exact first

/-- A blank at the end is not read as part of a lexeme. -/
theorem Passed.shorten (passed : Passed after (front ++ [c])) (blank : isBlank c = true)
    (more : after ≠ []) : Passed (c :: after) front := by
  generalize whole : front ++ [c] = text at passed
  induction passed generalizing front with
  | nil => simp at whole
  | blank isBlank behind hypothesis =>
    cases front with
    | nil => exact .nil
    | cons d others =>
      rw [List.cons_append] at whole
      cases whole
      exact .blank isBlank (hypothesis rfl)
  | @lexeme span mid lexeme leads plain short behind hypothesis =>
    rcases List.eq_nil_or_concat mid with rfl | ⟨others, d, rfl⟩
    · rw [List.append_nil] at whole
      have inked := leads.denotes.finish more (c := c) (by rw [← whole, List.getLast?_concat])
      rw [blank] at inked
      cases inked
    · rw [List.concat_eq_append] at *
      rw [← List.append_assoc] at whole
      obtain ⟨rfl, same⟩ := List.append_inj' whole rfl
      cases same
      rw [List.append_assoc] at leads
      exact .lexeme leads plain short (hypothesis rfl)

/-- Blanks at the end are not read. -/
theorem Passed.trimEnd (passed : Passed after front) (more : after ≠ []) :
    Passed [] (trimEnd front) := by
  induction front using List.reverseRecOn generalizing after with
  | nil => exact .nil
  | append_singleton others c hypothesis =>
    by_cases blank : isBlank c = true
    · have same : Text.trimEnd (others ++ [c]) = Text.trimEnd others := by
        simp [Text.trimEnd, blank]
      rw [same]
      exact hypothesis (passed.shorten blank more) (List.cons_ne_nil _ _)
    · have same : Text.trimEnd (others ++ [c]) = others ++ [c] := by
        simp [Text.trimEnd, blank]
      rw [same]
      exact passed.beside more (by rintro _ ⟨⟩)

/-- The lexeme at the front of a text is what is read. -/
theorem Leads.reads (leads : Leads after span lexeme) (short : Short span lexeme)
    {rest : List Char} (shape : c :: rest = span ++ after) (column : Nat) :
    lexemeAt column c rest = (.ok lexeme, after) := by
  rcases lexemeAt_ended leads.denotes leads.ended shape column with
    ⟨_, reads⟩ | ⟨⟨n, isInt⟩, long, _⟩
  · exact reads
  · exact absurd (short n isInt) (Nat.not_le_of_lt long)

/-- **What is passed only goes in front** of what is read behind it. -/
theorem Passed.scan (passed : Passed after front) (column : Nat) :
    ∃ before, Lexer.scan column (front ++ after) =
      (Lexer.scan (column + front.length) after).map (before ++ ·) := by
  induction passed generalizing column with
  | nil =>
    refine ⟨[], ?_⟩
    rw [List.nil_append, List.length_nil, Nat.add_zero]
    cases Lexer.scan column after <;> rfl
  | @blank c front isBlank behind hypothesis =>
    obtain ⟨before, same⟩ := hypothesis (column + 1)
    refine ⟨before, ?_⟩
    rw [List.cons_append, scan_blank isBlank, same, List.length_cons]
    congr 2
    omega
  | @lexeme span front lexeme leads plain short behind hypothesis =>
    obtain ⟨c, tail, rfl⟩ := List.exists_cons_of_ne_nil leads.denotes.ne_nil
    obtain ⟨before, same⟩ := hypothesis (column + (c :: tail).length)
    have reads := leads.reads short (List.cons_append ..).symm column
    have next : column + ((tail ++ (front ++ after)).length + 1 - (front ++ after).length) =
        column + (c :: tail).length := by
      rw [List.length_append, List.length_cons]
      omega
    refine ⟨⟨lexeme, column⟩ :: before, ?_⟩
    rw [List.append_assoc, List.cons_append,
      scan_lexeme (leads.denotes.start rfl).1 plain reads, next, same, List.length_append,
      Nat.add_assoc]
    cases Lexer.scan (column + ((c :: tail).length + front.length)) after <;> rfl

theorem Comes.behind (comes : Comes text place span lexeme) (passed : Passed text front) :
    Comes (front ++ text) (front.length + place) span lexeme := by
  obtain ⟨others, after, rfl, rfl, before, leads⟩ := comes
  exact ⟨front ++ others, after, (List.append_assoc ..).symm, List.length_append,
    passed.trans before, leads⟩

theorem Sheltered.behind (sheltered : Sheltered text c k) (passed : Passed text front) :
    Sheltered (front ++ text) c (front.length + k) := by
  cases sheltered with
  | quoted comes inside => exact .quoted (comes.behind passed) (by omega)
  | remark comes behind => exact .remark (comes.behind passed) (by omega)
  | point comes inside isPoint => exact .point (comes.behind passed) (by omega) isPoint
  | dollar comes isWord closes isDollar =>
    exact .dollar (comes.behind passed) isWord (by omega) isDollar

/-- A stray character of a lexeme is sheltered by it. -/
theorem Comes.sheltered (comes : Comes text place span lexeme) {offset : Nat}
    (found : span[offset]? = some c) (stray : Stray c) : Sheltered text c (place + offset) := by
  obtain ⟨inside, _⟩ := List.getElem?_eq_some_iff.mp found
  obtain ⟨_, _, _, _, _, leads⟩ := id comes
  cases leads.denotes.stands found with
  | quoted isText => exact .quoted (isText ▸ comes) (by omega)
  | point isPoint isNumber => exact .point (isNumber ▸ comes) (by omega) isPoint
  | dollar isDollar isWord closes => exact .dollar comes isWord (by omega) isDollar
  | plain inked => exact absurd stray inked.2

theorem Leads.comes (leads : Leads after span lexeme) : Comes (span ++ after) 0 span lexeme :=
  ⟨[], after, rfl, rfl, .nil, leads⟩

/-- **The stray characters of what is passed are sheltered.** -/
theorem Passed.sheltered (passed : Passed after front) (found : front[k]? = some c)
    (stray : Stray c) : Sheltered (front ++ after) c k := by
  induction passed generalizing k with
  | nil => cases found
  | @blank d front isBlank behind hypothesis =>
    cases k with
    | zero =>
      cases found
      rw [stray.notBlank] at isBlank
      cases isBlank
    | succ k =>
      have sheltered := (hypothesis found).behind (.blank isBlank .nil)
      rwa [List.length_singleton, Nat.add_comm] at sheltered
  | @lexeme span front lexeme leads plain short behind hypothesis =>
    rw [List.append_assoc]
    rcases Nat.lt_or_ge k span.length with inside | outside
    · rw [List.getElem?_append_left inside] at found
      have sheltered := leads.comes.sheltered found stray
      rwa [Nat.zero_add] at sheltered
    · rw [List.getElem?_append_right outside] at found
      have sheltered := (hypothesis found).behind (leads.passed plain short)
      rwa [Nat.add_sub_cancel' outside] at sheltered

end Passed

/-! ### Where reading halts -/

/-- **What no lexeme is read from:** the end, a stray character, the word `REM` with what stands
behind it, and an integer of too many digits. -/
inductive Halts : List Char → Prop
  | ending : Halts []
  | stray {c : Char} {rest : List Char} (stray : Stray c) : Halts (c :: rest)
  | remark {span after : List Char} (leads : Leads after span (.keyword "REM")) :
      Halts (span ++ after)
  | overlong {span after : List Char} {n : Int} (leads : Leads after span (.number (.int n)))
      (long : digitLimit < span.length) : Halts (span ++ after)

section Halts

variable {text after : List Char} {c : Char} {rest : List Char} {column : Nat}

theorem overlong_of_unread {error : ScanError} (digit : isDigit c = true)
    (unread : number (c :: rest) = (.error error, after)) : Halts (c :: rest) := by
  have reads : lexemeAt 0 c rest = (.error error, after) := by rw [lexemeAt, if_pos digit, unread]
  have areDigits : AreDigits ((c :: rest).takeWhile isDigit) :=
    ⟨by simp [digit], fun d member => List.all_eq_true.mp List.all_takeWhile d member⟩
  have parts : (c :: rest).takeWhile isDigit ++ (c :: rest).dropWhile isDigit = c :: rest :=
    List.takeWhile_append_dropWhile
  unfold number at unread
  split at unread
  · cases unread
  · simp only at unread
    split at unread
    · next long =>
      cases unread
      rw [← parts]
      have leads := leads_of_left (.integer areDigits) parts.symm 0 (congrArg Prod.snd reads)
      exact .overlong leads long
    · cases unread

/-- Reading halts where no lexeme can be read. -/
theorem halts_of_unread {error : ScanError} (inked : isBlank c = false)
    (unread : lexemeAt column c rest = (.error error, after)) : Halts (c :: rest) := by
  unfold lexemeAt at unread
  split at unread
  · next digit => exact overlong_of_unread digit unread
  · next notDigit =>
    split at unread
    · cases unread
    · next notQuote =>
      split at unread
      · cases unread
      · next notLetter =>
        have unknown : symbol c rest = none := by
          split at unread
          · cases unread
          · assumption
        refine .stray ⟨inked, by simpa using notDigit, by simpa using notLetter, notQuote, ?_, ?_⟩
        · intro isSingle
          unfold symbol at unknown
          split at unknown <;> simp [isSingle] at unknown
          split at unknown <;> cases unknown
        · intro isMark
          rw [symbol_mark isMark] at unknown
          cases unknown

/-- What is read off the front of a text is its longest stretch. -/
theorem leads_of_lexemeAt {lexeme : Lexeme} (reads : lexemeAt column c rest = (.ok lexeme, after)) :
    ∃ span, c :: rest = span ++ after ∧ Leads after span lexeme ∧ Short span lexeme := by
  obtain ⟨span, shape, _, denotes, longest⟩ := front_of_lexemeAt reads
  exact ⟨span, shape, ⟨denotes, longest⟩, length_of_lexemeAt reads shape⟩

theorem halt_behind {lexeme : Lexeme} (reads : lexemeAt column c rest = (.ok lexeme, after))
    (plain : lexeme ≠ .keyword "REM")
    (behind : ∃ front after', after = front ++ after' ∧ Passed after' front ∧ Halts after') :
    ∃ front after', c :: rest = front ++ after' ∧ Passed after' front ∧ Halts after' := by
  obtain ⟨front, after', same, passed, halts⟩ := behind
  obtain ⟨span, shape, leads, short⟩ := leads_of_lexemeAt reads
  rw [shape, same, ← List.append_assoc]
  exact ⟨span ++ front, after', rfl, .lexeme (same ▸ leads) plain short passed, halts⟩

/-- **Reading comes to a halt** behind what it has passed. -/
theorem passed_to_halt (column : Nat) (text : List Char) :
    ∃ front after, text = front ++ after ∧ Passed after front ∧ Halts after := by
  fun_induction scan column text
  case case1 => exact ⟨[], [], rfl, .nil, .ending⟩
  case case2 c rest blank hypothesis =>
    obtain ⟨front, after, rfl, passed, halts⟩ := hypothesis
    exact ⟨c :: front, after, rfl, .blank blank passed, halts⟩
  case case3 notBlank error after unread =>
    exact ⟨[], _, rfl, .nil, halts_of_unread (by simpa using notBlank) unread⟩
  case case4 after next reads shorter =>
    obtain ⟨span, shape, leads, _⟩ := leads_of_lexemeAt reads
    exact ⟨[], _, rfl, .nil, shape ▸ .remark leads⟩
  case case5 reads shorter next opens tokens found hypothesis =>
    exact halt_behind reads opens hypothesis
  case case6 reads shorter next opens error found hypothesis =>
    exact halt_behind reads opens hypothesis

/-- **Reading a text either comes to its end or to the word `REM`, or it fails** at a stray
character or at an integer of too many digits. -/
theorem Halts.scan (halts : Halts text) (column : Nat) :
    (∃ read, Lexer.scan column text = .ok read) ∨
      (∃ c rest, text = c :: rest ∧ Stray c ∧
        Lexer.scan column text = .error (.unknownCharacter c column)) ∨
      (∃ span after n, text = span ++ after ∧ Leads after span (.number (.int n)) ∧
        digitLimit < span.length ∧
        Lexer.scan column text = .error (.tooManyDigits span.length)) := by
  cases halts with
  | ending => exact .inl ⟨_, by rw [Lexer.scan]⟩
  | stray stray =>
    exact .inr (.inl ⟨_, _, rfl, stray, scan_unread stray.notBlank (stray.unread column _)⟩)
  | @remark span after leads =>
    obtain ⟨c, tail, rfl⟩ := List.exists_cons_of_ne_nil leads.denotes.ne_nil
    have reads := leads.reads (by rintro _ ⟨⟩) (List.cons_append ..).symm column
    exact .inl ⟨_, scan_remark (leads.denotes.start rfl).1 reads⟩
  | @overlong span after n leads long =>
    obtain ⟨c, tail, rfl⟩ := List.exists_cons_of_ne_nil leads.denotes.ne_nil
    rcases lexemeAt_ended leads.denotes leads.ended (List.cons_append ..).symm column with
      ⟨short, _⟩ | ⟨_, _, unread⟩
    · exact absurd (short n rfl) (Nat.not_le_of_lt long)
    · exact .inr (.inr ⟨_, _, n, rfl, leads, long, scan_unread (leads.denotes.start rfl).1 unread⟩)

/-- What is read, or why nothing is, is settled where reading halts. -/
theorem Passed.fails {front : List Char} (passed : Passed after front) {error : ScanError}
    (fails : Lexer.scan front.length after = .error error) :
    Lexer.scan 0 (front ++ after) = .error error := by
  obtain ⟨before, same⟩ := passed.scan 0
  rw [same, Nat.zero_add, fails]
  rfl

theorem Passed.succeeds {front : List Char} (passed : Passed after front) {read : List Token}
    (succeeds : Lexer.scan front.length after = .ok read) :
    ∃ read', Lexer.scan 0 (front ++ after) = .ok read' := by
  obtain ⟨before, same⟩ := passed.scan 0
  rw [same, Nat.zero_add, succeeds]
  exact ⟨_, rfl⟩

theorem Strays.fails {k : Nat} (strays : Strays text c k) :
    Lexer.scan 0 text = .error (.unknownCharacter c k) := by
  obtain ⟨front, rest, rfl, rfl, passed, stray⟩ := strays
  exact passed.fails (scan_unread stray.notBlank (stray.unread _ rest))

/-- **How reading a text ends.** -/
theorem scan_cases (text : List Char) :
    (∃ read, Lexer.scan 0 text = .ok read) ∨ (∃ c k, Strays text c k) ∨
      (∃ count, Lexer.scan 0 text = .error (.tooManyDigits count)) ∧ Overlong text := by
  obtain ⟨front, after, rfl, passed, halts⟩ := passed_to_halt 0 text
  rcases halts.scan front.length with
    ⟨read, succeeds⟩ | ⟨c, rest, rfl, stray, _⟩ | ⟨span, behind, n, rfl, leads, long, fails⟩
  · exact .inl (passed.succeeds succeeds)
  · exact .inr (.inl ⟨c, front.length, front, rest, rfl, rfl, passed, stray⟩)
  · exact .inr (.inr ⟨⟨_, passed.fails fails⟩,
      _, span, n, ⟨front, behind, rfl, rfl, passed, leads⟩, long⟩)

theorem strays_iff {k : Nat} :
    Lexer.scan 0 text = .error (.unknownCharacter c k) ↔ Strays text c k := by
  refine ⟨fun fails => ?_, Strays.fails⟩
  rcases scan_cases text with ⟨read, succeeds⟩ | ⟨d, j, strays⟩ | ⟨⟨count, overlong⟩, _⟩
  · rw [succeeds] at fails
    cases fails
  · rw [strays.fails] at fails
    cases fails
    exact strays
  · rw [overlong] at fails
    cases fails

/-- Reading fails at the column of a character or behind it. -/
theorem le_of_unknown {k : Nat} (fails : Lexer.scan column text = .error (.unknownCharacter c k)) :
    column ≤ k := by
  obtain ⟨front, after, rfl, passed, halts⟩ := passed_to_halt column text
  obtain ⟨before, same⟩ := passed.scan column
  rw [same] at fails
  rcases halts.scan (column + front.length) with
    ⟨read, ends⟩ | ⟨_, _, _, _, ends⟩ | ⟨_, _, _, _, _, _, ends⟩
  · rw [ends] at fails
    cases fails
  · rw [ends] at fails
    cases fails
    exact Nat.le_add_right _ _
  · rw [ends] at fails
    cases fails

/-- A word is closed by one dollar sign. -/
example : Strays "A$$=1".toList '$' 2 :=
  strays_iff.mp (by cbv)

/-- **Reading fails behind every lexeme that it comes to,** and it comes to no remark. -/
theorem Strays.behind {k place : Nat} {span : List Char} {lexeme : Lexeme}
    (strays : Strays text c k) (comes : Comes text place span lexeme) :
    lexeme ≠ .keyword "REM" ∧ place + span.length ≤ k := by
  have fails := strays.fails
  obtain ⟨front, after, rfl, rfl, passed, leads⟩ := comes
  obtain ⟨d, tail, rfl⟩ := List.exists_cons_of_ne_nil leads.denotes.ne_nil
  have inked := (leads.denotes.start rfl).1
  rcases lexemeAt_ended leads.denotes leads.ended (List.cons_append ..).symm front.length with
    ⟨short, reads⟩ | ⟨_, _, unread⟩
  · have plain : lexeme ≠ .keyword "REM" := by
      rintro rfl
      obtain ⟨read, succeeds⟩ := passed.succeeds (scan_remark inked reads)
      rw [succeeds] at fails
      cases fails
    obtain ⟨before, same⟩ := (passed.trans (leads.passed plain short)).scan 0
    rw [List.append_assoc] at same
    rw [same, Nat.zero_add, List.length_append] at fails
    refine ⟨plain, ?_⟩
    rcases found : Lexer.scan (front.length + (d :: tail).length) after with error | read
    · rw [found] at fails
      cases fails
      exact le_of_unknown found
    · rw [found] at fails
      cases fails
  · rw [passed.fails (scan_unread inked unread)] at fails
    cases fails

/-- **Every stray character of a text** is sheltered, unless reading fails at it or before. -/
theorem stray_sheltered {k : Nat} (found : text[k]? = some c) (stray : Stray c) :
    Sheltered text c k ∨ (∃ d j, j ≤ k ∧ Strays text d j) ∨ Overlong text := by
  obtain ⟨front, after, rfl, passed, halts⟩ := passed_to_halt 0 text
  rcases Nat.lt_or_ge k front.length with inside | behind
  · rw [List.getElem?_append_left inside] at found
    exact .inl (passed.sheltered found stray)
  · rw [List.getElem?_append_right behind] at found
    cases halts with
    | ending => cases found
    | @stray d rest stray' =>
      exact .inr (.inl ⟨d, _, behind, front, rest, rfl, rfl, passed, stray'⟩)
    | @remark span after leads =>
      have comes : Comes (front ++ (span ++ after)) front.length span (.keyword "REM") :=
        ⟨front, after, rfl, rfl, passed, leads⟩
      rcases Nat.lt_or_ge (k - front.length) span.length with within | beyond
      · rw [List.getElem?_append_left within] at found
        have sheltered := comes.sheltered found stray
        rw [Nat.add_sub_cancel' behind] at sheltered
        exact .inl sheltered
      · exact .inl (.remark comes (by omega))
    | @overlong span after n leads long =>
      exact .inr (.inr ⟨_, span, n, ⟨front, after, rfl, rfl, passed, leads⟩, long⟩)

end Halts

/-! ### The first unknown character of a line -/

section Lines

variable {line : String} {front rest : List Char} {c : Char}

/-- The front of a trimmed text does not start with a blank. -/
theorem trimStart_front {text : List Char} (trimmed : trim text = front ++ rest) :
    trimStart front = front := by
  cases front with
  | nil => rfl
  | cons d others =>
    rw [List.cons_append] at trimmed
    exact List.dropWhile_cons_of_neg (by rw [head_of_trim trimmed]; decide)

/-- Trimming the end of a text reaches no character before one that is no blank. -/
theorem trimEnd_behind (inked : isBlank c = false) (front tail : List Char) :
    ∃ others, trimEnd (front ++ c :: tail) = front ++ c :: others := by
  obtain ⟨others, shape⟩ := trimEnd_cons_of_not_blank inked tail
  refine ⟨others, ?_⟩
  rw [← shape]
  unfold trimEnd
  rw [List.reverse_append, List.dropWhile_append, if_neg, List.reverse_append,
    List.reverse_reverse]
  intro empty
  rw [trimEnd, List.isEmpty_iff.mp empty] at shape
  cases shape

end Lines

/-- **Where the first unknown character of a line is,** and that it alone makes the line fail:
what stands before it is read, what stands behind it does not matter, and it stands in no lexeme
and behind no remark. A line without one is read, unless it has an integer of too many digits, and
then every character of it that no lexeme starts with is sheltered. -/
structure Located (line : String) : Prop where
  found : ∀ c k, tokens line = .error (.unknownCharacter c k) ↔ Strays (trim line.toList) c k
  before : ∀ c k, Strays (trim line.toList) c k →
    ∃ read, tokens (String.ofList ((trim line.toList).take k)) = .ok read
  whatever : ∀ c k, Strays (trim line.toList) c k → ∀ tail,
    tokens (String.ofList ((trim line.toList).take (k + 1) ++ tail)) =
      .error (.unknownCharacter c k)
  outside : ∀ c k, Strays (trim line.toList) c k → ∀ place span lexeme,
    Comes (trim line.toList) place span lexeme →
      lexeme ≠ .keyword "REM" ∧ place + span.length ≤ k
  otherwise : ¬ Overlong (trim line.toList) → (∀ c k, ¬ Strays (trim line.toList) c k) →
    ∃ read, tokens line = .ok read
  sheltered : ¬ Overlong (trim line.toList) → ∀ c k, (trim line.toList)[k]? = some c → Stray c →
    Sheltered (trim line.toList) c k ∨
      ∃ d j, j ≤ k ∧ tokens line = .error (.unknownCharacter d j)

/-- **Unknown characters are found exactly.** A point, a dollar sign and every character outside
ASCII that is no blank are unknown where a lexeme would have to start. -/
theorem located : (∀ line, Located line) ∧ Stray '.' ∧ Stray '$' ∧
    ∀ c : Char, 128 ≤ c.toNat → isBlank c = false → Stray c := by
  refine ⟨fun line => ?_, stray_point, stray_dollar, fun c => stray_of_wide⟩
  constructor
  case found => exact fun c k => strays_iff
  case before =>
    rintro c k ⟨front, rest, shape, rfl, passed, stray⟩
    have same : trim (String.ofList ((trim line.toList).take front.length)).toList =
        trimEnd front := by
      rw [String.toList_ofList, shape, List.take_left, trim, trimStart_front shape]
    obtain ⟨before, scanned⟩ := (passed.trimEnd (List.cons_ne_nil _ _)).scan 0
    rw [List.append_nil] at scanned
    rw [tokens, same, scanned, Lexer.scan]
    exact ⟨_, rfl⟩
  case whatever =>
    rintro c k ⟨front, rest, shape, rfl, passed, stray⟩ tail
    have taken : (trim line.toList).take (front.length + 1) = front ++ [c] := by
      rw [shape, List.take_append]
      simp
    have start : trimStart (front ++ c :: tail) = front ++ c :: tail := by
      cases front with
      | nil => exact List.dropWhile_cons_of_neg (by rw [stray.notBlank]; decide)
      | cons d others =>
        rw [List.cons_append] at shape
        exact List.dropWhile_cons_of_neg (by rw [head_of_trim shape]; decide)
    obtain ⟨others, same⟩ := trimEnd_behind stray.notBlank front tail
    have passed' : Passed (c :: others) front := passed.beside (List.cons_ne_nil _ _) fun _ => id
    rw [tokens, String.toList_ofList, taken, List.append_assoc, List.singleton_append, trim, start,
      same]
    exact passed'.fails (scan_unread stray.notBlank (stray.unread _ others))
  case outside => exact fun c k strays place span lexeme comes => strays.behind comes
  case otherwise =>
    intro short noStray
    rcases scan_cases (trim line.toList) with succeeds | ⟨c, k, strays⟩ | ⟨_, overlong⟩
    · exact succeeds
    · exact absurd strays (noStray c k)
    · exact absurd overlong short
  case sheltered =>
    intro short c k found stray
    rcases stray_sheltered found stray with sheltered | ⟨d, j, before, strays⟩ | overlong
    · exact .inl sheltered
    · exact .inr ⟨d, j, before, strays.fails⟩
    · exact absurd overlong short

end LineBasic
