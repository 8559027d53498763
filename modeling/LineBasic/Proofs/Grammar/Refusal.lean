/-
**What a line is refused for.**

A reader that refuses a line says which token it did not expect, or which number is no line
number. A text in the place of a line number is never the reason, since no line spells a number
lexeme with a text as its value: such lexemes come from hosts only.

* `expression_refused`, `statement_refused` — the readers give other reasons;
* `line_refused` — the reason for which a line is refused is another one.
-/

import LineBasic.Proofs.Grammar.Sentence

namespace LineBasic.Parser

/-- The numbers among some tokens are numbers, and foreign tokens are of kinds of their own. -/
structure Lexed (tokens : List Token) : Prop where
  native : Native tokens
  numbers : ∀ token ∈ tokens, ∀ text, token.lexeme ≠ .number (.text text)

theorem Lexed.rest {taken rest : List Token} (lexed : Lexed (taken ++ rest)) : Lexed rest where
  native := lexed.native.rest
  numbers token member := lexed.numbers token (List.mem_append_right taken member)

theorem Lexed.tail {token : Token} {rest : List Token} (lexed : Lexed (token :: rest)) :
    Lexed rest :=
  Lexed.rest (show Lexed ([token] ++ rest) from lexed)

/-- A number at the front is no text. -/
theorem Lexed.isNumber {value : Value} {column : Nat} {rest : List Token}
    (lexed : Lexed (⟨.number value, column⟩ :: rest)) (text : String) : value ≠ .text text :=
  fun same => lexed.numbers _ List.mem_cons_self text (congrArg Lexeme.number same)

section Refused

variable {tokens : List Token} {reason : Malformed}

theorem bind_error {Reason First Result : Type} {first : Except Reason First}
    {behind : First → Except Reason Result} {reason : Reason}
    (refused : first >>= behind = .error reason) :
    first = .error reason ∨ ∃ value, first = .ok value ∧ behind value = .error reason := by
  cases first with
  | error other =>
    cases refused
    exact .inl rfl
  | ok value => exact .inr ⟨value, rfl, refused⟩

theorem map_error {Reason First Result : Type} {first : Except Reason First} {f : First → Result}
    {reason : Reason} (refused : first.map f = .error reason) : first = .error reason := by
  cases first with
  | error other =>
    cases refused
    rfl
  | ok value => cases refused

theorem expectLexeme_refused {lexeme : Lexeme}
    (refused : expectLexeme lexeme tokens = .error reason) :
    reason ≠ .textAsLineNumber := by
  unfold expectLexeme expect at refused
  split at refused
  · cases refused
    rintro ⟨⟩
  · split at refused
    · cases refused
    · cases refused
      rintro ⟨⟩

theorem expectName_refused (refused : expectName tokens = .error reason) :
    reason ≠ .textAsLineNumber := by
  unfold expectName at refused
  split at refused
  · cases refused
  · cases refused
    rintro ⟨⟩

theorem toLineNumber_refused {value : Value} (isNumber : ∀ text, value ≠ .text text)
    (refused : toLineNumber value = .error reason) : reason ≠ .textAsLineNumber := by
  unfold toLineNumber at refused
  split at refused
  · next text => exact absurd rfl (isNumber text)
  · split at refused
    · cases refused
      rintro ⟨⟩
    · cases refused
  · split at refused
    · split at refused
      · cases refused
        rintro ⟨⟩
      · cases refused
    · cases refused
      rintro ⟨⟩

mutual

theorem primary_refused (tokens : List Token) {reason : Malformed}
    (refused : primary tokens = .error reason) : reason ≠ .textAsLineNumber := by
  cases tokens with
  | nil =>
    rw [primary] at refused
    cases refused
    rintro ⟨⟩
  | cons token others =>
    rw [primary] at refused
    split at refused
    · cases refused
    · cases refused
    · cases refused
    · rcases inside : chain 3 others with reason' | ⟨inner, ⟨after, shorter⟩⟩
      all_goals rw [inside] at refused
      · cases refused
        exact chain_refused 3 others inside
      · simp only at refused
        rcases closing : expectLexeme (.punctuation ")") after with reason' | ⟨last, ⟨end_, _⟩⟩
        all_goals rw [closing] at refused
        · cases refused
          exact expectLexeme_refused closing
        · cases refused
    · rcases inside : primary others with reason' | ⟨operand, ⟨after, shorter⟩⟩
      all_goals rw [inside] at refused
      · cases refused
        exact primary_refused others inside
      · cases refused
    · cases refused
      rintro ⟨⟩
termination_by (tokens.length, 0, 0)

theorem chain_refused (level : Nat) (tokens : List Token) {reason : Malformed}
    (refused : chain level tokens = .error reason) : reason ≠ .textAsLineNumber := by
  match level with
  | 0 =>
    rw [chain] at refused
    exact primary_refused tokens refused
  | level + 1 =>
    rw [chain] at refused
    rcases ahead : chain level tokens with reason' | ⟨left, ⟨after, shorter⟩⟩
    all_goals rw [ahead] at refused
    · cases refused
      exact chain_refused level tokens ahead
    · simp only at refused
      rcases more : extend level left after with reason' | ⟨node, ⟨last, notLonger⟩⟩
      all_goals rw [more] at refused
      · cases refused
        exact extend_refused level left after (congrArg plain more)
      · cases refused
termination_by (tokens.length, level, 1)

theorem extend_refused (level : Nat) (left : Node) (tokens : List Token) {reason : Malformed}
    (refused : plain (extend level left tokens) = .error reason) : reason ≠ .textAsLineNumber := by
  by_cases starts : startsWith (level + 1) tokens
  · obtain ⟨symbol, column, others, shape, member⟩ := cons_of_startsWith starts
    rw [shape, plain_extend_cons member] at refused
    have less : others.length < tokens.length := by
      rw [shape]
      exact Nat.lt_succ_self _
    rcases inside : chain level others with reason' | ⟨right, ⟨after, shorter⟩⟩
    all_goals rw [inside] at refused
    · cases refused
      exact chain_refused level others inside
    · exact extend_refused level _ after refused
  · rw [plain_extend_stop starts] at refused
    cases refused
termination_by (tokens.length, 0, 0)

end

theorem expression_refused (refused : expression tokens = .error reason) :
    reason ≠ .textAsLineNumber :=
  chain_refused 3 tokens refused

theorem lineNumber_refused (lexed : Lexed tokens) (refused : lineNumber tokens = .error reason) :
    reason ≠ .textAsLineNumber := by
  unfold lineNumber at refused
  split at refused
  · exact toLineNumber_refused lexed.isNumber (map_error refused)
  · cases refused
    rintro ⟨⟩

theorem printItems_refused (tokens : List Token) (refused : printItems tokens = .error reason) :
    reason ≠ .textAsLineNumber := by
  rw [printItems] at refused
  split at refused
  · cases refused
  · rcases first : expression tokens with reason' | ⟨item, ⟨after, shorter⟩⟩
    all_goals rw [first] at refused
    · cases refused
      exact expression_refused first
    · simp only at refused
      rcases found : separator? after with none | ⟨separator, ⟨others, shorter'⟩⟩
      all_goals rw [found] at refused
      · cases refused
      · simp only at refused
        rcases more : printItems others with reason' | ⟨items', separators', last⟩
        all_goals rw [more] at refused
        · cases refused
          exact printItems_refused others more
        · cases refused
termination_by tokens.length

theorem assignment_refused (refused : assignment tokens = .error reason) :
    reason ≠ .textAsLineNumber := by
  rcases bind_error refused with noName | ⟨⟨name, ⟨afterName, _⟩⟩, _, refused⟩
  · exact expectName_refused noName
  rcases bind_error refused with noEquals | ⟨⟨equals, ⟨afterEquals, _⟩⟩, _, refused⟩
  · exact expectLexeme_refused noEquals
  rcases bind_error refused with noValue | ⟨⟨value, ⟨after, _⟩⟩, _, refused⟩
  · exact expression_refused noValue
  · cases refused

theorem inputStatement_refused (refused : inputStatement tokens = .error reason) :
    reason ≠ .textAsLineNumber := by
  rcases bind_error refused with noName | ⟨⟨name, ⟨after, _⟩⟩, _, refused⟩
  · exact expectName_refused noName
  · cases refused

theorem loopStatement_refused (refused : loopStatement tokens = .error reason) :
    reason ≠ .textAsLineNumber := by
  rcases bind_error refused with noName | ⟨⟨name, ⟨afterName, _⟩⟩, _, refused⟩
  · exact expectName_refused noName
  rcases bind_error refused with noEquals | ⟨⟨equals, ⟨afterEquals, _⟩⟩, _, refused⟩
  · exact expectLexeme_refused noEquals
  rcases bind_error refused with noStart | ⟨⟨start, ⟨afterStart, _⟩⟩, _, refused⟩
  · exact expression_refused noStart
  rcases bind_error refused with noTo | ⟨⟨link, ⟨afterTo, _⟩⟩, _, refused⟩
  · exact expectLexeme_refused noTo
  rcases bind_error refused with noLimit | ⟨⟨limit, ⟨afterLimit, _⟩⟩, _, refused⟩
  · exact expression_refused noLimit
  simp only at refused
  split at refused
  · rcases bind_error refused with noStep | ⟨⟨step, ⟨after, _⟩⟩, _, refused⟩
    · exact expression_refused noStep
    · cases refused
  · cases refused

theorem listStatement_refused (lexed : Lexed tokens)
    (refused : listStatement tokens = .error reason) : reason ≠ .textAsLineNumber := by
  unfold listStatement at refused
  split at refused
  · rcases bind_error refused with noFirst | ⟨first, _, refused⟩
    · exact toLineNumber_refused lexed.isNumber noFirst
    split at refused
    · rcases bind_error refused with noLast | ⟨last, _, refused⟩
      · exact toLineNumber_refused lexed.tail.tail.isNumber noLast
      · cases refused
    · cases refused
  · rcases bind_error refused with noLast | ⟨⟨last, ⟨after, _⟩⟩, _, refused⟩
    · exact lineNumber_refused lexed.tail noLast
    · cases refused
  · cases refused

/-- A conditional is refused for its condition, for its `THEN`, or behind it. -/
theorem conditional_refused (lexed : Lexed tokens) {column : Nat}
    (refused : statement (⟨.keyword "IF", column⟩ :: tokens) = .error reason) :
    reason ≠ .textAsLineNumber ∨ ∃ taken condition column' guarded,
      tokens = taken ++ ⟨.keyword "THEN", column'⟩ :: guarded ∧
        conditional condition guarded = .error reason := by
  rw [statement] at refused
  rcases isCondition : expression tokens with reason' | ⟨condition, ⟨after, shorter⟩⟩
  all_goals simp only [isCondition] at refused
  · cases refused
    exact .inl (expression_refused isCondition)
  · obtain ⟨taken, rfl, _⟩ : ReadAs 3 tokens condition after :=
      expression_sound lexed.native isCondition
    rcases isThen : expectLexeme (.keyword "THEN") after with reason' | ⟨last, ⟨guarded, less⟩⟩
    all_goals simp only [isThen] at refused
    · cases refused
      exact .inl (expectLexeme_refused isThen)
    · obtain ⟨shape, sign⟩ := expectLexeme_sound lexed.native.rest rfl isThen
      obtain ⟨lexeme, column'⟩ := last
      cases sign
      exact .inr ⟨taken, condition, column', guarded, by rw [shape], refused⟩

/-- **A statement of a line is not refused for a text as a line number.** -/
theorem statement_refused (tokens : List Token) (lexed : Lexed tokens)
    (refused : statement tokens = .error reason) : reason ≠ .textAsLineNumber := by
  match tokens with
  | [] =>
    rw [statement] at refused
    cases refused
    rintro ⟨⟩
  | ⟨lexeme, column⟩ :: others =>
    have whole := refused
    rw [statement] at refused
    simp only at refused
    split at refused
    · exact printItems_refused others (map_error refused)
    · exact assignment_refused refused
    · exact inputStatement_refused refused
    · rcases conditional_refused lexed.tail whole with
        refused | ⟨taken, condition, column', guarded, shape, refused⟩
      · exact refused
      · have lexedGuarded : Lexed guarded := (shape ▸ lexed.tail).rest.tail
        have shorter : guarded.length ≤ others.length := by
          rw [shape, List.length_append, List.length_cons]
          omega
        unfold conditional at refused
        rcases ahead : numberAhead? guarded with none | ⟨value, after⟩
        all_goals rw [ahead] at refused
        · exact statement_refused guarded lexedGuarded (map_error refused)
        · obtain ⟨column'', rfl⟩ := numberAhead_sound ahead
          exact toLineNumber_refused lexedGuarded.isNumber (map_error refused)
    · exact lineNumber_refused lexed.tail (map_error refused)
    · exact loopStatement_refused refused
    · cases refused
    · cases refused
    · exact listStatement_refused lexed.tail refused
    · cases refused
    · cases refused
    · cases refused
    · cases refused
    · cases refused
      rintro ⟨⟩
    · exact assignment_refused refused
    · cases refused
      rintro ⟨⟩
termination_by tokens.length
decreasing_by
  simp only [List.length_cons]
  omega

/-- **A line is not refused for a text as a line number.** -/
theorem line_refused (lexed : Lexed tokens) (refused : line tokens = .error reason) :
    reason ≠ .textAsLineNumber := by
  unfold line at refused
  split at refused
  · cases refused
  · rcases ahead : numberAhead? tokens with none | ⟨value, rest⟩
    all_goals rw [ahead] at refused
    · exact statement_refused tokens lexed (map_error refused)
    · obtain ⟨column, shape⟩ := numberAhead_sound ahead
      subst shape
      simp only at refused
      rcases isNumber : toLineNumber value with reason' | number
      all_goals rw [isNumber] at refused
      · cases refused
        exact toLineNumber_refused lexed.isNumber isNumber
      · simp only at refused
        split at refused
        · cases refused
        · exact statement_refused rest lexed.tail (map_error refused)

end Refused

end LineBasic.Parser
