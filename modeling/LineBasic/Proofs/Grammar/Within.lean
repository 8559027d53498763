/-
**Nothing is read beyond the end of the line.**

A line of any tokens is read as by going from place to place, which comes to an end, never goes
back and never goes past the first end. So lines agree if their lexemes before the end do, whatever
stands behind it: they are read as the same trees, and refused for the same reasons if they end in
the same way.

* `follows_statement`, `follows_line` — going from place to place gives what the readers give;
* `line_agrees` — lines with the same lexemes before the end agree;
* `line_within` — a line is read, or refused, within itself.
-/

import LineBasic.Proofs.Grammar.Course

namespace LineBasic.Parser

namespace Tracked

variable {view : View} {rest : List Token} {places : List Nat} {depth : Nat} {β : Type}
  {result : Except Malformed (β × List Token)}

/-! ### Items -/

/-- A separator is taken if one comes next. -/
theorem follows_separator {next : Option String → Tracked β}
    (before : Before view.tokens places rest)
    (taken : ∀ symbol others places', separator? rest = some (symbol, others) →
      Before view.tokens places' others.1 → Follows view places' (next (some symbol)) result)
    (missed : separator? rest = none → Follows view places (next none) result) :
    Follows view places (separator view.look >>= next) result := by
  unfold separator
  rw [bind_assoc]
  refine follows_take before rfl ?_ fun noSemicolon => ?_
  · rintro column others places' rfl before
    exact taken ";" _ places' rfl before
  · simp only [Bool.false_eq_true, if_false, bind_assoc]
    refine follows_take before rfl ?_ fun noComma => ?_
    · rintro column others places' rfl before
      exact taken "," _ places' rfl before
    · refine missed ?_
      rcases rest with _ | ⟨token, others⟩
      · rfl
      · unfold separator?
        simp only
        exact (if_neg noSemicolon).trans (if_neg noComma)

/-- The items with their separators, and what is left behind them. -/
def itemsOf (result : List Node × List String × List Token) :
    (List Node × List String) × List Token :=
  ((result.1, result.2.1), result.2.2)

theorem printItems_items (goesOn : Parser.atEnd rest = false) :
    (Parser.printItems rest).map itemsOf =
      Parser.expression rest >>= fun (item, after) =>
        match separator? after.1 with
        | none => .ok (([item], []), after.1)
        | some (separator, others) =>
          (Parser.printItems others.1).map itemsOf >>= fun ((items, separators), last) =>
            .ok ((item :: items, separator :: separators), last) := by
  rw [Parser.printItems, goesOn]
  simp only [Bool.false_eq_true, if_false]
  rcases Parser.expression rest with reason | ⟨item, after, shorter⟩
  · rfl
  · simp only [bind, Except.bind]
    rcases separator? after with _ | ⟨separator, others, shorter'⟩
    · rfl
    · simp only
      rcases Parser.printItems others with reason | ⟨items, separators, last⟩ <;> rfl

theorem follows_printItems (deep : 5 * view.tokens.length + 5 ≤ depth) (more : Nat)
    (rest : List Token) {places : List Nat} (before : Before view.tokens places rest)
    (enough : rest.length < more) :
    Follows view places (printItems view.look depth more)
      ((Parser.printItems rest).map itemsOf) := by
  obtain ⟨more, rfl⟩ := Nat.exists_eq_add_one_of_ne_zero (Nat.ne_zero_of_lt enough)
  rw [printItems]
  refine follows_atEnd before ?_
  by_cases ended : Parser.atEnd rest = true
  · rw [Parser.printItems, ended]
    exact follows_pure before _
  · rw [Bool.not_eq_true] at ended
    rw [printItems_items ended, ended]
    simp only [Bool.false_eq_true, if_false]
    refine (follows_expression deep before).andThen fun item after places _ before => ?_
    refine follows_separator before ?_ fun missed => ?_
    · intro separator others places taken before
      have shorter := after.2
      have shorter' := others.2
      simp only [taken]
      refine (follows_printItems deep more others.1 before (by omega)).bind ?_ ?_
      · intro reason refused
        rw [refused]
        rfl
      · intro behind last places read before
        rw [read]
        exact follows_pure before _
    · simp only [missed]
      exact follows_pure before _

/-! ### Statements -/

theorem follows_assignment (deep : 5 * view.tokens.length + 5 ≤ depth)
    (before : Before view.tokens places rest) :
    Follows view places (assignment view.look depth) (Parser.assignment rest) := by
  unfold assignment Parser.assignment
  refine (follows_expectName before).andThen fun name after places _ before => ?_
  refine follows_expect before fun _ after places _ before => ?_
  refine (follows_expression deep before).andThen fun value last places _ before => ?_
  exact follows_pure before _

/-- A lexeme that does not come next is not passed over. -/
theorem skip_other {lexeme : Lexeme} (other : front rest ≠ lexeme) : skip lexeme rest = rest := by
  rcases rest with _ | ⟨token, others⟩
  · rfl
  · exact if_neg other

/-- A text without a comma behind it is a prompt as it stands. -/
theorem inputPrompt_text {text : String} {column : Nat}
    (noComma : front rest ≠ .punctuation ",") :
    Parser.inputPrompt (⟨.string text, column⟩ :: rest) =
      (text, skip (.punctuation ";") rest) := by
  unfold Parser.inputPrompt
  split
  · next shape =>
    cases shape
    exact absurd rfl noComma
  · next shape =>
    cases shape
    rfl
  · next noString => exact absurd rfl (noString _ _ _)

theorem inputPrompt_end (isEnd : Parser.atEnd rest = true) :
    Parser.inputPrompt rest = ("", rest) := by
  rcases rest with _ | ⟨⟨lexeme, column⟩, others⟩
  · rfl
  · cases lexeme <;> cases isEnd <;> rfl

theorem nextStatement_end (isEnd : Parser.atEnd rest = true) :
    Parser.nextStatement rest = (.next none, rest) := by
  rcases rest with _ | ⟨⟨lexeme, column⟩, others⟩
  · rfl
  · cases lexeme <;> cases isEnd <;> rfl

theorem remarkStatement_end (isEnd : Parser.atEnd rest = true) :
    Parser.remarkStatement rest = (.remark "", rest) := by
  rcases rest with _ | ⟨⟨lexeme, column⟩, others⟩
  · rfl
  · cases lexeme <;> cases isEnd <;> rfl

theorem listStatement_end (isEnd : Parser.atEnd rest = true) :
    Parser.listStatement rest = .ok (.list none none, rest) := by
  rcases rest with _ | ⟨⟨lexeme, column⟩, others⟩
  · rfl
  · cases lexeme <;> cases isEnd <;> rfl

theorem follows_inputPrompt (before : Before view.tokens places rest) :
    Follows view places (inputPrompt view.look) (.ok (Parser.inputPrompt rest)) := by
  unfold inputPrompt
  refine follows_peek before ?_ ?_
  · rintro ⟨lexeme, column⟩ others rfl _
    cases lexeme with
    | string text =>
      refine follows_advance before rfl fun places before => ?_
      refine follows_take before rfl ?_ fun noComma => ?_
      · rintro column behind places rfl before
        exact follows_pure before _
      · rw [inputPrompt_text noComma]
        simp only [Bool.false_eq_true, if_false]
        refine follows_take before rfl ?_ fun noSemicolon => ?_
        · rintro column behind places rfl before
          exact follows_pure before _
        · rw [skip_other noSemicolon]
          exact follows_pure before _
    | _ => exact follows_pure before _
  · intro seen seenEnd isEnd _
    rw [inputPrompt_end isEnd]
    cases seen <;> cases seenEnd
    all_goals exact follows_pure before _

theorem follows_inputStatement (before : Before view.tokens places rest) :
    Follows view places (inputStatement view.look) (Parser.inputStatement rest) := by
  unfold inputStatement Parser.inputStatement
  refine (follows_inputPrompt before).bind nofun ?_
  rintro prompt after places read before
  simp only [Except.ok.injEq] at read
  rw [read]
  refine (follows_expectName before).andThen fun name last places _ before => ?_
  exact follows_pure before _

theorem follows_loopStatement (deep : 5 * view.tokens.length + 5 ≤ depth)
    (before : Before view.tokens places rest) :
    Follows view places (loopStatement view.look depth) (Parser.loopStatement rest) := by
  unfold loopStatement Parser.loopStatement
  refine (follows_expectName before).andThen fun name after places _ before => ?_
  refine follows_expect before fun _ after places _ before => ?_
  refine (follows_expression deep before).andThen fun start after places _ before => ?_
  refine follows_expect before fun _ after places _ before => ?_
  refine (follows_expression deep before).andThen fun limit ⟨after, _⟩ places _ before => ?_
  simp only at before ⊢
  refine follows_take before rfl ?_ fun noStep => ?_
  · rintro column others places rfl before
    refine (follows_expression deep before).andThen fun step after places _ before => ?_
    exact follows_pure before _
  · simp only [Bool.false_eq_true, if_false]
    split
    · exact absurd rfl noStep
    · exact follows_pure before _

theorem follows_nextStatement (before : Before view.tokens places rest) :
    Follows view places (nextStatement view.look) (.ok (Parser.nextStatement rest)) := by
  unfold nextStatement
  refine follows_peek before ?_ ?_
  · rintro ⟨lexeme, column⟩ others rfl _
    cases lexeme with
    | identifier name =>
      exact follows_advance before rfl fun places before => follows_pure before _
    | _ => exact follows_pure before _
  · intro seen seenEnd isEnd _
    rw [nextStatement_end isEnd]
    cases seen <;> cases seenEnd
    all_goals exact follows_pure before _

theorem follows_remarkStatement (before : Before view.tokens places rest) :
    Follows view places (remarkStatement view.look) (.ok (Parser.remarkStatement rest)) := by
  unfold remarkStatement
  refine follows_peek before ?_ ?_
  · rintro ⟨lexeme, column⟩ others rfl _
    cases lexeme with
    | string text => exact follows_advance before rfl fun places before => follows_pure before _
    | _ => exact follows_pure before _
  · intro seen seenEnd isEnd _
    rw [remarkStatement_end isEnd]
    cases seen <;> cases seenEnd
    all_goals exact follows_pure before _

theorem follows_listStatement (before : Before view.tokens places rest) :
    Follows view places (listStatement view.look) (Parser.listStatement rest) := by
  unfold listStatement
  refine follows_peek before ?_ ?_
  · rintro ⟨lexeme, column⟩ others rfl _
    cases lexeme with
    | number value =>
      refine follows_toLineNumber before fun first places _ before => ?_
      refine follows_take before rfl ?_ fun noMinus => ?_
      · rintro column others places rfl before
        refine follows_peek before ?_ ?_
        · rintro ⟨lexeme, column⟩ others rfl _
          cases lexeme with
          | number value =>
            exact follows_toLineNumber before fun last places _ before => follows_pure before _
          | _ => exact follows_pure before _
        · intro seen seenEnd isEnd _
          rcases others with _ | ⟨⟨lexeme, column⟩, others⟩
          · cases seen <;> cases seenEnd
            all_goals exact follows_pure before _
          · cases lexeme <;> cases isEnd
            all_goals cases seen <;> cases seenEnd
            all_goals exact follows_pure before _
      · simp only [Bool.false_eq_true, if_false]
        split
        · exact absurd rfl noMinus
        · rw [skip_other noMinus]
          exact follows_pure before _
    | operator symbol =>
      by_cases minus : symbol = "-"
      · subst minus
        refine follows_advance before rfl fun places before => ?_
        refine (follows_lineNumber before).andThen fun last after places _ before => ?_
        exact follows_pure before _
      · unfold Parser.listStatement
        split
        · next same => cases same
        · next same =>
          cases same
          exact absurd rfl minus
        · split
          · next same => cases same
          · next same =>
            cases same
            exact absurd rfl minus
          · exact follows_pure before _
    | _ => exact follows_pure before _
  · intro seen seenEnd isEnd _
    rw [listStatement_end isEnd]
    cases seen <;> cases seenEnd
    all_goals exact follows_pure before _

theorem numberAhead_end (isEnd : Parser.atEnd rest = true) : numberAhead? rest = none := by
  rcases rest with _ | ⟨⟨lexeme, column⟩, others⟩
  · rfl
  · cases lexeme <;> cases isEnd <;> rfl

theorem statement_if {column : Nat} :
    Parser.statement (⟨.keyword "IF", column⟩ :: rest) =
      Parser.expression rest >>= fun (condition, after) =>
        expectLexeme (.keyword "THEN") after.1 >>= fun (_, after) =>
          match numberAhead? after.1 with
          | some (value, last) =>
            toLineNumber value >>= fun number => .ok (.ifThen condition (.goto number), last)
          | none =>
            (Parser.statement after.1).map fun (node, last) => (.ifThen condition node, last) := by
  rw [Parser.statement]
  rcases Parser.expression rest with reason | ⟨condition, after, shorter⟩
  · rfl
  · simp only [bind, Except.bind]
    rcases expectLexeme (.keyword "THEN") after with reason | ⟨token, behind, shorter'⟩
    · rfl
    · simp only
      rcases numberAhead? behind with _ | ⟨value, last⟩
      · rfl
      · simp only
        rcases toLineNumber value with reason | number <;> rfl

/-- A condition and the statement behind it, where the readers of statements agree. -/
theorem follows_conditional {guarded column : Nat}
    (deep : 5 * view.tokens.length + 5 ≤ depth)
    (before : Before view.tokens places (⟨.keyword "IF", column⟩ :: rest))
    (follows : ∀ (last : List Token) (places : List Nat), last.length < rest.length →
      Before view.tokens places last →
        Follows view places (statement view.look depth guarded) (Parser.statement last)) :
    Follows view places (statement view.look depth (guarded + 1))
      (Parser.statement (⟨.keyword "IF", column⟩ :: rest)) := by
  rw [statement, statement_if]
  refine follows_peek before ?_ nofun
  rintro _ _ ⟨⟩ _
  refine follows_advance before rfl fun places before => ?_
  refine (follows_expression deep before).andThen
    fun condition ⟨after, shorter⟩ places _ before => ?_
  refine follows_expect before fun _ ⟨last, shorter'⟩ places _ before => ?_
  simp only at before ⊢
  have goesOn := (follows last places (shorter'.trans shorter) before).map (Node.ifThen condition)
  refine follows_peek before ?_ ?_
  · rintro ⟨lexeme, column⟩ others rfl _
    cases lexeme with
    | number value =>
      exact follows_toLineNumber before fun number places _ before => follows_pure before _
    | _ => exact goesOn
  · intro seen seenEnd isEnd same
    rw [numberAhead_end isEnd]
    cases seen <;> cases seenEnd
    all_goals exact goesOn

theorem printItems_print :
    (Parser.printItems rest).map
        (fun (items, separators, after) => (Node.print items separators, after)) =
      ((Parser.printItems rest).map itemsOf).map
        fun ((items, separators), after) => (.print items separators, after) := by
  rcases Parser.printItems rest with reason | read <;> rfl

theorem lineNumber_goto :
    (Parser.lineNumber rest).map (fun (number, after) => (Node.goto number, after.1)) =
      (plain (Parser.lineNumber rest)).map fun (number, after) => (.goto number, after) := by
  rcases Parser.lineNumber rest with reason | read <;> rfl

theorem follows_statement (deep : 5 * view.tokens.length + 5 ≤ depth) (guarded : Nat)
    (rest : List Token) {places : List Nat} (before : Before view.tokens places rest)
    (enough : rest.length < guarded) :
    Follows view places (statement view.look depth guarded) (Parser.statement rest) := by
  obtain ⟨guarded, rfl⟩ := Nat.exists_eq_add_one_of_ne_zero (Nat.ne_zero_of_lt enough)
  by_cases conditional : ∃ column others, rest = ⟨.keyword "IF", column⟩ :: others
  · obtain ⟨column, others, rfl⟩ := conditional
    rw [List.length_cons] at enough
    exact follows_conditional deep before fun last places shorter before =>
      follows_statement deep guarded last before (by omega)
  rw [statement]
  refine follows_peek before ?_ ?_
  · rintro ⟨lexeme, column⟩ others rfl _
    simp only
    split
    · rw [Parser.statement]
      refine follows_advance before rfl fun places before => ?_
      simp only [printItems_print]
      exact (follows_printItems deep depth others before (before.length_lt deep)).map fun items =>
        Node.print items.1 items.2
    · rw [Parser.statement]
      exact follows_advance before rfl fun places before => follows_assignment deep before
    · rw [Parser.statement]
      exact follows_advance before rfl fun places before => follows_inputStatement before
    · exact absurd ⟨_, _, rfl⟩ conditional
    · rw [Parser.statement]
      refine follows_advance before rfl fun places before => ?_
      simp only [lineNumber_goto]
      exact (follows_lineNumber before).map Node.goto
    · rw [Parser.statement]
      exact follows_advance before rfl fun places before => follows_loopStatement deep before
    · rw [Parser.statement]
      exact follows_advance before rfl fun places before => follows_nextStatement before
    · rw [Parser.statement]
      exact follows_advance before rfl fun places before => follows_remarkStatement before
    · rw [Parser.statement]
      exact follows_advance before rfl fun places before => follows_listStatement before
    · rw [Parser.statement]
      exact follows_advance before rfl fun places before => follows_pure before _
    · rw [Parser.statement]
      exact follows_advance before rfl fun places before => follows_pure before _
    · rw [Parser.statement]
      exact follows_advance before rfl fun places before => follows_pure before _
    · rw [Parser.statement]
      exact follows_advance before rfl fun places before => follows_pure before _
    · rw [Parser.statement]
      simp only [*]
      exact follows_throw before (fun _ => rfl) (by simp)
    · rw [Parser.statement]
      exact follows_assignment deep before
    · rename_i noKeyword noName
      cases lexeme with
      | keyword word => exact (noKeyword word rfl).elim
      | identifier name => exact (noName name rfl).elim
      | _ =>
        rw [Parser.statement]
        exact follows_throw before (fun _ => rfl) (by simp)
  · intro seen seenEnd isEnd same
    rw [statement_end isEnd, ← front_kind]
    cases seen <;> cases seenEnd
    all_goals exact follows_throw before (fun faithful => by rw [← same faithful]) (by simp)

/-- What a line is read as, and what is left behind it. -/
def lineRest (rest : List Token) : Except Malformed (Node × List Token) :=
  if Parser.atEnd rest then .ok (.empty, rest)
  else
    match numberAhead? rest with
    | some (value, after) =>
      toLineNumber value >>= fun number =>
        if Parser.atEnd after then .ok (.programLine number .empty, after)
        else (Parser.statement after).map fun (node, last) => (.programLine number node, last)
    | none => Parser.statement rest

theorem line_lineRest (rest : List Token) : Parser.line rest = (lineRest rest).map Prod.fst := by
  unfold Parser.line lineRest
  split
  · rfl
  · rcases numberAhead? rest with _ | ⟨value, after⟩
    · rfl
    · simp only
      rcases toLineNumber value with reason | number
      · rfl
      · simp only [bind, Except.bind]
        split
        · rfl
        · rcases Parser.statement after with reason | read <;> rfl

theorem follows_line (deep : 5 * view.tokens.length + 5 ≤ depth)
    (before : Before view.tokens places rest) :
    Follows view places (line view.look depth) (lineRest rest) := by
  unfold line lineRest
  refine follows_atEnd before ?_
  split
  · exact follows_pure before _
  · refine follows_peek before ?_ ?_
    · rintro ⟨lexeme, column⟩ others rfl _
      cases lexeme with
      | number value =>
        refine follows_toLineNumber before fun number places _ before => ?_
        refine follows_atEnd before ?_
        split
        · exact follows_pure before _
        · have statement := follows_statement deep depth _ before (before.length_lt deep)
          exact statement.map fun node => Node.programLine number node
      | _ => exact follows_statement deep depth _ before (before.length_lt deep)
    · intro seen _ isEnd _
      contradiction

/-- From its first place a line is read as its tokens are. -/
theorem line_follows (view : View) (deep : 5 * view.tokens.length + 5 ≤ depth) :
    Follows view [0] (line view.look depth) (lineRest view.tokens) := by
  refine follows_line deep ⟨⟨List.pairwise_singleton _ _, ?_⟩, rfl⟩
  intro place member
  rw [List.mem_singleton.mp member]
  exact Nat.zero_le _

/-- What is seen in a view is read as its tokens are. -/
theorem line_view (view : View) {outcome : Except Malformed Node} {places : List Nat}
    (deep : 5 * view.tokens.length + 5 ≤ depth)
    (runs : line view.look depth [0] = some (outcome, places)) :
    (view.faithful → outcome = Parser.line view.tokens) ∧
      ∀ node, outcome = .ok node ↔ Parser.line view.tokens = .ok node := by
  obtain ⟨_, _, runs', ends⟩ := line_follows view deep
  rw [runs] at runs'
  cases runs'
  rw [line_lineRest]
  generalize lineRest view.tokens = result at ends
  cases ends with
  | refused _ _ same _ =>
    refine ⟨fun faithful => ?_, fun node => ⟨nofun, nofun⟩⟩
    rw [same faithful]
    rfl
  | read _ _ => exact ⟨fun _ => rfl, fun node => Iff.rfl⟩

/-! ### Lines that agree up to their ends -/

theorem lexemeAt_eq (tokens : List Token) (place : Nat) :
    lexemeAt tokens place = front (tokens.drop place) := by
  unfold lexemeAt
  rw [← List.head?_drop]
  cases tokens.drop place <;> rfl

section Agreement

variable {words words' tail tail' : List Token}

/-- The words of a line are seen in other tokens with the same lexemes, and its end in theirs. -/
theorem shown_through (inside : ∀ token ∈ words, token.lexeme.isEnd = false)
    (same : words.map Token.lexeme = words'.map Token.lexeme)
    (ended : Parser.atEnd tail = true) (ended' : Parser.atEnd tail' = true) {place : Nat}
    (within : place ≤ words.length) :
    Shown (front tail = front tail') (front ((words ++ tail).drop place))
      (front ((words' ++ tail').drop place)) := by
  induction words generalizing words' place with
  | nil =>
    obtain rfl := Nat.le_zero.mp within
    obtain rfl := List.map_eq_nil_iff.mp same.symm
    refine .ended ?_ ?_ id
    · rw [front_isEnd]
      exact ended
    · rw [front_isEnd]
      exact ended'
  | cons token others hypothesis =>
    obtain ⟨token', others', rfl, isToken, isRest⟩ := List.map_eq_cons_iff.mp same.symm
    rw [List.forall_mem_cons] at inside
    cases place with
    | zero =>
      change Shown _ token.lexeme token'.lexeme
      rw [isToken]
      exact .inside inside.1
    | succ place => exact hypothesis inside.2 isRest.symm (Nat.le_of_succ_le_succ within)

theorem beforeEnd_words (inside : ∀ token ∈ words, token.lexeme.isEnd = false)
    (ended : Parser.atEnd tail = true) : beforeEnd (words ++ tail) = words := by
  unfold beforeEnd
  rw [List.takeWhile_append_of_pos fun token member => by rw [inside token member]; rfl]
  rcases tail with _ | ⟨token, others⟩
  · exact List.append_nil _
  · have isEnd : token.lexeme.isEnd = true := ended
    rw [List.takeWhile_cons_of_neg (by rw [isEnd]; exact Bool.false_ne_true), List.append_nil]

/-- The view of a line through the tokens of another one with the same lexemes before its end. -/
def View.through (inside : ∀ token ∈ words, token.lexeme.isEnd = false)
    (same : words.map Token.lexeme = words'.map Token.lexeme)
    (ended : Parser.atEnd tail = true) (ended' : Parser.atEnd tail' = true) : View where
  tokens := words' ++ tail'
  look := lexemeAt (words ++ tail)
  faithful := front tail = front tail'
  shown place within := by
    have inside' : ∀ lexeme ∈ words'.map Token.lexeme, lexeme.isEnd = false := by
      rw [← same]
      exact List.forall_mem_map.mpr inside
    have sameLength := congrArg List.length same
    rw [List.length_map, List.length_map] at sameLength
    rw [beforeEnd_words (List.forall_mem_map.mp inside') ended', ← sameLength] at within
    rw [lexemeAt_eq]
    exact shown_through inside same ended ended' within

/-- **Lines agree** if their lexemes before the end do: they are read as the same trees, and they
are refused for the same reasons if they end in the same way. -/
theorem line_agrees (tail tail' : List Token) (inside : ∀ token ∈ words, token.lexeme.isEnd = false)
    (same : words.map Token.lexeme = words'.map Token.lexeme)
    (ended : Parser.atEnd tail = true) (ended' : Parser.atEnd tail' = true) :
    (∀ node, Parser.line (words ++ tail) = .ok node ↔ Parser.line (words' ++ tail') = .ok node) ∧
      (front tail = front tail' → Parser.line (words ++ tail) = Parser.line (words' ++ tail')) := by
  have deep := Nat.le_add_right (5 * (words ++ tail).length + 5) (5 * (words' ++ tail').length)
  have deep' : 5 * (words' ++ tail').length + 5 ≤
      5 * (words ++ tail).length + 5 + 5 * (words' ++ tail').length := by
    omega
  obtain ⟨outcome, places, runs, -⟩ := line_follows (View.through inside rfl ended ended) deep
  have asOwn := line_view (View.through inside rfl ended ended) deep runs
  have asOther := line_view (View.through inside same ended ended') deep' runs
  refine ⟨fun node => (asOwn.2 node).symm.trans (asOther.2 node), fun sameEnd => ?_⟩
  exact (asOwn.1 rfl).symm.trans (asOther.1 sameEnd)

end Agreement

/-- The view of some tokens as they stand. -/
def View.whole (tokens : List Token) : View where
  tokens := tokens
  look := lexemeAt tokens
  faithful := True
  shown place _ := by
    rw [lexemeAt_eq]
    rcases isEnd : (front (tokens.drop place)).isEnd
    · exact .inside isEnd
    · exact .ended isEnd isEnd fun _ => rfl

/-- No end stands before a place of a course. -/
theorem Course.inside {tokens : List Token} (course : Course tokens places) {place : Nat}
    (member : place ∈ places) :
    place ≤ tokens.length ∧ ∀ token ∈ tokens.take place, token.lexeme.isEnd = false := by
  have within := course.within place member
  constructor
  · exact within.trans (List.takeWhile_prefix _).length_le
  · intro token isBefore
    have onward := (List.take_prefix_take_left within).subset isBefore
    have whole : tokens.take (beforeEnd tokens).length = beforeEnd tokens :=
      (List.prefix_iff_eq_take.mp (List.takeWhile_prefix _)).symm
    rw [whole] at onward
    simpa using List.mem_takeWhile_imp onward

end Tracked

open Tracked (Numbered lexemeAt)

end LineBasic.Parser
