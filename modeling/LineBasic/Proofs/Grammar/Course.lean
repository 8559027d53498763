/-
**The course of reading.**

A reader that goes from place to place sees at each place what stands there, and where the line
ends it sees an end. It then comes to an end itself, with the tree or the refusal of the reader of
tokens that goes the same way, and the places that it has come to only ascend up to the end.

* `View` — what is seen of some tokens, and whether the end is seen as it stands;
* `Course`, `Before` — the places that reading has come to, and what is left in front of it;
* `Follows` — a reader comes to an end as a reader of tokens does;
* `Follows.bind` — readers one after the other do if each of them does;
* `follows_primary`, `follows_chain`, `follows_extend` — the readers of expressions do.
-/

import LineBasic.Proofs.Grammar.Extent
import LineBasic.Proofs.Grammar.Refusal
import LineBasic.Proofs.Grammar.Tracked

namespace LineBasic.Parser.Tracked

/-- The lexeme that comes next; past the last token the input ends. -/
def front : List Token → Lexeme
  | [] => .endOfInput
  | token :: _ => token.lexeme

/-- What is seen where a lexeme stands: the lexeme, or in the place of an end another end. A
faithful view shows the same end. -/
inductive Shown (faithful : Prop) : Lexeme → Lexeme → Prop where
  | inside {lexeme : Lexeme} (goesOn : lexeme.isEnd = false) : Shown faithful lexeme lexeme
  | ended {seen lexeme : Lexeme} (seenEnd : seen.isEnd = true) (isEnd : lexeme.isEnd = true)
      (same : faithful → seen = lexeme) : Shown faithful seen lexeme

theorem Shown.eq_of_inside {faithful : Prop} {seen lexeme : Lexeme}
    (shown : Shown faithful seen lexeme) (inside : lexeme.isEnd = false) : seen = lexeme := by
  cases shown with
  | inside _ => rfl
  | ended _ isEnd _ => exact absurd isEnd (Bool.eq_false_iff.mp inside)

/-- **A view of some tokens** up to the end of the line. -/
structure View where
  tokens : List Token
  look : Nat → Lexeme
  faithful : Prop
  shown : ∀ place ≤ (beforeEnd tokens).length,
    Shown faithful (look place) (front (tokens.drop place))

/-- **A course among some tokens:** places that reading has come to, the latest first. They only
ascend, and none lies behind the end of the line. -/
structure Course (tokens : List Token) (places : List Nat) : Prop where
  ascending : places.Pairwise (· > ·)
  within : ∀ place ∈ places, place ≤ (beforeEnd tokens).length

/-- A course whose latest place is in front of the rest of the tokens. -/
structure Before (tokens : List Token) (places : List Nat) (rest : List Token) : Prop where
  course : Course tokens places
  left : tokens.drop (latest places) = rest

/-- Every number among some tokens is a number. -/
def Numbered (tokens : List Token) : Prop :=
  ∀ token ∈ tokens, ∀ text, token.lexeme ≠ .number (.text text)

variable {view : View} {rest : List Token} {places : List Nat} {α β : Type}
  {result : Except Malformed (β × List Token)}

/-- A reader has come from some places to others, and its outcome is what a reader of tokens gives.
A faithful view is refused for the same reason, and a text as a line number is one only if there is
such a text. -/
inductive Ends (view : View) (places : List Nat) :
    Except Malformed α → List Nat → Except Malformed (α × List Token) → Prop where
  | refused {places' : List Nat} {reason reason' : Malformed} (onward : places <:+ places')
      (course : Course view.tokens places') (same : view.faithful → reason = reason')
      (texts : reason' = .textAsLineNumber → ¬Numbered view.tokens) :
      Ends view places (.error reason) places' (.error reason')
  | read {places' : List Nat} {value : α} {rest : List Token} (onward : places <:+ places')
      (before : Before view.tokens places' rest) :
      Ends view places (.ok value) places' (.ok (value, rest))

theorem Ends.course {outcome : Except Malformed α} {places' : List Nat}
    {result : Except Malformed (α × List Token)} (ends : Ends view places outcome places' result) :
    Course view.tokens places' := by
  cases ends with
  | refused _ course _ _ => exact course
  | read _ before => exact before.course

/-- Numbers that are numbers are no reason to refuse a line for a text. -/
theorem Ends.numbered {outcome : Except Malformed α} {places' : List Nat}
    {result : Except Malformed (α × List Token)} (ends : Ends view places outcome places' result)
    (numbered : Numbered view.tokens) : result ≠ .error .textAsLineNumber := by
  cases ends with
  | refused _ _ _ texts =>
    rintro ⟨⟩
    exact texts rfl numbered
  | read _ _ => exact nofun

/-- A reader comes to an end, as a reader of tokens does. -/
def Follows (view : View) (places : List Nat) (tracked : Tracked α)
    (result : Except Malformed (α × List Token)) : Prop :=
  ∃ outcome places', tracked places = some (outcome, places') ∧
    Ends view places outcome places' result

/-! ### Steps -/

theorem front_isEnd (rest : List Token) : (front rest).isEnd = Parser.atEnd rest := by
  cases rest <;> rfl

theorem front_kind (rest : List Token) : (front rest).kind = nextKind rest := by
  cases rest <;> rfl

theorem follows_pure (before : Before view.tokens places rest) (value : α) :
    Follows view places (pure value) (.ok (value, rest)) :=
  ⟨_, _, rfl, .read (List.suffix_refl _) before⟩

theorem follows_throw (before : Before view.tokens places rest) {reason reason' : Malformed}
    (same : view.faithful → reason = reason')
    (texts : reason' = .textAsLineNumber → ¬Numbered view.tokens) :
    Follows (α := α) view places (throw reason) (.error reason') :=
  ⟨_, _, rfl, .refused (List.suffix_refl _) before.course same texts⟩

/-- What is run behind a reader. -/
theorem run_bind (first : Tracked α) (next : α → Tracked β) (places : List Nat) :
    (first >>= next) places =
      match first places with
      | none => none
      | some (.error reason, places') => some (.error reason, places')
      | some (.ok value, places') => next value places' := by
  change Option.bind (first places) _ = _
  rcases first places with _ | ⟨reason | value, places'⟩ <;> rfl

/-- A reader that has come further may have come from earlier places. -/
theorem Follows.onward {places' : List Nat} {tracked : Tracked β}
    (follows : Follows view places' tracked result) (onward : places <:+ places') :
    ∃ outcome places'', tracked places' = some (outcome, places'') ∧
      Ends view places outcome places'' result := by
  obtain ⟨outcome, places'', runs, ends⟩ := follows
  refine ⟨outcome, places'', runs, ?_⟩
  cases ends with
  | refused further course same texts =>
    exact .refused (onward.trans further) course same texts
  | read further before => exact .read (onward.trans further) before

/-- **A reader goes on** behind what the first one has given. -/
theorem Follows.bind {first : Tracked α} {given : Except Malformed (α × List Token)}
    {next : α → Tracked β} (follows : Follows view places first given)
    (refused : ∀ reason, given = .error reason → result = .error reason)
    (goesOn : ∀ value after places', given = .ok (value, after) →
      Before view.tokens places' after → Follows view places' (next value) result) :
    Follows view places (first >>= next) result := by
  obtain ⟨outcome, places', runs, ends⟩ := follows
  unfold Follows
  rw [run_bind, runs]
  cases ends with
  | @refused _ reason reason' onward course same texts =>
    rw [refused reason' rfl]
    exact ⟨_, places', rfl, .refused onward course same texts⟩
  | @read _ value after onward before => exact (goesOn value after places' rfl before).onward onward

/-- A reader goes on behind one that hands back fewer tokens. -/
theorem Follows.andThen {Within : List Token → Prop} {first : Tracked α}
    {given : Except Malformed (α × { rest : List Token // Within rest })} {next : α → Tracked β}
    {behind : α × { rest : List Token // Within rest } → Except Malformed (β × List Token)}
    (follows : Follows view places first (plain given))
    (goesOn : ∀ value after places', given = .ok (value, after) →
      Before view.tokens places' after.1 →
        Follows view places' (next value) (behind (value, after))) :
    Follows view places (first >>= next) (given >>= behind) := by
  refine follows.bind ?_ ?_
  · intro reason refused
    rcases given with other | ⟨value, after⟩
    · cases refused
      rfl
    · cases refused
  · intro value after places' read before
    rcases given with other | ⟨value', after'⟩
    · cases read
    · cases read
      exact goesOn value after' places' rfl before

/-- A reader whose result is changed. -/
theorem Follows.map {first : Tracked α} {given : Except Malformed (α × List Token)}
    (follows : Follows view places first given) (f : α → β) :
    Follows view places (first >>= fun value => pure (f value))
      (given.map fun (value, rest) => (f value, rest)) := by
  refine follows.bind ?_ ?_
  · rintro reason rfl
    rfl
  · rintro value after places' rfl before
    exact follows_pure before (f value)

/-- The line ends behind the tokens before its end. -/
theorem drop_beforeEnd (tokens : List Token) :
    tokens.drop (beforeEnd tokens).length =
      tokens.dropWhile fun token => !token.lexeme.isEnd := by
  have parts : beforeEnd tokens ++ tokens.dropWhile (fun token => !token.lexeme.isEnd) = tokens :=
    List.takeWhile_append_dropWhile
  have behind := congrArg (List.drop (beforeEnd tokens).length) parts
  rw [List.drop_left] at behind
  exact behind.symm

theorem Course.latest_le {tokens : List Token} (course : Course tokens places) :
    latest places ≤ (beforeEnd tokens).length := by
  cases places with
  | nil => exact Nat.zero_le _
  | cons place others => exact course.within place List.mem_cons_self

/-- The place behind a token that is not the end. -/
theorem Before.advance {tokens : List Token} {token : Token}
    (before : Before tokens places (token :: rest)) (inside : token.lexeme.isEnd = false) :
    Before tokens ((latest places + 1) :: places) rest := by
  have reached := before.course.latest_le
  obtain ⟨⟨ascending, within⟩, left⟩ := before
  have most : ∀ place ∈ places, place ≤ latest places := by
    cases ascending with
    | nil => simp
    | cons below _ =>
      refine List.forall_mem_cons.mpr ⟨Nat.le_refl _, fun place member => ?_⟩
      exact Nat.le_of_lt (below place member)
  have beyond : latest places ≠ (beforeEnd tokens).length := by
    intro last
    have ended := atEnd_behind tokens
    rw [← drop_beforeEnd, ← last, left, Parser.atEnd, inside] at ended
    cases ended
  constructor
  · constructor
    · refine List.pairwise_cons.mpr ⟨fun place member => ?_, ascending⟩
      exact Nat.lt_succ_of_le (most place member)
    · refine List.forall_mem_cons.mpr ⟨?_, within⟩
      omega
  · change tokens.drop (latest places + 1) = rest
    rw [← List.tail_drop, left]
    rfl

theorem Before.shown (before : Before view.tokens places rest) :
    Shown view.faithful (view.look (latest places)) (front rest) := by
  rw [← before.left]
  exact view.shown _ before.course.latest_le

/-- **Looking ahead** moves nothing: either a token is seen that is not the end, or an end. -/
theorem follows_peek {next : Lexeme → Tracked β} (before : Before view.tokens places rest)
    (inside : ∀ token others, rest = token :: others → token.lexeme.isEnd = false →
      Follows view places (next token.lexeme) result)
    (ended : ∀ seen, seen.isEnd = true → Parser.atEnd rest = true →
      (view.faithful → seen = front rest) → Follows view places (next seen) result) :
    Follows view places (peek view.look >>= next) result := by
  have runs : peek view.look places = some (.ok (view.look (latest places)), places) := rfl
  have shown := before.shown
  unfold Follows
  rw [run_bind, runs]
  generalize view.look (latest places) = seen at shown
  cases shown with
  | inside goesOn =>
    rcases rest with _ | ⟨token, others⟩
    · cases goesOn
    · exact inside token others rfl goesOn
  | ended seenEnd isEnd same => exact ended seen seenEnd (front_isEnd rest ▸ isEnd) same

theorem follows_atEnd {next : Bool → Tracked β} (before : Before view.tokens places rest)
    (goesOn : Follows view places (next (Parser.atEnd rest)) result) :
    Follows view places (atEnd view.look >>= next) result := by
  unfold atEnd
  rw [bind_assoc]
  refine follows_peek before ?_ ?_
  · rintro token others rfl inside
    rw [pure_bind]
    exact goesOn
  · intro seen seenEnd isEnd _
    rw [pure_bind, seenEnd]
    rw [isEnd] at goesOn
    exact goesOn

/-- A token that is not the end is taken. -/
theorem follows_advance {next : Unit → Tracked β} {token : Token}
    (before : Before view.tokens places (token :: rest)) (inside : token.lexeme.isEnd = false)
    (goesOn : ∀ places', Before view.tokens places' rest → Follows view places' (next ()) result) :
    Follows view places (advance view.look >>= next) result := by
  have runs : advance view.look places = some (.ok (), (latest places + 1) :: places) := by
    change (if !(view.look (latest places)).isEnd then _ else _ : Tracked Unit) places = _
    have seen : view.look (latest places) = token.lexeme := before.shown.eq_of_inside inside
    rw [seen, inside]
    rfl
  unfold Follows
  rw [run_bind, runs]
  exact (goesOn _ (before.advance inside)).onward (List.suffix_cons _ _)

/-- A lexeme without value is taken if it comes next. -/
theorem follows_take {lexeme : Lexeme} {next : Bool → Tracked β}
    (before : Before view.tokens places rest) (inside : lexeme.isEnd = false)
    (taken : ∀ column others places', rest = ⟨lexeme, column⟩ :: others →
      Before view.tokens places' others → Follows view places' (next true) result)
    (missed : front rest ≠ lexeme → Follows view places (next false) result) :
    Follows view places (take view.look lexeme >>= next) result := by
  unfold take
  rw [bind_assoc]
  refine follows_peek before ?_ ?_
  · rintro ⟨other, column⟩ others rfl _
    by_cases same : other = lexeme
    · subst same
      simp only [if_true, bind_assoc, pure_bind]
      exact follows_advance before inside fun places' before' =>
        taken column others places' rfl before'
    · simp only [same, if_false, pure_bind]
      exact missed same
  · intro seen seenEnd isEnd _
    have other : seen ≠ lexeme := by
      rintro rfl
      exact absurd seenEnd (Bool.eq_false_iff.mp inside)
    simp only [other, if_false, pure_bind]
    refine missed ?_
    rintro rfl
    rw [front_isEnd, isEnd] at inside
    cases inside

/-- A lexeme without value that has to come next. -/
theorem follows_expect {lexeme : Lexeme} {next : Unit → Tracked β}
    {behind : Token × Rest rest → Except Malformed (β × List Token)}
    (before : Before view.tokens places rest)
    (goesOn : ∀ token after places', expectLexeme lexeme rest = .ok (token, after) →
      Before view.tokens places' after.1 →
        Follows view places' (next ()) (behind (token, after))) :
    Follows view places (expect view.look lexeme >>= next)
      (expectLexeme lexeme rest >>= behind) := by
  unfold expect
  rw [bind_assoc]
  refine follows_peek before ?_ ?_
  · rintro token others rfl inside
    by_cases fits : token.lexeme.isA lexeme.kind lexeme.text? = true
    · have taken : expectLexeme lexeme (token :: others) =
          .ok (token, ⟨others, Nat.lt_succ_self _⟩) := if_pos (by rw [inside, fits]; rfl)
      rw [taken]
      simp only [inside, fits, Bool.not_false, Bool.and_self, if_true]
      exact follows_advance before inside fun places' before' =>
        goesOn token _ places' taken before'
    · have refused : expectLexeme lexeme (token :: others) =
          .error (.expected lexeme.kind lexeme.text? token.lexeme.kind) :=
        if_neg fun both => fits (Bool.and_eq_true_iff.mp both).2
      rw [refused]
      simp only [fits, Bool.and_false, Bool.false_eq_true, if_false]
      exact follows_throw before (fun _ => rfl) (by simp)
  · intro seen seenEnd isEnd same
    have refused : expectLexeme lexeme rest = _ := expect_end isEnd lexeme.kind lexeme.text?
    rw [refused]
    simp only [seenEnd, Bool.not_true, Bool.false_and, Bool.false_eq_true, if_false]
    refine follows_throw before (fun faithful => ?_) (by simp)
    rw [same faithful, front_kind]

/-! ### The readers -/

theorem follows_expectName (before : Before view.tokens places rest) :
    Follows view places (expectName view.look) (plain (Parser.expectName rest)) := by
  unfold expectName
  refine follows_peek before ?_ ?_
  · rintro ⟨lexeme, column⟩ others rfl inside
    cases lexeme with
    | identifier name =>
      exact follows_advance before rfl fun places' before' => follows_pure before' name
    | _ => exact follows_throw before (fun _ => rfl) (by simp)
  · intro seen seenEnd isEnd same
    have refused : plain (Parser.expectName rest) =
        .error (.expected "IDENTIFIER" none (front rest).kind) := by
      unfold Parser.expectName
      split
      · cases isEnd
      · rw [front_kind]
        rfl
    rw [refused]
    cases seen <;> cases seenEnd
    all_goals exact follows_throw before (fun faithful => by rw [← same faithful]) (by simp)

/-- A number that has to be a line number. -/
theorem follows_toLineNumber {value : Value} {column : Nat} {next : Int → Tracked β}
    {behind : Int → Except Malformed (β × List Token)}
    (before : Before view.tokens places (⟨.number value, column⟩ :: rest))
    (goesOn : ∀ number places', toLineNumber value = .ok number →
      Before view.tokens places' rest → Follows view places' (next number) (behind number)) :
    Follows view places (lineNumber view.look >>= next) (toLineNumber value >>= behind) := by
  unfold lineNumber
  rw [bind_assoc]
  refine follows_peek before ?_ nofun
  rintro _ _ ⟨⟩ _
  simp only [bind_assoc]
  refine follows_advance before rfl fun places' before' => ?_
  rcases isNumber : toLineNumber value with reason | number
  · refine follows_throw before' (fun _ => rfl) fun isText => ?_
    cases value with
    | text text =>
      have member : ⟨.number (.text text), column⟩ ∈ view.tokens.drop (latest places) := by
        rw [before.left]
        exact List.mem_cons_self
      exact fun numbered => numbered _ (List.mem_of_mem_drop member) text rfl
    | number value => exact absurd isText (toLineNumber_refused (by simp) isNumber)
  · exact goesOn number places' isNumber before'

theorem follows_lineNumber (before : Before view.tokens places rest) :
    Follows view places (lineNumber view.look) (plain (Parser.lineNumber rest)) := by
  by_cases ahead : ∃ value column others, rest = ⟨.number value, column⟩ :: others
  · obtain ⟨value, column, others, rfl⟩ := ahead
    have same : plain (Parser.lineNumber (⟨.number value, column⟩ :: others)) =
        toLineNumber value >>= fun number => .ok (number, others) := by
      have taken : Parser.lineNumber (⟨.number value, column⟩ :: others) =
          (toLineNumber value).map fun number => (number, ⟨others, Nat.lt_succ_self _⟩) := rfl
      rw [taken]
      rcases toLineNumber value with reason | number <;> rfl
    rw [same, ← bind_pure (lineNumber view.look)]
    exact follows_toLineNumber before fun number places' _ before' => follows_pure before' number
  · have refused : plain (Parser.lineNumber rest) =
        .error (.expected "NUMBER" none (front rest).kind) := by
      unfold Parser.lineNumber
      split
      · exact absurd ⟨_, _, _, rfl⟩ ahead
      · rw [front_kind]
        rfl
    rw [refused]
    refine follows_peek before ?_ ?_
    · rintro ⟨lexeme, column⟩ others rfl _
      cases lexeme with
      | number value => exact absurd ⟨_, _, _, rfl⟩ ahead
      | _ => exact follows_throw before (fun _ => rfl) (by simp)
    · intro seen seenEnd isEnd same
      cases seen <;> cases seenEnd
      all_goals exact follows_throw before (fun faithful => by rw [← same faithful]) (by simp)

/-! ### The readers of tokens, step by step -/

section Equations

variable {column level : Nat}

theorem primary_end (isEnd : Parser.atEnd rest = true) :
    plain (Parser.primary rest) =
      .error (.unexpectedInExpression (front rest).kind (front rest).quote) := by
  rw [Parser.primary.eq_def]
  rcases rest with _ | ⟨⟨lexeme, column⟩, others⟩
  · rfl
  · cases lexeme <;> cases isEnd <;> rfl

theorem primary_opening :
    plain (Parser.primary (⟨.punctuation "(", column⟩ :: rest)) =
      Parser.chain 3 rest >>= fun (node, inner) =>
        expectLexeme (.punctuation ")") inner.1 >>= fun (_, after) => .ok (node, after.1) := by
  rw [Parser.primary]
  simp only
  rcases Parser.chain 3 rest with reason | ⟨node, inner, shorter⟩
  · rfl
  · simp only [bind, Except.bind]
    rcases expectLexeme (.punctuation ")") inner with reason | ⟨token, after, closed⟩ <;> rfl

theorem primary_minus :
    plain (Parser.primary (⟨.operator "-", column⟩ :: rest)) =
      Parser.primary rest >>= fun (node, after) => .ok (.unary "-" node, after.1) := by
  rw [Parser.primary]
  simp only
  rcases Parser.primary rest with reason | ⟨node, after, shorter⟩ <;> rfl

theorem chain_succ :
    plain (Parser.chain (level + 1) rest) =
      Parser.chain level rest >>= fun (left, after) => plain (Parser.extend level left after.1) := by
  rw [plain_chain_succ]
  rcases Parser.chain level rest with reason | ⟨left, after, shorter⟩ <;> rfl

theorem extend_operator {symbol : String} {left : Node}
    (member : symbol ∈ Node.operatorsAt (level + 1)) :
    plain (Parser.extend level left (⟨.operator symbol, column⟩ :: rest)) =
      Parser.chain level rest >>= fun (right, after) =>
        plain (Parser.extend level (.binary symbol left right) after.1) := by
  rw [plain_extend_cons member]
  rcases Parser.chain level rest with reason | ⟨right, after, shorter⟩ <;> rfl

end Equations

mutual

theorem follows_primary (depth : Nat) (rest : List Token) {places : List Nat}
    (before : Before view.tokens places rest) (deep : 5 * rest.length + 1 ≤ depth) :
    Follows view places (primary view.look depth) (plain (Parser.primary rest)) := by
  obtain ⟨depth, rfl⟩ := Nat.exists_eq_add_one_of_ne_zero (Nat.ne_zero_of_lt deep)
  rw [primary]
  refine follows_peek before ?_ ?_
  · rintro ⟨lexeme, column⟩ others rfl inside
    rw [List.length_cons] at deep
    simp only
    split
    · rw [Parser.primary]
      exact follows_advance before rfl fun places before => follows_pure before _
    · rw [Parser.primary]
      exact follows_advance before rfl fun places before => follows_pure before _
    · rw [Parser.primary]
      exact follows_advance before rfl fun places before => follows_pure before _
    · rw [primary_opening]
      refine follows_advance before rfl fun places before => ?_
      refine (follows_chain depth 3 others before (Nat.le_refl _) (by omega)).andThen
        fun node inner places _ before => ?_
      exact follows_expect before fun _ after places _ before => follows_pure before node
    · rw [primary_minus]
      refine follows_advance before rfl fun places before => ?_
      refine (follows_primary depth others before (by omega)).andThen
        fun node after places _ before => ?_
      exact follows_pure before _
    · rw [Parser.primary]
      simp only [*]
      exact follows_throw before (fun _ => rfl) (by simp)
  · intro seen seenEnd isEnd same
    rw [primary_end isEnd]
    cases seen <;> cases seenEnd
    all_goals exact follows_throw before (fun faithful => by rw [← same faithful]) (by simp)

theorem follows_chain (depth level : Nat) (rest : List Token) {places : List Nat}
    (before : Before view.tokens places rest) (known : level ≤ 3)
    (deep : 5 * rest.length + 2 + level ≤ depth) :
    Follows view places (chain view.look depth level) (plain (Parser.chain level rest)) := by
  obtain ⟨depth, rfl⟩ := Nat.exists_eq_add_one_of_ne_zero (n := depth) (by omega)
  match level with
  | 0 =>
    rw [chain, plain_chain_zero]
    exact follows_primary depth rest before (by omega)
  | tighter + 1 =>
    rw [chain, chain_succ]
    refine (follows_chain depth tighter rest before (by omega) (by omega)).andThen
      fun left after places _ before => ?_
    have shorter := after.2
    exact follows_extend depth tighter left after.1 before (by omega) (by omega)

theorem follows_extend (depth tighter : Nat) (left : Node) (rest : List Token)
    {places : List Nat} (before : Before view.tokens places rest) (known : tighter ≤ 2)
    (deep : 5 * rest.length + 1 ≤ depth) :
    Follows view places (extend view.look depth tighter left)
      (plain (Parser.extend tighter left rest)) := by
  obtain ⟨depth, rfl⟩ := Nat.exists_eq_add_one_of_ne_zero (Nat.ne_zero_of_lt deep)
  rw [extend]
  by_cases starts : startsWith (tighter + 1) rest
  · obtain ⟨symbol, column, others, rfl, member⟩ := cons_of_startsWith starts
    rw [List.length_cons] at deep
    rw [extend_operator member]
    refine follows_peek before ?_ nofun
    rintro _ _ ⟨⟩ _
    simp only [member, if_true]
    refine follows_advance before rfl fun places before => ?_
    refine (follows_chain depth tighter others before (by omega) (by omega)).andThen
      fun right after places _ before => ?_
    have shorter := after.2
    exact follows_extend depth tighter _ after.1 before known (by omega)
  · rw [plain_extend_stop starts]
    refine follows_peek before ?_ ?_
    · rintro ⟨lexeme, column⟩ others rfl _
      cases lexeme with
      | operator symbol =>
        have other : symbol ∉ Node.operatorsAt (tighter + 1) := starts
        simp only [other, if_false]
        exact follows_pure before left
      | _ => exact follows_pure before left
    · intro seen seenEnd _ _
      cases seen <;> cases seenEnd
      all_goals exact follows_pure before left

end

theorem Before.length_le {tokens : List Token} (before : Before tokens places rest) :
    rest.length ≤ tokens.length := by
  rw [← before.left, List.length_drop]
  exact Nat.sub_le _ _

/-- A depth that suffices for all the tokens suffices for what is left of them. -/
theorem Before.length_lt {tokens : List Token} {depth : Nat} (before : Before tokens places rest)
    (deep : 5 * tokens.length + 5 ≤ depth) : rest.length < depth := by
  have shorter := before.length_le
  omega

/-- The readers of an expression call one another at most five times for a token. -/
theorem follows_expression {depth : Nat} (deep : 5 * view.tokens.length + 5 ≤ depth)
    (before : Before view.tokens places rest) :
    Follows view places (expression view.look depth) (plain (Parser.expression rest)) := by
  have shorter := before.length_le
  exact follows_chain depth 3 rest before (Nat.le_refl _) (by omega)

end LineBasic.Parser.Tracked
