/-
**Writing trees as lexemes.**

A tree is written with parentheses only where the precedence of its operators demands them, with
the `LET` of an assignment and the `STEP` of a loop stated, and with a jump under a condition
written as a `GOTO`. What is written is a line of the grammar with that tree.

* `wellFormed_of_line` — the trees of lines are well formed;
* `line_words` — a well-formed tree is the tree of the words that it is written as.
-/

import LineBasic.Proofs.Grammar.Sentence

namespace LineBasic

namespace Node

/-- The level of an expression: that of its operator, or none. -/
def level : Node → Nat
  | binary operator _ _ =>
    if operator ∈ multiplications then 1 else if operator ∈ additions then 2 else 3
  | _ => 0

/-- Some words in parentheses, unless they may stand bare. -/
def bracketed (bare : Bool) (words : List Lexeme) : List Lexeme :=
  if bare then words else .punctuation "(" :: (words ++ [.punctuation ")"])

/-- The words of an expression: parentheses stand around a left operand of lower precedence, a
right operand of lower or equal precedence, and an operation under a minus sign. -/
def phrase : Node → List Lexeme
  | number value => [.number value]
  | string text => [.string text]
  | named name => [.identifier name]
  | node@(binary operator left right) =>
    bracketed (left.level ≤ node.level) left.phrase ++
      .operator operator :: bracketed (right.level < node.level) right.phrase
  | unary operator operand => .operator operator :: bracketed (operand.level = 0) operand.phrase
  | _ => []

/-- The words of printed items with their separators. -/
def printed : List Node → List String → List Lexeme
  | item :: items, separator :: separators =>
    item.phrase ++ .punctuation separator :: printed items separators
  | [item], [] => item.phrase
  | _, _ => []

/-- The words of a range of lines. -/
def rangeWords : Option Int → Option Int → List Lexeme
  | none, none => []
  | some first, none => [.number (.int first)]
  | none, some last => [.operator "-", .number (.int last)]
  | some first, some last => [.number (.int first), .operator "-", .number (.int last)]

/-- The words of a line or a statement. -/
def words : Node → List Lexeme
  | programLine place statement => .number (.int place) :: statement.words
  | print items separators => .keyword "PRINT" :: printed items separators
  | assign name value => .keyword "LET" :: .identifier name :: .operator "=" :: value.phrase
  | input prompt name =>
    .keyword "INPUT" ::
      ((if prompt = "" then [] else [.string prompt, .punctuation ";"]) ++ [.identifier name])
  | ifThen condition statement =>
    .keyword "IF" :: (condition.phrase ++ .keyword "THEN" :: statement.words)
  | goto line => [.keyword "GOTO", .number (.int line)]
  | forLoop name start limit step =>
    .keyword "FOR" :: .identifier name :: .operator "=" ::
      (start.phrase ++ .keyword "TO" :: (limit.phrase ++ .keyword "STEP" :: step.phrase))
  | next none => [.keyword "NEXT"]
  | next (some name) => [.keyword "NEXT", .identifier name]
  | remark text => .keyword "REM" :: if text = "" then [] else [.string text]
  | list first last => .keyword "LIST" :: rangeWords first last
  | stop => [.keyword "END"]
  | run => [.keyword "RUN"]
  | new => [.keyword "NEW"]
  | home => [.keyword "HOME"]
  | _ => []

end Node

namespace Parser

open Node

/-! ### The trees of lines are well formed -/

/-- A line number is positive. -/
theorem one_le_of_toLineNumber {value : Value} {number : Int}
    (isNumber : toLineNumber value = .ok number) : 1 ≤ number := by
  unfold toLineNumber at isNumber
  split at isNumber
  · cases isNumber
  · split at isNumber
    · cases isNumber
    · next notBelow =>
      cases isNumber
      omega
  · split at isNumber
    · split at isNumber
      · cases isNumber
      · next notBelow =>
        cases isNumber
        omega
    · cases isNumber

theorem Phrase.isExpression {level : Nat} {phrase : List Lexeme} {node : Node}
    (derives : Phrase level phrase node) : node.isExpression = true := by
  induction derives with
  | number value => rfl
  | string text => rfl
  | named name => rfl
  | parenthesised inner hypothesis => exact hypothesis
  | negated operand hypothesis => simpa [Node.isExpression] using hypothesis
  | tighter inner hypothesis => exact hypothesis
  | @joined level symbol _ _ _ _ ahead member behind hypothesis hypothesis' =>
    have known : symbol ∈ comparisons ++ additions ++ multiplications := by
      unfold operatorsAt at member
      split at member
      · simp [member]
      · simp [member]
      · simp [member]
      · cases member
    rw [Node.isExpression, hypothesis, hypothesis', List.contains_iff_mem.mpr known]
    rfl

theorem Items.wellFormed {words : List Lexeme} {items : List Node} {separators : List String}
    (derives : Items words items separators) :
    (∀ item ∈ items, item.isExpression = true) ∧
      (separators.length = items.length ∨ separators.length + 1 = items.length) ∧
      ∀ separator ∈ separators, separator = ";" ∨ separator = "," := by
  induction derives with
  | none => exact ⟨nofun, .inl rfl, nofun⟩
  | last derives =>
    refine ⟨fun item member => ?_, .inr rfl, nofun⟩
    rw [List.mem_singleton.mp member]
    exact derives.isExpression
  | more derives separates rest hypothesis =>
    obtain ⟨expressions, lengths, known⟩ := hypothesis
    refine ⟨fun item member => ?_, ?_, fun separator member => ?_⟩
    · rcases List.mem_cons.mp member with rfl | later
      · exact derives.isExpression
      · exact expressions item later
    · simp only [List.length_cons]
      omega
    · rcases List.mem_cons.mp member with rfl | later
      · exact separates
      · exact known separator later

theorem Range.positive {words : List Lexeme} {first last : Option Int}
    (range : Range words first last) : (∀ n ∈ first, 1 ≤ n) ∧ ∀ n ∈ last, 1 ≤ n := by
  cases range with
  | all => exact ⟨nofun, nofun⟩
  | one number => exact ⟨by simpa using one_le_of_toLineNumber number, nofun⟩
  | above number => exact ⟨by simpa using one_le_of_toLineNumber number, nofun⟩
  | between number number' =>
    exact ⟨by simpa using one_le_of_toLineNumber number,
      by simpa using one_le_of_toLineNumber number'⟩
  | below number => exact ⟨nofun, by simpa using one_le_of_toLineNumber number⟩

theorem Sentence.isStatement {words : List Lexeme} {node : Node} (derives : Sentence words node) :
    node.IsStatement := by
  induction derives with
  | print items =>
    obtain ⟨expressions, lengths, known⟩ := items.wellFormed
    exact .print expressions lengths known
  | assign name derives => exact .assign derives.isExpression
  | letAssign name derives => exact .assign derives.isExpression
  | input asks name => exact .input
  | ifLine derives number =>
    exact .ifThen derives.isExpression (.goto (one_le_of_toLineNumber number))
  | ifThen derives guarded hypothesis => exact .ifThen derives.isExpression hypothesis
  | goto number => exact .goto (one_le_of_toLineNumber number)
  | forLoop name derives derives' => exact .forLoop derives.isExpression derives'.isExpression rfl
  | forStep name derives derives' derives'' =>
    exact .forLoop derives.isExpression derives'.isExpression derives''.isExpression
  | next => exact .next
  | nextNamed name => exact .next
  | remark => exact .remark
  | remarkText text => exact .remark
  | list range => exact .list range.positive.1 range.positive.2
  | stop => exact .stop
  | run => exact .run
  | new => exact .new
  | home => exact .home

/-- **The trees of lines are well formed.** -/
theorem wellFormed_of_line {words : List Lexeme} {node : Node} (derives : Line words node) :
    node.WellFormed := by
  cases derives with
  | empty => exact .empty
  | bareNumber isNumber => exact .bareNumber (one_le_of_toLineNumber isNumber)
  | numbered isNumber derives =>
    exact .numbered (one_le_of_toLineNumber isNumber) derives.isStatement
  | immediate derives => exact .statement derives.isStatement

/-! ### A tree is written as a line with that tree -/

/-- A phrase of a level is one of every looser level. -/
theorem Phrase.looser {level looser : Nat} {phrase : List Lexeme} {node : Node}
    (derives : Phrase level phrase node) (within : level ≤ looser) : Phrase looser phrase node := by
  induction within with
  | refl => exact derives
  | step _ hypothesis => exact hypothesis.tighter

/-- An operand that has parentheses unless it binds tightly enough is a phrase of its place. -/
theorem phrase_bracketed {node : Node} {place : Nat} {bare : Bool}
    (derives : Phrase node.level node.phrase node) (fits : bare = true → node.level ≤ place)
    (loosest : node.level ≤ 3) : Phrase place (bracketed bare node.phrase) node := by
  cases bare with
  | true => exact derives.looser (fits rfl)
  | false => exact (Phrase.parenthesised (derives.looser loosest)).looser (Nat.zero_le _)

theorem level_le (node : Node) : node.level ≤ 3 := by
  unfold level
  split
  · split
    · omega
    · split <;> omega
  · omega

/-- An operation has a level, and its operator belongs to it. -/
theorem operator_at_level {operator : String} (left right : Node)
    (known : operator ∈ comparisons ++ additions ++ multiplications) :
    ∃ tighter, (binary operator left right).level = tighter + 1 ∧
      operator ∈ operatorsAt (tighter + 1) := by
  simp only [level]
  split
  · next member => exact ⟨0, rfl, member⟩
  · next notProduct =>
    split
    · next member => exact ⟨1, rfl, member⟩
    · next notSum =>
      have member : operator ∈ comparisons := by
        simpa [notProduct, notSum] using known
      exact ⟨2, rfl, member⟩

/-- **An expression is written as a phrase of its level.** -/
theorem phrase_derives {node : Node} (expression : node.isExpression = true) :
    Phrase node.level node.phrase node := by
  fun_induction Node.isExpression node with
  | case1 value => exact .number value
  | case2 text => exact .string text
  | case3 name => exact .named name
  | case4 operator left right hypothesis hypothesis' =>
    simp only [Bool.and_eq_true] at expression
    obtain ⟨⟨known, isLeft⟩, isRight⟩ := expression
    obtain ⟨tighter, level, member⟩ :=
      operator_at_level left right (List.contains_iff_mem.mp known)
    rw [Node.phrase, level]
    refine .joined ?_ member ?_
    · exact phrase_bracketed (hypothesis isLeft) (by simp) (level_le left)
    · exact phrase_bracketed (hypothesis' isRight)
        (fun bare => Nat.le_of_lt_succ (of_decide_eq_true bare)) (level_le right)
  | case5 operator operand hypothesis =>
    simp only [Bool.and_eq_true, beq_iff_eq] at expression
    obtain ⟨rfl, isOperand⟩ := expression
    exact .negated (phrase_bracketed (hypothesis isOperand) (by simp) (level_le operand))
  | case6 => cases expression

/-- Items are written as the items of a `PRINT`. -/
theorem items_printed {items : List Node} {separators : List String}
    (expressions : ∀ item ∈ items, item.isExpression = true)
    (lengths : separators.length = items.length ∨ separators.length + 1 = items.length)
    (known : ∀ separator ∈ separators, separator = ";" ∨ separator = ",") :
    Items (printed items separators) items separators := by
  induction items generalizing separators with
  | nil =>
    have none : separators = [] := by simpa using lengths
    rw [none]
    exact .none
  | cons item items hypothesis =>
    have derives : Phrase 3 item.phrase item :=
      (phrase_derives (expressions item List.mem_cons_self)).looser (level_le item)
    cases separators with
    | nil =>
      have none : items = [] := by simpa using lengths
      rw [none]
      exact .last derives
    | cons separator separators =>
      refine .more derives (known separator List.mem_cons_self) ?_
      exact hypothesis (fun other member => expressions other (List.mem_cons_of_mem _ member))
        (by simpa using lengths) (fun other member => known other (List.mem_cons_of_mem _ member))

/-- A positive integer is a line number. -/
theorem toLineNumber_int {number : Int} (positive : 1 ≤ number) :
    toLineNumber (.int number) = .ok number := by
  unfold toLineNumber
  exact if_neg (by omega)

theorem range_words {first last : Option Int} (positive : ∀ n ∈ first, 1 ≤ n)
    (positive' : ∀ n ∈ last, 1 ≤ n) : Range (rangeWords first last) first last := by
  cases first with
  | none =>
    cases last with
    | none => exact .all
    | some last => exact .below (toLineNumber_int (positive' last rfl))
  | some first =>
    have number := toLineNumber_int (positive first rfl)
    cases last with
    | none => exact .one number
    | some last => exact .between number (toLineNumber_int (positive' last rfl))

/-- **A statement is written as a sentence with its tree.** -/
theorem sentence_words {node : Node} (isStatement : node.IsStatement) :
    Sentence node.words node := by
  have whole : ∀ {node : Node}, node.isExpression = true → Phrase 3 node.phrase node :=
    fun expression => (phrase_derives expression).looser (level_le _)
  induction isStatement with
  | print expressions lengths known => exact .print (items_printed expressions lengths known)
  | assign expression => exact .letAssign _ (whole expression)
  | @input prompt name =>
    rw [Node.words]
    refine .input ?_ name
    split
    · next isEmpty =>
      rw [isEmpty]
      exact .none
    · exact .closed prompt
  | ifThen expression guarded hypothesis => exact .ifThen (whole expression) hypothesis
  | goto positive => exact .goto (toLineNumber_int positive)
  | forLoop first limit step => exact .forStep _ (whole first) (whole limit) (whole step)
  | @next name =>
    cases name with
    | none => exact .next
    | some name => exact .nextNamed name
  | @remark text =>
    rw [Node.words]
    split
    · next isEmpty =>
      rw [isEmpty]
      exact .remark
    · exact .remarkText text
  | stop => exact .stop
  | list positive positive' => exact .list (range_words positive positive')
  | run => exact .run
  | new => exact .new
  | home => exact .home

/-- **A well-formed tree is written as a line with that tree.** -/
theorem line_words {node : Node} (wellFormed : node.WellFormed) : Line node.words node := by
  cases wellFormed with
  | empty => exact .empty
  | statement isStatement => exact .immediate (sentence_words isStatement)
  | numbered positive isStatement =>
    exact .numbered (toLineNumber_int positive) (sentence_words isStatement)
  | bareNumber positive => exact .bareNumber (toLineNumber_int positive)

end Parser

end LineBasic
