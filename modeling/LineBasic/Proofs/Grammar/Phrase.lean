/-
**The grammar of expressions.**

A phrase of a level is made of operands joined by the operators of the level and of those that
bind more tightly; operands of the same level stand on the left only. The readers of expressions
accept the phrases of this grammar and give them its trees.

* `chain_sound` — what is read is a phrase, and the rest stands behind it;
* `chain_ends` — no operator of its levels comes next;
* `chain_complete` — a phrase is read whole, whatever follows that is no operator of its levels.
-/

import LineBasic.Syntax.Parser
import Mathlib

namespace LineBasic.Parser

open Node (operatorsAt)

/-- The phrases of a level of precedence, with their trees. -/
inductive Phrase : Nat → List Lexeme → Node → Prop where
  | number (value : Value) : Phrase 0 [.number value] (.number value)
  | string (text : String) : Phrase 0 [.string text] (.string text)
  | named (name : String) : Phrase 0 [.identifier name] (.named name)
  | parenthesised {phrase : List Lexeme} {node : Node} (inner : Phrase 3 phrase node) :
      Phrase 0 (.punctuation "(" :: (phrase ++ [.punctuation ")"])) node
  | negated {phrase : List Lexeme} {node : Node} (operand : Phrase 0 phrase node) :
      Phrase 0 (.operator "-" :: phrase) (.unary "-" node)
  | tighter {level : Nat} {phrase : List Lexeme} {node : Node} (inner : Phrase level phrase node) :
      Phrase (level + 1) phrase node
  | joined {level : Nat} {symbol : String} {first second : List Lexeme} {left right : Node}
      (ahead : Phrase (level + 1) first left) (member : symbol ∈ operatorsAt (level + 1))
      (behind : Phrase level second right) :
      Phrase (level + 1) (first ++ .operator symbol :: second) (.binary symbol left right)

/-! ### Readers without the lengths of their rests -/

/-- What a reader gives, without the bound on the length of its rest. -/
def plain {Within : List Token → Prop} {α : Type}
    (result : Except Malformed (α × { rest : List Token // Within rest })) :
    Except Malformed (α × List Token) :=
  match result with
  | .error reason => .error reason
  | .ok (value, rest) => .ok (value, rest.1)

section Plain

variable {tokens rest : List Token} {level column : Nat} {left : Node} {symbol : String}

theorem plain_chain_zero : plain (chain 0 tokens) = plain (primary tokens) := by
  rw [chain]

theorem plain_chain_succ :
    plain (chain (level + 1) tokens) =
      match plain (chain level tokens) with
      | .error reason => .error reason
      | .ok (left, rest) => plain (extend level left rest) := by
  rw [chain]
  rcases chain level tokens with reason | ⟨left, rest, shorter⟩
  · rfl
  · simp only [plain]
    rcases extend level left rest with reason | ⟨node, after, notLonger⟩ <;> rfl

/-- An operator of the level goes on with its right operand. -/
theorem plain_extend_cons (member : symbol ∈ operatorsAt (level + 1)) :
    plain (extend level left (⟨.operator symbol, column⟩ :: rest)) =
      match plain (chain level rest) with
      | .error reason => .error reason
      | .ok (right, after) => plain (extend level (.binary symbol left right) after) := by
  rw [extend, if_pos member]
  rcases chain level rest with reason | ⟨right, after, shorter⟩
  · rfl
  · simp only [plain]
    rcases extend level (.binary symbol left right) after with reason | ⟨node, last, notLonger⟩ <;>
      rfl

/-- Whether some tokens start with an operator of a level. -/
def startsWith (level : Nat) : List Token → Prop
  | ⟨.operator symbol, _⟩ :: _ => symbol ∈ operatorsAt level
  | _ => False

theorem cons_of_startsWith (starts : startsWith level tokens) :
    ∃ symbol column others, tokens = ⟨.operator symbol, column⟩ :: others ∧
      symbol ∈ operatorsAt level := by
  unfold startsWith at starts
  split at starts
  · exact ⟨_, _, _, rfl, starts⟩
  · exact starts.elim

/-- Anything else ends the operators of the level. -/
theorem plain_extend_stop (stops : ¬ startsWith (level + 1) tokens) :
    plain (extend level left tokens) = .ok (left, tokens) := by
  unfold extend
  split
  · next symbol column rest =>
    have other : symbol ∉ operatorsAt (level + 1) := stops
    rw [if_neg other]
    rfl
  · rfl

end Plain

/-! ### What is read is a phrase -/

/-- Whether a lexeme is a word of the language, an operator or a mark. -/
def isSign : Lexeme → Bool
  | .keyword _ => true
  | .operator _ => true
  | .punctuation _ => true
  | _ => false

/-- The kinds of the lexemes that lines spell. -/
def nativeKinds : List String :=
  ["NUMBER", "STRING", "KEYWORD", "IDENTIFIER", "OPERATOR", "PUNCTUATION", "EOL", "EOF"]

/-- Foreign tokens are of kinds of their own. -/
def Native (tokens : List Token) : Prop :=
  ∀ token ∈ tokens, ∀ kind text, token.lexeme = .foreign kind text → kind ∉ nativeKinds

theorem Native.rest {taken rest : List Token} (native : Native (taken ++ rest)) : Native rest :=
  fun token member => native token (List.mem_append_right taken member)

theorem Native.tail {token : Token} {rest : List Token} (native : Native (token :: rest)) :
    Native rest :=
  fun other member => native other (List.mem_cons_of_mem token member)

/-- A lexeme of the kind and the text of a sign is that sign. -/
theorem eq_of_isA {lexeme other : Lexeme} (sign : isSign lexeme = true)
    (native : ∀ kind text, other = .foreign kind text → kind ∉ nativeKinds)
    (same : other.isA lexeme.kind lexeme.text? = true) : other = lexeme := by
  cases lexeme <;> cases sign
  all_goals
    cases other with
    | foreign kind text =>
      have apart := native kind text rfl
      simp_all [Lexeme.isA, Lexeme.kind, nativeKinds]
    | _ => simp_all [Lexeme.isA, Lexeme.kind, Lexeme.text?]

/-- The lexeme that is taken stands at the front. -/
theorem expectLexeme_sound {lexeme : Lexeme} {tokens : List Token} {token : Token}
    {rest : Rest tokens} (native : Native tokens) (sign : isSign lexeme = true)
    (taken : expectLexeme lexeme tokens = .ok (token, rest)) :
    tokens = token :: rest.1 ∧ token.lexeme = lexeme := by
  unfold expectLexeme expect at taken
  split at taken
  · cases taken
  · split at taken
    · next isNext =>
      cases taken
      rw [Bool.and_eq_true] at isNext
      exact ⟨rfl, eq_of_isA sign (native _ List.mem_cons_self) isNext.2⟩
    · cases taken

/-- What has been read, with its tree, stands before the rest. -/
def ReadAs (level : Nat) (tokens : List Token) (node : Node) (rest : List Token) : Prop :=
  ∃ taken, tokens = taken ++ rest ∧ Phrase level (taken.map Token.lexeme) node

mutual

theorem primary_sound (tokens : List Token) (native : Native tokens) {node : Node}
    {rest : List Token} (read : plain (primary tokens) = .ok (node, rest)) :
    ReadAs 0 tokens node rest := by
  cases tokens with
  | nil =>
    rw [primary] at read
    cases read
  | cons token others =>
    obtain ⟨lexeme, column⟩ := token
    rw [primary] at read
    simp only at read
    split at read
    · cases read
      exact ⟨[_], rfl, .number _⟩
    · cases read
      exact ⟨[_], rfl, .string _⟩
    · cases read
      exact ⟨[_], rfl, .named _⟩
    · rcases inside : chain 3 others with reason | ⟨inner, ⟨after, shorter⟩⟩
      all_goals rw [inside] at read
      · cases read
      · obtain ⟨taken, shape, phrase⟩ : ReadAs 3 others inner after :=
          chain_sound 3 others native.tail (congrArg plain inside)
        have nativeAfter : Native after := (shape ▸ native.tail).rest
        simp only at read
        rcases closing : expectLexeme (.punctuation ")") after with reason | ⟨last, ⟨end_, _⟩⟩
        all_goals rw [closing] at read
        · cases read
        · obtain ⟨same, isClosing⟩ := expectLexeme_sound nativeAfter rfl closing
          cases read
          refine ⟨⟨.punctuation "(", column⟩ :: (taken ++ [last]), ?_, ?_⟩
          · simp [shape, same]
          · rw [List.map_cons, List.map_append, List.map_singleton, isClosing]
            exact .parenthesised phrase
    · rcases inside : primary others with reason | ⟨operand, ⟨after, shorter⟩⟩
      all_goals rw [inside] at read
      · cases read
      · obtain ⟨taken, shape, phrase⟩ : ReadAs 0 others operand after :=
          primary_sound others native.tail (congrArg plain inside)
        cases read
        exact ⟨⟨.operator "-", column⟩ :: taken, congrArg _ shape, .negated phrase⟩
    · cases read
termination_by (tokens.length, 0, 0)

theorem chain_sound (level : Nat) (tokens : List Token) (native : Native tokens) {node : Node}
    {rest : List Token} (read : plain (chain level tokens) = .ok (node, rest)) :
    ReadAs level tokens node rest := by
  match level with
  | 0 =>
    rw [plain_chain_zero] at read
    exact primary_sound tokens native read
  | level + 1 =>
    rw [plain_chain_succ] at read
    rcases ahead : chain level tokens with reason | ⟨left, ⟨after, shorter⟩⟩
    all_goals rw [ahead] at read
    · cases read
    · obtain ⟨taken, shape, phrase⟩ : ReadAs level tokens left after :=
        chain_sound level tokens native (congrArg plain ahead)
      have nativeAfter : Native after := (shape ▸ native).rest
      obtain ⟨more, shape', phrase'⟩ :=
        extend_sound level left after nativeAfter phrase.tighter read
      refine ⟨taken ++ more, ?_, ?_⟩
      · rw [shape, shape', List.append_assoc]
      · rw [List.map_append]
        exact phrase'
termination_by (tokens.length, level, 1)

/-- The operators that follow a phrase of the level go on with it. -/
theorem extend_sound (level : Nat) (left : Node) (tokens : List Token) (native : Native tokens)
    {before : List Lexeme} (ahead : Phrase (level + 1) before left) {node : Node}
    {rest : List Token} (read : plain (extend level left tokens) = .ok (node, rest)) :
    ∃ taken, tokens = taken ++ rest ∧
      Phrase (level + 1) (before ++ taken.map Token.lexeme) node := by
  by_cases starts : startsWith (level + 1) tokens
  · obtain ⟨symbol, column, others, rfl, member⟩ := cons_of_startsWith starts
    rw [plain_extend_cons member] at read
    rcases inside : chain level others with reason | ⟨right, ⟨after, shorter⟩⟩
    all_goals rw [inside] at read
    · cases read
    · obtain ⟨taken, shape, phrase⟩ : ReadAs level others right after :=
        chain_sound level others native.tail (congrArg plain inside)
      have nativeAfter : Native after := (shape ▸ native.tail).rest
      obtain ⟨more, shape', phrase'⟩ := extend_sound level (.binary symbol left right) after
        nativeAfter (ahead.joined member phrase) read
      refine ⟨⟨.operator symbol, column⟩ :: (taken ++ more), ?_, ?_⟩
      · simp [shape, shape']
      · simpa using phrase'
  · rw [plain_extend_stop starts] at read
    cases read
    exact ⟨[], rfl, by simpa using ahead⟩
termination_by (tokens.length, 0, 0)

end

/-! ### What comes behind what is read -/

/-- Tokens go on with no operator of a level or of those that bind more tightly. -/
def Ends (level : Nat) (rest : List Token) : Prop :=
  ∀ other ≤ level, ¬ startsWith other rest

/-- Reading on behind a left operand ends where no operator of the level comes next. -/
theorem extend_ends {level : Nat} {left node : Node} {tokens rest : List Token}
    (operands : ∀ {tokens : List Token} {node : Node} {rest : List Token},
      plain (chain level tokens) = .ok (node, rest) → Ends level rest)
    (ends : Ends level tokens) (read : plain (extend level left tokens) = .ok (node, rest)) :
    Ends (level + 1) rest := by
  by_cases starts : startsWith (level + 1) tokens
  · obtain ⟨symbol, column, others, shape, member⟩ := cons_of_startsWith starts
    rw [shape, plain_extend_cons member] at read
    rcases inside : chain level others with reason | ⟨right, ⟨after, shorter⟩⟩
    all_goals rw [inside] at read
    · cases read
    · exact extend_ends operands (operands (congrArg plain inside)) read
  · rw [plain_extend_stop starts] at read
    cases read
    intro other within
    rcases Nat.le_succ_iff.mp within with below | same
    · exact ends other below
    · rw [same]
      exact starts
termination_by tokens.length
decreasing_by
  rw [shape, List.length_cons]
  omega

/-- **No operator comes next behind what is read**, neither of the level nor of those that bind
more tightly. -/
theorem chain_ends {level : Nat} {tokens rest : List Token} {node : Node}
    (read : plain (chain level tokens) = .ok (node, rest)) : Ends level rest := by
  induction level generalizing tokens node rest with
  | zero =>
    intro other within starts
    obtain ⟨symbol, column, others, rfl, member⟩ := cons_of_startsWith starts
    rw [Nat.le_zero.mp within] at member
    cases member
  | succ level hypothesis =>
    rw [plain_chain_succ] at read
    rcases ahead : chain level tokens with reason | ⟨left, ⟨after, shorter⟩⟩
    all_goals rw [ahead] at read
    · cases read
    · exact extend_ends hypothesis (hypothesis (congrArg plain ahead)) read

/-! ### A phrase is read whole -/

/-- An operator belongs to one level only. -/
theorem level_unique {symbol : String} {level other : Nat} (member : symbol ∈ operatorsAt level)
    (member' : symbol ∈ operatorsAt other) : level = other := by
  have levels : ∀ level, symbol ∈ operatorsAt level →
      (level = 1 ∧ symbol ∈ Node.multiplications) ∨ (level = 2 ∧ symbol ∈ Node.additions) ∨
        (level = 3 ∧ symbol ∈ Node.comparisons) := by
    intro level member
    unfold operatorsAt at member
    split at member
    · exact .inl ⟨rfl, member⟩
    · exact .inr (.inl ⟨rfl, member⟩)
    · exact .inr (.inr ⟨rfl, member⟩)
    · cases member
  have apart : ∀ symbol ∈ Node.multiplications ++ Node.additions ++ Node.comparisons,
      (symbol ∈ Node.multiplications → symbol ∉ Node.additions ++ Node.comparisons) ∧
        (symbol ∈ Node.additions → symbol ∉ Node.comparisons) := by
    decide
  have := apart symbol
  simp only [List.mem_append, not_or] at this
  rcases levels level member with ⟨rfl, one⟩ | ⟨rfl, one⟩ | ⟨rfl, one⟩ <;>
    rcases levels other member' with ⟨rfl, two⟩ | ⟨rfl, two⟩ | ⟨rfl, two⟩ <;>
    simp_all

/-- An operator of the next level ends the operands of a level. -/
theorem ends_of_operator {level column : Nat} {symbol : String} {rest : List Token}
    (member : symbol ∈ operatorsAt (level + 1)) :
    Ends level (⟨.operator symbol, column⟩ :: rest) := by
  intro other within starts
  have same : level + 1 = other := level_unique member starts
  omega

/-- How a phrase of a level is read from the front of some tokens. -/
def IsRead (taken : List Token) (node : Node) : Nat → Prop
  | 0 => ∀ rest, plain (primary (taken ++ rest)) = .ok (node, rest)
  | level + 1 => ∀ rest, Ends level rest →
    plain (chain (level + 1) (taken ++ rest)) = plain (extend level node rest)

/-- A phrase that nothing follows is read whole. -/
theorem IsRead.whole {taken rest : List Token} {node : Node} {level : Nat}
    (isRead : IsRead taken node level) (ends : Ends level rest) :
    plain (chain level (taken ++ rest)) = .ok (node, rest) := by
  cases level with
  | zero =>
    rw [plain_chain_zero]
    exact isRead rest
  | succ level =>
    rw [isRead rest fun other within => ends other (by omega)]
    exact plain_extend_stop (ends (level + 1) (Nat.le_refl _))

/-- An expression in parentheses is read like the expression. -/
theorem plain_primary_parenthesised {tokens rest : List Token} {opening closing : Token}
    {node : Node} (opens : opening.lexeme = .punctuation "(")
    (closes : closing.lexeme = .punctuation ")")
    (inner : plain (chain 3 tokens) = .ok (node, closing :: rest)) :
    plain (primary (opening :: tokens)) = .ok (node, rest) := by
  rw [primary]
  simp only [opens]
  rcases inside : chain 3 tokens with reason | ⟨node', ⟨after, shorter⟩⟩
  · rw [inside] at inner
    cases inner
  · rw [inside] at inner
    cases inner
    have taken : expectLexeme (.punctuation ")") (closing :: rest) =
        .ok (closing, ⟨rest, Nat.lt_succ_self _⟩) := by
      rw [expectLexeme, expect, closes]
      rfl
    simp only [taken]
    rfl

/-- A minus sign before an operand is read with it. -/
theorem plain_primary_negated {tokens rest : List Token} {minus : Token} {node : Node}
    (isMinus : minus.lexeme = .operator "-")
    (inner : plain (primary tokens) = .ok (node, rest)) :
    plain (primary (minus :: tokens)) = .ok (.unary "-" node, rest) := by
  rw [primary]
  simp only [isMinus]
  rcases inside : primary tokens with reason | ⟨node', ⟨after, shorter⟩⟩
  · rw [inside] at inner
    cases inner
  · rw [inside] at inner
    cases inner
    rfl

/-- **A phrase is read whole**, from whatever tokens that spell it. -/
theorem phrase_isRead {level : Nat} {phrase : List Lexeme} {node : Node}
    (derives : Phrase level phrase node) (taken : List Token)
    (spelled : taken.map Token.lexeme = phrase) : IsRead taken node level := by
  induction derives generalizing taken with
  | number value =>
    obtain ⟨token, rfl, isNumber⟩ := List.map_eq_singleton_iff.mp spelled
    intro rest
    rw [List.singleton_append, primary]
    simp only [isNumber]
    rfl
  | string text =>
    obtain ⟨token, rfl, isString⟩ := List.map_eq_singleton_iff.mp spelled
    intro rest
    rw [List.singleton_append, primary]
    simp only [isString]
    rfl
  | named name =>
    obtain ⟨token, rfl, isName⟩ := List.map_eq_singleton_iff.mp spelled
    intro rest
    rw [List.singleton_append, primary]
    simp only [isName]
    rfl
  | parenthesised inner hypothesis =>
    obtain ⟨opening, others, rfl, opens, behind⟩ := List.map_eq_cons_iff.mp spelled
    obtain ⟨inside, last, rfl, isInside, isLast⟩ := List.map_eq_append_iff.mp behind
    obtain ⟨closing, rfl, closes⟩ := List.map_eq_singleton_iff.mp isLast
    intro rest
    have ends : Ends 3 (closing :: rest) := by
      intro other _ starts
      obtain ⟨_, column⟩ := closing
      cases closes
      exact starts
    have shape : opening :: (inside ++ [closing]) ++ rest =
        opening :: (inside ++ closing :: rest) := by
      simp
    rw [shape]
    exact plain_primary_parenthesised opens closes ((hypothesis inside isInside).whole ends)
  | negated operand hypothesis =>
    obtain ⟨minus, others, rfl, isMinus, behind⟩ := List.map_eq_cons_iff.mp spelled
    intro rest
    exact plain_primary_negated isMinus (hypothesis others behind rest)
  | @tighter level phrase node inner hypothesis =>
    intro rest ends
    rw [plain_chain_succ, (hypothesis taken spelled).whole ends]
  | @joined level symbol first second left right ahead member behind hypothesis hypothesis' =>
    obtain ⟨front, others, rfl, isFront, isOthers⟩ := List.map_eq_append_iff.mp spelled
    obtain ⟨operator, back, rfl, isOperator, isBack⟩ := List.map_eq_cons_iff.mp isOthers
    obtain ⟨_, column⟩ := operator
    cases isOperator
    intro rest ends
    rw [List.append_assoc, List.cons_append, hypothesis front isFront _ (ends_of_operator member),
      plain_extend_cons member, (hypothesis' back isBack).whole ends]

/-- **An expression is read whole**, if no operator follows it. -/
theorem chain_complete {level : Nat} {taken rest : List Token} {node : Node}
    (derives : Phrase level (taken.map Token.lexeme) node) (ends : Ends level rest) :
    plain (chain level (taken ++ rest)) = .ok (node, rest) :=
  (phrase_isRead derives taken rfl).whole ends

end LineBasic.Parser
