/-
**Reading a statement from tokens.**

A line is nothing, a statement, or a line number with a statement or nothing after it. A reader
takes tokens from the front and stops at the first one that cannot continue; what follows a
complete statement is ignored, and nothing is read past the end of the line. Binary operators
group to the left on three levels: comparisons bind most loosely, then additions, then
multiplications.

* `Rest` — a reader of expressions hands back fewer tokens than it was given, so reading ends;
* `expect_end`, `statement_end` — nothing is taken at the end of the line.
-/

import LineBasic.Failure
import LineBasic.Syntax.Node
import LineBasic.Syntax.Token

namespace LineBasic

namespace Parser

/-- What is left of some tokens after at least one has been taken. -/
abbrev Rest (tokens : List Token) :=
  { rest : List Token // rest.length < tokens.length }

/-- Whether the line ends here. -/
def atEnd : List Token → Bool
  | [] => true
  | token :: _ => token.lexeme.isEnd

/-- The kind of the next token; past the last one the input ends. -/
def nextKind : List Token → String
  | [] => Lexeme.endOfInput.kind
  | token :: _ => token.lexeme.kind

/-- Take the next token if it is of a kind and, if a text is given, has that text. -/
def expect (kind : String) (text : Option String) (tokens : List Token) :
    Except Malformed (Token × Rest tokens) :=
  match tokens with
  | [] => .error (.expected kind text Lexeme.endOfInput.kind)
  | token :: rest =>
    if !token.lexeme.isEnd && token.lexeme.isA kind text then
      .ok (token, ⟨rest, Nat.lt_succ_self _⟩)
    else .error (.expected kind text token.lexeme.kind)

/-- Take the next token if it is a lexeme without value, such as a word or an operator. -/
def expectLexeme (lexeme : Lexeme) (tokens : List Token) :
    Except Malformed (Token × Rest tokens) :=
  expect lexeme.kind lexeme.text? tokens

/-- Take a name. -/
def expectName (tokens : List Token) : Except Malformed (String × Rest tokens) :=
  match tokens with
  | ⟨.identifier name, _⟩ :: rest => .ok (name, ⟨rest, Nat.lt_succ_self _⟩)
  | _ => .error (.expected "IDENTIFIER" none (nextKind tokens))

/-- The tokens after a given lexeme, or all of them if another one comes next. -/
def skip (lexeme : Lexeme) (tokens : List Token) : List Token :=
  match tokens with
  | token :: rest => if token.lexeme = lexeme then rest else tokens
  | [] => []

/-- The line number that a value stands for: a positive integer, perhaps written with a point. -/
def toLineNumber : Value → Except Malformed Int
  | .text _ => .error .textAsLineNumber
  | .number (.int n) => if n < 1 then .error (.illegalLineNumber (.int n)) else .ok n
  | .number (.real x) =>
    match Number.wholeValue? x with
    | some n => if n < 1 then .error (.illegalLineNumber (.int n)) else .ok n
    | none => .error (.illegalLineNumber (.real x))

/-- Take a line number. -/
def lineNumber (tokens : List Token) : Except Malformed (Int × Rest tokens) :=
  match tokens with
  | ⟨.number value, _⟩ :: rest =>
    (toLineNumber value).map fun n => (n, ⟨rest, Nat.lt_succ_self _⟩)
  | _ => .error (.expected "NUMBER" none (nextKind tokens))

/-! ### Expressions -/

mutual

/-- A number, a text, a variable, an expression in parentheses, or one of these with a minus
sign before it. -/
def primary (tokens : List Token) : Except Malformed (Node × Rest tokens) :=
  match tokens with
  | [] => .error (.unexpectedInExpression Lexeme.endOfInput.kind Lexeme.endOfInput.quote)
  | token :: rest =>
    match token.lexeme with
    | .number value => .ok (.number value, ⟨rest, Nat.lt_succ_self _⟩)
    | .string text => .ok (.string text, ⟨rest, Nat.lt_succ_self _⟩)
    | .identifier name => .ok (.named name, ⟨rest, Nat.lt_succ_self _⟩)
    | .punctuation "(" =>
      match chain 3 rest with
      | .error reason => .error reason
      | .ok (node, ⟨inner, shorter⟩) =>
        match expectLexeme (.punctuation ")") inner with
        | .error reason => .error reason
        | .ok (_, ⟨after, closed⟩) =>
          .ok (node, ⟨after, by simp only [List.length_cons]; omega⟩)
    | .operator "-" =>
      match primary rest with
      | .error reason => .error reason
      | .ok (node, ⟨after, shorter⟩) =>
        .ok (.unary "-" node, ⟨after, by simp only [List.length_cons]; omega⟩)
    | lexeme => .error (.unexpectedInExpression lexeme.kind lexeme.quote)
termination_by (tokens.length, 0, 0)

/-- Operands joined by the operators of a level and of the levels that bind more tightly. -/
def chain (level : Nat) (tokens : List Token) : Except Malformed (Node × Rest tokens) :=
  match level with
  | 0 => primary tokens
  | tighter + 1 =>
    match chain tighter tokens with
    | .error reason => .error reason
    | .ok (left, ⟨rest, shorter⟩) =>
      match extend tighter left rest with
      | .error reason => .error reason
      | .ok (node, ⟨after, notLonger⟩) => .ok (node, ⟨after, by omega⟩)
termination_by (tokens.length, level, 1)

/-- The operators of the level above `tighter` that follow a left operand, with their right
operands, grouped to the left. -/
def extend (tighter : Nat) (left : Node) (tokens : List Token) :
    Except Malformed (Node × { rest : List Token // rest.length ≤ tokens.length }) :=
  match tokens with
  | ⟨.operator symbol, column⟩ :: rest =>
    if symbol ∈ Node.operatorsAt (tighter + 1) then
      match chain tighter rest with
      | .error reason => .error reason
      | .ok (right, ⟨after, shorter⟩) =>
        match extend tighter (.binary symbol left right) after with
        | .error reason => .error reason
        | .ok (node, ⟨last, notLonger⟩) =>
          .ok (node, ⟨last, by simp only [List.length_cons]; omega⟩)
    else .ok (left, ⟨⟨.operator symbol, column⟩ :: rest, Nat.le_refl _⟩)
  | tokens => .ok (left, ⟨tokens, Nat.le_refl _⟩)
termination_by (tokens.length, 0, 0)

end

/-- An expression. -/
def expression (tokens : List Token) : Except Malformed (Node × Rest tokens) :=
  chain 3 tokens

/-! ### Statements -/

/-- The separator that comes next, and the tokens after it. -/
def separator? (tokens : List Token) : Option (String × Rest tokens) :=
  match tokens with
  | [] => none
  | token :: rest =>
    if token.lexeme = .punctuation ";" then some (";", ⟨rest, Nat.lt_succ_self _⟩)
    else if token.lexeme = .punctuation "," then some (",", ⟨rest, Nat.lt_succ_self _⟩)
    else none

/-- The items of a `PRINT` with the separators after them; the last item may have one. -/
def printItems (tokens : List Token) :
    Except Malformed (List Node × List String × List Token) :=
  if atEnd tokens then .ok ([], [], tokens)
  else
    match expression tokens with
    | .error reason => .error reason
    | .ok (item, ⟨rest, _⟩) =>
      match separator? rest with
      | none => .ok ([item], [], rest)
      | some (separator, ⟨after, _⟩) =>
        match printItems after with
        | .error reason => .error reason
        | .ok (items, separators, last) => .ok (item :: items, separator :: separators, last)
termination_by tokens.length
decreasing_by omega

/-- A name, the equals sign and an expression. -/
def assignment (tokens : List Token) : Except Malformed (Node × List Token) := do
  let (name, ⟨afterName, _⟩) ← expectName tokens
  let (_, ⟨afterEquals, _⟩) ← expectLexeme (.operator "=") afterName
  let (value, ⟨rest, _⟩) ← expression afterEquals
  return (.assign name value, rest)

/-- The prompt of an `INPUT`, and what follows it: a comma after it belongs to the prompt, a
semicolon does not. -/
def inputPrompt (tokens : List Token) : String × List Token :=
  match tokens with
  | ⟨.string text, _⟩ :: ⟨.punctuation ",", _⟩ :: rest => (text ++ ",", rest)
  | ⟨.string text, _⟩ :: rest => (text, skip (.punctuation ";") rest)
  | _ => ("", tokens)

/-- The prompt, if there is one, and a name. -/
def inputStatement (tokens : List Token) : Except Malformed (Node × List Token) := do
  let (prompt, afterPrompt) := inputPrompt tokens
  let (name, ⟨rest, _⟩) ← expectName afterPrompt
  return (.input prompt name, rest)

/-- A name, the equals sign, and the first and last value and the step of a loop. -/
def loopStatement (tokens : List Token) : Except Malformed (Node × List Token) := do
  let (name, ⟨afterName, _⟩) ← expectName tokens
  let (_, ⟨afterEquals, _⟩) ← expectLexeme (.operator "=") afterName
  let (start, ⟨afterStart, _⟩) ← expression afterEquals
  let (_, ⟨afterTo, _⟩) ← expectLexeme (.keyword "TO") afterStart
  let (limit, ⟨afterLimit, _⟩) ← expression afterTo
  match afterLimit with
  | ⟨.keyword "STEP", _⟩ :: afterStep =>
    let (step, ⟨rest, _⟩) ← expression afterStep
    return (.forLoop name start limit step, rest)
  | _ => return (.forLoop name start limit Node.unitStep, afterLimit)

/-- A range of lines: a first line, a last one after a minus sign, or both. -/
def listStatement (tokens : List Token) : Except Malformed (Node × List Token) := do
  match tokens with
  | ⟨.number value, _⟩ :: rest =>
    let first ← toLineNumber value
    match rest with
    | ⟨.operator "-", _⟩ :: ⟨.number value, _⟩ :: after =>
      let last ← toLineNumber value
      return (.list (some first) (some last), after)
    | _ => return (.list (some first) none, skip (.operator "-") rest)
  | ⟨.operator "-", _⟩ :: after =>
    let (last, ⟨rest, _⟩) ← lineNumber after
    return (.list none (some last), rest)
  | _ => return (.list none none, tokens)

/-- The name of a loop, if there is one. -/
def nextStatement (tokens : List Token) : Node × List Token :=
  match tokens with
  | ⟨.identifier name, _⟩ :: rest => (.next (some name), rest)
  | _ => (.next none, tokens)

/-- The text of a remark, if there is one. -/
def remarkStatement (tokens : List Token) : Node × List Token :=
  match tokens with
  | ⟨.string text, _⟩ :: rest => (.remark text, rest)
  | _ => (.remark "", tokens)

/-- The number that comes next, and the tokens after it. -/
def numberAhead? (tokens : List Token) : Option (Value × List Token) :=
  match tokens with
  | ⟨.number value, _⟩ :: rest => some (value, rest)
  | _ => none

/-- A statement. -/
def statement (tokens : List Token) : Except Malformed (Node × List Token) :=
  match tokens with
  | [] => .error (.unexpectedToken Lexeme.endOfInput.kind)
  | token :: rest =>
    match token.lexeme with
    | .keyword "PRINT" =>
      (printItems rest).map fun (items, separators, after) => (.print items separators, after)
    | .keyword "LET" => assignment rest
    | .keyword "INPUT" => inputStatement rest
    | .keyword "IF" =>
      match expression rest with
      | .error reason => .error reason
      | .ok (condition, ⟨afterCondition, _⟩) =>
        match expectLexeme (.keyword "THEN") afterCondition with
        | .error reason => .error reason
        | .ok (_, ⟨afterThen, _⟩) =>
          match numberAhead? afterThen with
          | some (value, after) =>
            (toLineNumber value).map fun line => (.ifThen condition (.goto line), after)
          | none =>
            (statement afterThen).map fun (node, after) => (.ifThen condition node, after)
    | .keyword "GOTO" =>
      (lineNumber rest).map fun (line, ⟨after, _⟩) => (.goto line, after)
    | .keyword "FOR" => loopStatement rest
    | .keyword "NEXT" => .ok (nextStatement rest)
    | .keyword "REM" => .ok (remarkStatement rest)
    | .keyword "LIST" => listStatement rest
    | .keyword "END" => .ok (.stop, rest)
    | .keyword "RUN" => .ok (.run, rest)
    | .keyword "NEW" => .ok (.new, rest)
    | .keyword "HOME" => .ok (.home, rest)
    | .keyword word => .error (.unknownKeyword word)
    | .identifier _ => assignment tokens
    | lexeme => .error (.unexpectedToken lexeme.kind)
termination_by tokens.length
decreasing_by
  simp only [List.length_cons]
  omega

/-- A line: nothing, a statement, or a line number with a statement or nothing after it. Nothing
bounds how deeply a line may nest. A runtime that bounds its nested calls, to a thousand as is
common, gives up with an error of its own on a line of about two hundred nested brackets; that bound
is a setting of the runtime and not modelled. -/
def line (tokens : List Token) : Except Malformed Node :=
  if atEnd tokens then .ok .empty
  else
    match numberAhead? tokens with
    | some (value, rest) =>
      match toLineNumber value with
      | .error reason => .error reason
      | .ok number =>
        if atEnd rest then .ok (.programLine number .empty)
        else (statement rest).map fun (node, _) => .programLine number node
    | none => (statement tokens).map Prod.fst

/-! ### Nothing is read past the end -/

/-- Nothing can be taken at the end of the line. -/
theorem expect_end {tokens : List Token} (ended : atEnd tokens = true) (kind : String)
    (text : Option String) :
    expect kind text tokens = .error (.expected kind text (nextKind tokens)) := by
  cases tokens with
  | nil => rfl
  | cons token rest =>
    have isEnd : token.lexeme.isEnd = true := ended
    simp [expect, isEnd, nextKind]

/-- There is no statement at the end of the line. -/
theorem statement_end {tokens : List Token} (ended : atEnd tokens = true) :
    statement tokens = .error (.unexpectedToken (nextKind tokens)) := by
  cases tokens with
  | nil => rw [statement]; rfl
  | cons token rest =>
    have isEnd : token.lexeme.isEnd = true := ended
    rcases (Lexeme.isEnd_iff _).mp isEnd with same | same <;>
      · rw [statement]
        simp [same, nextKind]

end Parser

end LineBasic
