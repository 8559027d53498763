/-
**Reading by going from place to place.**

Tokens can be read with a place that moves along them: looking sees the lexeme at the place, taking
it goes on to the next place, and where the line ends nothing moves. Nothing in such a reader says
that it comes to an end, so it is given a depth: if readers call one another more deeply or more
often than that, there is no outcome.

* `Tracked` — a reader that keeps the places that it has come to;
* `peek`, `advance` — look at a place and go on to the next one;
* `line` — the reader of a line.
-/

import LineBasic.Syntax.Parser

namespace LineBasic.Parser

/-- A reader that goes from place to place among some tokens. It keeps the places that it has come
to, the latest first, also where it refuses the line, and it may have no outcome. -/
abbrev Tracked (α : Type) :=
  ExceptT Malformed (StateT (List Nat) Option) α

namespace Tracked

/-- The latest of some places; reading starts in front of the first token. -/
def latest (places : List Nat) : Nat :=
  places.headD 0

/-- The reading goes deeper than it may. -/
def tooDeep {α : Type} : Tracked α :=
  fun _ => none

/-- The lexeme at a place among some tokens; past the last one the input ends. -/
def lexemeAt (tokens : List Token) (place : Nat) : Lexeme :=
  (tokens[place]?.map Token.lexeme).getD .endOfInput

section Readers

variable (look : Nat → Lexeme)

/-- The lexeme at the latest place. -/
def peek : Tracked Lexeme :=
  return look (latest (← get))

/-- Go on to the next place, unless the line ends here. -/
def advance : Tracked Unit := do
  if !(← peek look).isEnd then
    modify fun places => (latest places + 1) :: places

/-- Whether the line ends here. -/
def atEnd : Tracked Bool :=
  return (← peek look).isEnd

/-- Take a lexeme without value if it comes next, and tell whether it did. -/
def take (lexeme : Lexeme) : Tracked Bool := do
  if (← peek look) = lexeme then
    advance look
    return true
  else return false

/-- Take a lexeme without value, which has to come next. -/
def expect (lexeme : Lexeme) : Tracked Unit := do
  let next ← peek look
  if !next.isEnd && next.isA lexeme.kind lexeme.text? then advance look
  else throw (.expected lexeme.kind lexeme.text? next.kind)

/-- Take a name. -/
def expectName : Tracked String := do
  match ← peek look with
  | .identifier name =>
    advance look
    return name
  | next => throw (.expected "IDENTIFIER" none next.kind)

/-- Take a line number. -/
def lineNumber : Tracked Int := do
  match ← peek look with
  | .number value =>
    advance look
    liftExcept (toLineNumber value)
  | next => throw (.expected "NUMBER" none next.kind)
where
  liftExcept (result : Except Malformed Int) : Tracked Int :=
    match result with
    | .ok number => return number
    | .error reason => throw reason

mutual

/-- An operand. -/
def primary : Nat → Tracked Node
  | 0 => tooDeep
  | depth + 1 => do
    match ← peek look with
    | .number value =>
      advance look
      return .number value
    | .string text =>
      advance look
      return .string text
    | .identifier name =>
      advance look
      return .named name
    | .punctuation "(" =>
      advance look
      let node ← chain depth 3
      expect look (.punctuation ")")
      return node
    | .operator "-" =>
      advance look
      return .unary "-" (← primary depth)
    | lexeme => throw (.unexpectedInExpression lexeme.kind lexeme.quote)

/-- Operands joined by the operators of a level and of those that bind more tightly. -/
def chain : Nat → Nat → Tracked Node
  | 0, _ => tooDeep
  | depth + 1, 0 => primary depth
  | depth + 1, tighter + 1 => do
    let left ← chain depth tighter
    extend depth tighter left

/-- The operators of the level above that follow a left operand. -/
def extend : Nat → Nat → Node → Tracked Node
  | 0, _, _ => tooDeep
  | depth + 1, tighter, left => do
    match ← peek look with
    | .operator symbol =>
      if symbol ∈ Node.operatorsAt (tighter + 1) then
        advance look
        let right ← chain depth tighter
        extend depth tighter (.binary symbol left right)
      else return left
    | _ => return left

end

variable (depth : Nat)

/-- An expression. -/
def expression : Tracked Node :=
  chain look depth 3

/-- The separator that comes next. -/
def separator : Tracked (Option String) := do
  if ← take look (.punctuation ";") then return some ";"
  else if ← take look (.punctuation ",") then return some ","
  else return none

/-- The items of a `PRINT` with their separators, up to some number of them. -/
def printItems : Nat → Tracked (List Node × List String)
  | 0 => tooDeep
  | more + 1 => do
    if ← atEnd look then return ([], [])
    else
      let item ← expression look depth
      match ← separator look with
      | none => return ([item], [])
      | some separator =>
        let (items, separators) ← printItems more
        return (item :: items, separator :: separators)

/-- A name, the equals sign and an expression. -/
def assignment : Tracked Node := do
  let name ← expectName look
  expect look (.operator "=")
  return .assign name (← expression look depth)

/-- The prompt of an `INPUT`. -/
def inputPrompt : Tracked String := do
  match ← peek look with
  | .string text =>
    advance look
    if ← take look (.punctuation ",") then return text ++ ","
    else
      let _ ← take look (.punctuation ";")
      return text
  | _ => return ""

/-- The prompt, if there is one, and a name. -/
def inputStatement : Tracked Node := do
  let prompt ← inputPrompt look
  return .input prompt (← expectName look)

/-- A name, the equals sign, and the first and last value and the step of a loop. -/
def loopStatement : Tracked Node := do
  let name ← expectName look
  expect look (.operator "=")
  let start ← expression look depth
  expect look (.keyword "TO")
  let limit ← expression look depth
  if ← take look (.keyword "STEP") then
    return .forLoop name start limit (← expression look depth)
  else return .forLoop name start limit Node.unitStep

/-- A range of lines. -/
def listStatement : Tracked Node := do
  match ← peek look with
  | .number _ =>
    let first ← lineNumber look
    if ← take look (.operator "-") then
      match ← peek look with
      | .number _ => return .list (some first) (some (← lineNumber look))
      | _ => return .list (some first) none
    else return .list (some first) none
  | .operator "-" =>
    advance look
    return .list none (some (← lineNumber look))
  | _ => return .list none none

/-- The name of a loop, if there is one. -/
def nextStatement : Tracked Node := do
  match ← peek look with
  | .identifier name =>
    advance look
    return .next (some name)
  | _ => return .next none

/-- The text of a remark, if there is one. -/
def remarkStatement : Tracked Node := do
  match ← peek look with
  | .string text =>
    advance look
    return .remark text
  | _ => return .remark ""

/-- A statement, with others in it up to some depth. -/
def statement : Nat → Tracked Node
  | 0 => tooDeep
  | guarded + 1 => do
    match ← peek look with
    | .keyword "PRINT" =>
      advance look
      let (items, separators) ← printItems look depth depth
      return .print items separators
    | .keyword "LET" =>
      advance look
      assignment look depth
    | .keyword "INPUT" =>
      advance look
      inputStatement look
    | .keyword "IF" =>
      advance look
      let condition ← expression look depth
      expect look (.keyword "THEN")
      match ← peek look with
      | .number _ => return .ifThen condition (.goto (← lineNumber look))
      | _ => return .ifThen condition (← statement guarded)
    | .keyword "GOTO" =>
      advance look
      return .goto (← lineNumber look)
    | .keyword "FOR" =>
      advance look
      loopStatement look depth
    | .keyword "NEXT" =>
      advance look
      nextStatement look
    | .keyword "REM" =>
      advance look
      remarkStatement look
    | .keyword "LIST" =>
      advance look
      listStatement look
    | .keyword "END" =>
      advance look
      return .stop
    | .keyword "RUN" =>
      advance look
      return .run
    | .keyword "NEW" =>
      advance look
      return .new
    | .keyword "HOME" =>
      advance look
      return .home
    | .keyword word => throw (.unknownKeyword word)
    | .identifier _ => assignment look depth
    | lexeme => throw (.unexpectedToken lexeme.kind)

/-- A line: nothing, a statement, or a line number with a statement or nothing after it. -/
def line : Tracked Node := do
  if ← atEnd look then return .empty
  else
    match ← peek look with
    | .number _ =>
      let number ← lineNumber look
      if ← atEnd look then return .programLine number .empty
      else return .programLine number (← statement look depth depth)
    | _ => statement look depth depth

end Readers

end Tracked
end LineBasic.Parser
