/-
**Syntax trees.**

Expressions and statements share one type, because a host may hand over a tree that no line
spells. A statement in the place of an expression fails when it is evaluated, and names the kind
of the node; a text in the place of a number stands for itself. The trees of lines are well
formed: operators are those of the language, line numbers are positive, and every node stands
where one of its kind may stand.

* `WellFormed` — what the trees of lines look like;
* `operator_level` — an operator of the language belongs to one of the three levels.
-/

import LineBasic.Value

namespace LineBasic

/-- A node of a syntax tree. -/
inductive Node where
  | number (value : Value)
  | string (text : String)
  | named (name : String)
  | binary (operator : String) (left right : Node)
  | unary (operator : String) (operand : Node)
  | empty
  | programLine (number : Int) (statement : Node)
  | print (items : List Node) (separators : List String)
  | assign (name : String) (value : Node)
  | input (prompt name : String)
  | ifThen (condition statement : Node)
  | goto (line : Int)
  | forLoop (name : String) (start limit step : Node)
  | next (name : Option String)
  | remark (text : String)
  | stop
  | list (first last : Option Int)
  | run
  | new
  | home
  | bare
  deriving Inhabited

namespace Node

/-- The name of a node's kind. -/
def kind : Node → String
  | number _ => "Number"
  | string _ => "String"
  | named _ => "Variable"
  | binary .. => "Binary"
  | unary .. => "Unary"
  | empty => "Empty"
  | programLine .. => "ProgramLine"
  | print .. => "Print"
  | assign .. => "Let"
  | input .. => "Input"
  | ifThen .. => "If"
  | goto _ => "Goto"
  | forLoop .. => "For"
  | next _ => "Next"
  | remark _ => "Rem"
  | stop => "End"
  | list .. => "Listing"
  | run => "Run"
  | new => "New"
  | home => "Home"
  | bare => "ASTNode"

/-- The operators that compare. -/
def comparisons : List String :=
  ["=", "<>", "<", ">", "<=", ">="]

/-- The operators that add. -/
def additions : List String :=
  ["+", "-"]

/-- The operators that multiply. -/
def multiplications : List String :=
  ["*", "/"]

/-- The operators of a level of precedence; the higher level binds the more loosely. -/
def operatorsAt : Nat → List String
  | 1 => multiplications
  | 2 => additions
  | 3 => comparisons
  | _ => []

/-- The step of a loop that states none. -/
def unitStep : Node :=
  number (.int 1)

/-- Whether a tree is an expression of the language. -/
def isExpression : Node → Bool
  | number _ => true
  | string _ => true
  | named _ => true
  | binary operator left right =>
    (comparisons ++ additions ++ multiplications).contains operator && left.isExpression &&
      right.isExpression
  | unary operator operand => operator == "-" && operand.isExpression
  | _ => false

/-- The trees of the statements of the language. -/
inductive IsStatement : Node → Prop where
  | print {items separators} :
      (∀ item ∈ items, item.isExpression = true) →
      (separators.length = items.length ∨ separators.length + 1 = items.length) →
      (∀ separator ∈ separators, separator = ";" ∨ separator = ",") →
      IsStatement (print items separators)
  | assign {name value} : value.isExpression = true → IsStatement (assign name value)
  | input {prompt name} : IsStatement (input prompt name)
  | ifThen {condition statement} : condition.isExpression = true → IsStatement statement →
      IsStatement (ifThen condition statement)
  | goto {line} : 1 ≤ line → IsStatement (goto line)
  | forLoop {name start limit step} : start.isExpression = true →
      limit.isExpression = true → step.isExpression = true →
      IsStatement (forLoop name start limit step)
  | next {name} : IsStatement (next name)
  | remark {text} : IsStatement (remark text)
  | stop : IsStatement stop
  | list {first last} : (∀ n ∈ first, 1 ≤ n) → (∀ n ∈ last, 1 ≤ n) →
      IsStatement (list first last)
  | run : IsStatement run
  | new : IsStatement new
  | home : IsStatement home

/-- The trees of lines: nothing, a statement, or a numbered line with a statement or nothing. -/
inductive WellFormed : Node → Prop where
  | empty : WellFormed empty
  | statement {node} : IsStatement node → WellFormed node
  | numbered {number node} : 1 ≤ number → IsStatement node → WellFormed (programLine number node)
  | bareNumber {number} : 1 ≤ number → WellFormed (programLine number empty)

/-- An operator of the language belongs to one of the three levels. -/
theorem operator_level {operator : String} {left right : Node}
    (expression : (binary operator left right).isExpression = true) :
    ∃ level, operator ∈ operatorsAt level := by
  simp only [isExpression, Bool.and_eq_true, List.contains_iff_mem, List.mem_append] at expression
  rcases expression.1.1 with (member | member) | member
  · exact ⟨3, member⟩
  · exact ⟨2, member⟩
  · exact ⟨1, member⟩

end Node

end LineBasic
