/-
**Failures that are reported to the user.**

A failure has a cause, and a line number once it has ended a running program. The cause gives
one of six fixed codes and, where the fault lies in how a line was written, a detail. The report
is what the user reads: the code, and on a second line the detail and the line.

* `atLine_line` — the first line number that a failure is given stays.
-/

import LineBasic.Number.Written

namespace LineBasic

/-- Why the tokens of a line form no statement. -/
inductive Malformed where
  | unknownKeyword (keyword : String)
  | unexpectedToken (kind : String)
  | unexpectedInExpression (kind text : String)
  | expected (kind : String) (text : Option String) (found : String)
  | illegalLineNumber (number : Number)
  | textAsLineNumber
  deriving DecidableEq

/-- Why a line or a statement failed. -/
inductive Cause where
  | unknownCharacter (character : String) (column : Int)
  | malformed (reason : Malformed)
  | undefinedStatement
  | typeMismatch
  | nextWithoutFor
  | divisionByZero
  | overflow
  | unknownOperator (operator : String)
  | unknownUnaryOperator (operator : String)
  | notAStatement (kind : String)
  | notAnExpression (kind : String)
  | stated (code : String) (detail : Option String)
  deriving DecidableEq

namespace Malformed

/-- The pieces of the words for a malformed line. -/
def pieces : Malformed → List String
  | unknownKeyword keyword => ["Unknown keyword: ", keyword]
  | unexpectedToken kind => ["Unexpected token: ", kind]
  | unexpectedInExpression kind text =>
    ["Unexpected token in expression: ", kind, " (", text, ")"]
  | expected kind none found => ["Expected ", kind, ", got ", found]
  | expected kind (some text) found => ["Expected ", kind, " '", text, "', got ", found]
  | illegalLineNumber number => ["Illegal line number: ", number.written]
  | textAsLineNumber => ["'<' not supported between instances of 'str' and 'int'"]

/-- The words for a malformed line. -/
def detail (reason : Malformed) : String :=
  String.join reason.pieces

end Malformed

namespace Cause

/-- The code of every line that is written wrongly. -/
def syntaxCode : String :=
  "?SYNTAX ERROR"

/-- The code of an operation on values of the wrong kind. -/
def typeMismatchCode : String :=
  "?TYPE MISMATCH ERROR"

/-- The code of a cause. -/
def code : Cause → String
  | unknownCharacter .. => syntaxCode
  | malformed _ => syntaxCode
  | undefinedStatement => "?UNDEF'D STATEMENT ERROR"
  | typeMismatch => typeMismatchCode
  | nextWithoutFor => "?NEXT WITHOUT FOR ERROR"
  | divisionByZero => "?DIVISION BY ZERO ERROR"
  | overflow => "?OVERFLOW ERROR"
  | unknownOperator _ => typeMismatchCode
  | unknownUnaryOperator _ => typeMismatchCode
  | notAStatement _ => syntaxCode
  | notAnExpression _ => syntaxCode
  | stated code _ => code

/-- The detail of a cause. -/
def detail : Cause → Option String
  | unknownCharacter character column =>
    some ("Unknown character: '" ++ character ++ "' at column " ++ toString column)
  | malformed reason => some reason.detail
  | unknownOperator operator => some ("Unknown operator: " ++ operator)
  | unknownUnaryOperator operator => some ("Unknown unary operator: " ++ operator)
  | notAStatement kind => some ("Cannot execute " ++ kind)
  | notAnExpression kind => some ("Cannot evaluate " ++ kind)
  | stated _ detail => detail
  | _ => none

end Cause

/-- A failure, with the line that it ended if it ended a program. -/
structure Failure where
  cause : Cause
  line : Option Int
  deriving DecidableEq

namespace Failure

/-- The failure charged to a line, unless it has been charged to one before. -/
def atLine (failure : Failure) (line : Option Int) : Failure :=
  { failure with line := failure.line <|> line }

/-- The detail, if it says anything. -/
def detail? (failure : Failure) : Option String :=
  failure.cause.detail.filter (· != "")

/-- The code and the detail on one line. -/
def message (failure : Failure) : String :=
  match failure.detail? with
  | some detail => failure.cause.code ++ ": " ++ detail
  | none => failure.cause.code

/-- What the user reads. -/
def report (failure : Failure) : String :=
  let place := failure.line.map fun line => "IN LINE " ++ toString line
  match failure.detail?, place with
  | none, none => failure.cause.code
  | some detail, none => failure.cause.code ++ "\n" ++ detail
  | none, some place => failure.cause.code ++ "\n" ++ place
  | some detail, some place => failure.cause.code ++ "\n" ++ detail ++ " " ++ place

/-- The first line number that a failure is given stays. -/
theorem atLine_line (failure : Failure) (first second : Int) :
    ((failure.atLine (some first)).atLine (some second)).line =
      (failure.atLine (some first)).line := by
  cases equal : failure.line <;> simp [atLine, equal]

end Failure

end LineBasic
