/-
**Tokens.**

A lexeme is a number, a text, a word of the language, a name, an operator, a mark of
punctuation, or one of the two ends. Hosts may hand over lexemes that no line spells: a number
lexeme with a text as its value, which stands in expressions as that text, or one of another kind,
which no statement contains. A token is a lexeme with the column of its first character.

* `isEnd_iff` — the two ends are the only lexemes that end a line.
-/

import LineBasic.Value

namespace LineBasic

/-- What one token says. -/
inductive Lexeme where
  | number (value : Value)
  | string (text : String)
  | keyword (word : String)
  | identifier (name : String)
  | operator (symbol : String)
  | punctuation (mark : String)
  | endOfLine
  | endOfInput
  | foreign (kind : String) (text : Option String)
  deriving DecidableEq

/-- A lexeme and its column. -/
structure Token where
  lexeme : Lexeme
  column : Nat
  deriving DecidableEq

namespace Lexeme

/-- The name of a lexeme's kind. -/
def kind : Lexeme → String
  | number _ => "NUMBER"
  | string _ => "STRING"
  | keyword _ => "KEYWORD"
  | identifier _ => "IDENTIFIER"
  | operator _ => "OPERATOR"
  | punctuation _ => "PUNCTUATION"
  | endOfLine => "EOL"
  | endOfInput => "EOF"
  | foreign kind _ => kind

/-- The text of a lexeme that has one. -/
def text? : Lexeme → Option String
  | number (.text text) => some text
  | string text => some text
  | keyword word => some word
  | identifier name => some name
  | operator symbol => some symbol
  | punctuation mark => some mark
  | foreign _ text => text
  | _ => none

/-- What a lexeme says, as failures quote it. -/
def quote : Lexeme → String
  | number value => value.written
  | lexeme => lexeme.text?.getD "None"

/-- Whether a lexeme ends the line. -/
def isEnd : Lexeme → Bool
  | endOfLine => true
  | endOfInput => true
  | _ => false

/-- Whether a lexeme is of a kind and, if a text is given, has that text. -/
def isA (lexeme : Lexeme) (kind : String) (text : Option String) : Bool :=
  lexeme.kind == kind && (text.isNone || lexeme.text? == text)

/-- The two ends are the only lexemes that end a line. -/
theorem isEnd_iff (lexeme : Lexeme) :
    lexeme.isEnd = true ↔ lexeme = endOfLine ∨ lexeme = endOfInput := by
  cases lexeme <;> simp [isEnd]

end Lexeme

end LineBasic
