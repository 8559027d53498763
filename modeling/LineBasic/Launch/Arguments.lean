/-
**The arguments of the command line.**

An argument is a value or an option. An option may be shortened as long as only one option begins
like it, and may bring its value along after an equals sign; options of one letter can be written
together behind one dash, and all letters there must be options. A lone dash, a negative number
and a text with a space that is no option are values, and after a double dash everything is. One
value names the program; any further one, or an unknown option, is a stray, and arguments with
strays are rejected in the end. A later option wins over an earlier one.

* `ofLetters_of_stranger` — letters behind a dash of which one is no option are malformed.
-/

import LineBasic.Number.Spelled
import LineBasic.Screen.Basic

namespace LineBasic

open Text

/-- What the command line asks for. A size of the screen may be left open. -/
structure Order where
  program : Option String
  framed : Bool
  rows : Option Int
  columns : Option Int
  verbose : Bool
  deriving DecidableEq

namespace Order

/-- What is asked for without arguments. -/
def standard : Order :=
  ⟨none, false, some Setup.standard.rows, some Setup.standard.columns, false⟩

/-- The size that a text stands for: the integer that it spells, or an open one if a double dash
stands in its place. -/
def size? (text : String) : Option (Option Int) :=
  if text = "--" then some none else (Spelled.integer? text).map some

end Order

/-- The options. -/
inductive Flag where
  | help
  | framed
  | rows
  | columns
  | verbose
  deriving DecidableEq

namespace Flag

/-- All ways to write an option in full. -/
def spellings : List (List Char × Flag) :=
  [("-h".toList, help), ("--help".toList, help), ("--screen".toList, framed),
    ("--rows".toList, rows), ("--cols".toList, columns), ("-v".toList, verbose),
    ("--verbose".toList, verbose)]

/-- The option with a spelling. -/
def spelled? (name : List Char) : Option Flag :=
  (spellings.find? fun spelling => spelling.1 == name).map Prod.snd

/-- The option of one letter. -/
def letter? (c : Char) : Option Flag :=
  spelled? ['-', c]

/-- The options whose spelling begins with a text. -/
def startingWith (start : List Char) : List Flag :=
  (spellings.filter fun spelling => start.isPrefixOf spelling.1).map Prod.snd

end Flag

/-- An argument as it is written: a value, the double dash, an option with what it brings along,
options of one letter, an option that is not known, or one that cannot be. -/
inductive Argument where
  | value (text : String)
  | divider
  | option (flag : Flag) (attached : Option String)
  | letters (flags : List Flag)
  | unknown
  | malformed
  deriving DecidableEq

namespace Argument

/-- The argument that starts with an option of one letter and goes on with others. -/
def ofLetters (first : Flag) (others : List Char) : Argument :=
  if others = [] then malformed
  else (others.mapM Flag.letter?).elim malformed fun flags => letters (first :: flags)

/-- Whether a text without its dash is a number, with digits on both sides of the point or behind
it; a line feed may follow. -/
def isNegative (text : List Char) : Bool :=
  let number := if text.getLast? = some '\n' then text.dropLast else text
  let whole := number.takeWhile isDecimal
  match number.dropWhile isDecimal with
  | [] => whole ≠ []
  | '.' :: decimals => decimals ≠ [] && decimals.all isDecimal
  | _ => false

/-- The name of an option and what follows its equals sign. -/
def halves (text : List Char) : List Char × Option String :=
  let name := text.takeWhile (· != '=')
  match text.dropWhile (· != '=') with
  | _ :: attached => (name, some (String.ofList attached))
  | [] => (name, none)

/-- An argument with a dash that spells no option in full. -/
def shortened? (text : List Char) : Option Argument :=
  match text with
  | '-' :: '-' :: _ =>
    match Flag.startingWith (halves text).1 with
    | [] => some unknown
    | [flag] => some (option flag (halves text).2)
    | _ => none
  | '-' :: c :: rest => some ((Flag.letter? c).elim unknown fun flag => ofLetters flag rest)
  | _ => some unknown

/-- An argument that starts with a dash; an option that is shortened too much has no reading. -/
def dashed? (text : List Char) : Option Argument :=
  match Flag.spelled? text, text.tail, halves text with
  | some flag, _, _ => some (option flag none)
  | none, [], _ => some (value "-")
  | none, rest, (name, attached) =>
    match Flag.spelled? name, attached with
    | some flag, some attached =>
      some (if name.length = 2 then ofLetters flag attached.toList
        else option flag (some attached))
    | _, _ =>
      match shortened? text with
      | some .unknown =>
        some (if isNegative rest || text.contains ' ' then value (String.ofList text) else unknown)
      | shortened => shortened

/-- Letters behind a dash of which one is no option are malformed. -/
theorem ofLetters_of_stranger (first : Flag) {c : Char} {others : List Char}
    (stranger : Flag.letter? c = none) (member : c ∈ others) :
    ofLetters first others = malformed := by
  have failed : others.mapM Flag.letter? = none := by
    induction others with
    | nil => cases member
    | cons other rest hypothesis =>
      rw [List.mapM_cons]
      rcases List.mem_cons.mp member with rfl | later
      · simp [stranger]
      · cases Flag.letter? other <;> simp [hypothesis later]
  rw [ofLetters, failed]
  split <;> rfl

/-- An argument before the double dash. -/
def ofText? (text : String) : Option Argument :=
  match text.toList with
  | '-' :: rest => dashed? ('-' :: rest)
  | _ => some (value text)

/-- The arguments; there is no reading if one of them is shortened too much. -/
def ofTexts? : List String → Option (List Argument)
  | [] => some []
  | text :: rest =>
    if text = "--" then some (divider :: rest.map value)
    else
      match ofText? text, ofTexts? rest with
      | some argument, some arguments => some (argument :: arguments)
      | _, _ => none

end Argument

/-- What has been understood so far; `named` says that the last argument named the program. -/
structure Intake where
  order : Order
  awaiting : Option Flag
  named : Bool
  strays : Bool

/-- What the arguments come to. -/
inductive Verdict where
  | accepted (order : Order)
  | help
  | rejected
  deriving DecidableEq

namespace Intake

/-- Nothing has been read yet. -/
def start : Intake :=
  ⟨.standard, none, false, false⟩

/-- Give an option its value; only the sizes of the screen take one. -/
def assign (flag : Flag) (text : String) (intake : Intake) : Except Verdict Intake :=
  let intake := { intake with awaiting := none, named := false }
  match flag, Order.size? text with
  | .rows, some rows => .ok { intake with order := { intake.order with rows } }
  | .columns, some columns => .ok { intake with order := { intake.order with columns } }
  | _, _ => .error .rejected

/-- Take an option without a value. -/
def raise (flag : Flag) (intake : Intake) : Except Verdict Intake :=
  let intake := { intake with named := false }
  match flag with
  | .help => .error .help
  | .framed => .ok { intake with order := { intake.order with framed := true } }
  | .verbose => .ok { intake with order := { intake.order with verbose := true } }
  | .rows | .columns => .ok { intake with awaiting := some flag }

/-- Take the next argument. -/
def take (intake : Intake) (argument : Argument) : Except Verdict Intake :=
  match intake.awaiting, argument with
  | some flag, .value text => intake.assign flag text
  | some _, _ => .error .rejected
  | none, .value text =>
    if intake.order.program.isNone then
      .ok { intake with order := { intake.order with program := some text }, named := true }
    else .ok { intake with named := false, strays := true }
  | none, .divider =>
    .ok { intake with
      named := false
      strays := intake.strays || (intake.order.program.isSome && !intake.named) }
  | none, .option flag none => intake.raise flag
  | none, .option flag (some text) => intake.assign flag text
  | none, .letters flags => flags.foldlM (fun intake flag => intake.raise flag) intake
  | none, .unknown => .ok { intake with named := false, strays := true }
  | none, .malformed => .error .rejected

/-- The verdict at the end of the arguments. -/
def verdict (intake : Intake) : Verdict :=
  if intake.awaiting.isSome || intake.strays then .rejected else .accepted intake.order

end Intake

namespace Verdict

/-- The verdict on arguments that could be told apart. -/
def ofArguments (arguments : List Argument) : Verdict :=
  match arguments.foldlM Intake.take Intake.start with
  | .ok intake => intake.verdict
  | .error verdict => verdict

/-- The verdict on the arguments of a command line. -/
def read (texts : List String) : Verdict :=
  (Argument.ofTexts? texts).elim rejected ofArguments

end Verdict

end LineBasic
