/-
**Launching from the command line.**

What the command line asks for decides which dialogue is held: on a framed screen or on a console,
with or without a program. The lines of a program file that are not blank are entered in order. A
dialogue ends well, or because the input ended in the middle of a question, or with a fault; the
first two have an exit code.
-/

import LineBasic.Console.Dialogue
import LineBasic.Launch.Arguments
import LineBasic.Launch.Folder

namespace LineBasic

/-- What a launch comes to: an exit code or a fault, all that was written, and the notes that were
left, in their order. -/
structure Report where
  exit : Except Fault Nat
  output : String
  notes : List Note

namespace Launch

/-- The lines of a program file. -/
def programLines (text : String) : List String :=
  (Text.fileLines text).filter fun line => !Text.isBlankLine line

/-- The setup of the screen that is asked for, if none of its sizes is left open. -/
def setup? (order : Order) : Option Setup :=
  order.rows.bind fun rows =>
    order.columns.map fun columns => { Setup.standard with rows, columns }

/-- The dialogue that is asked for. -/
def dialogue (order : Order) (program : Option (List String)) (clears : Bool) :
    Except GridFault Dialogue :=
  if order.framed then
    match setup? order with
    | some setup => (FramedScreen.new setup (program.getD [])).map .framed
    | none => .error .openDimension
  else
    .ok (.console (match program with
      | some lines => Console.running clears lines
      | none => Console.interactive clears))

/-- The program file that is asked for. -/
def file? (order : Order) : Option String :=
  order.program.filter fun name => name ≠ ""

/-- What is written when a file cannot be read. -/
def unreadable (name : String) (fault : FileFault) : String :=
  "Error: " ++ fault.message name ++ "\n"

/-- The words that close a dialogue, and its exit code. -/
def closing : Option Fault → String × Except Fault Nat
  | none => ("", .ok 0)
  | some (.endOfInput _) => ("Error: end of input\n", .ok 1)
  | some fault => ("", .error fault)

/-- The notes that are shown: errors, or all of them. -/
def shownNotes (verbose : Bool) (notes : List Note) : List Note :=
  notes.filter fun note => verbose || note.isError

/-- The report on a dialogue over the whole input, with the notes that were left before it. -/
def converse (order : Order) (program : Option (List String)) (before : List Note)
    (input : String) (clears : Bool) : Report :=
  match dialogue order program clears with
  | .error fault => ⟨.error (.grid fault), "", shownNotes order.verbose before⟩
  | .ok dialogue =>
    let held := dialogue.converse input
    let (words, exit) := closing (held.ended.getD none)
    ⟨exit, held.text ++ words, shownNotes order.verbose (before ++ held.notes.reverse)⟩

/-- Whether no file can have a name, because the character zero is in it. -/
def isImpossible (name : String) : Bool :=
  name.toList.contains '\x00'

/-- Launch what an order asks for. -/
def carryOut (order : Order) (folder : Folder) (input : String) (clears : Bool) : Report :=
  match file? order with
  | none => converse order none [] input clears
  | some name =>
    if isImpossible name then ⟨.error .zeroInName, "", []⟩
    else
      match folder.read name with
      | .error fault => ⟨.ok 1, unreadable name fault, []⟩
      | .ok text =>
        let lines := programLines text
        converse order (some lines) [.loaded lines.length name] input clears

/-- Launch with the arguments of a command line. -/
def launch (arguments : List String) (folder : Folder) (input : String) (clears : Bool) : Report :=
  match Verdict.read arguments with
  | .accepted order => carryOut order folder input clears
  | .help => ⟨.ok 0, "", []⟩
  | .rejected => ⟨.ok 2, "", []⟩

end Launch

end LineBasic
