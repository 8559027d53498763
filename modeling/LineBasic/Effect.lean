/-
**Effects and notes.**

What a session does to the outside: it writes a text or a whole line, clears the screen, or
leaves a note in the journal. Notes are kept for whoever watches the program at work; the user
does not see them.

* `journalLines_ne_nil` — every note has a line in the journal.
-/

import LineBasic.Text.Lines
import LineBasic.Text.Quoted

namespace LineBasic

/-- A remark about the work of a session or of a front end. -/
inductive Note where
  | stored (line : Int)
  | deleted (line : Int)
  | runStarted (lines : Nat)
  | runStopped (line : Option Int)
  | jumped (origin : Option Int) (target : Int)
  | loopEntered (name : String) (depth : Nat)
  | loopDone (name : String)
  | commandRead (command : String)
  | commandBroken (command : String)
  | loaded (lines : Nat) (file : String)
  deriving DecidableEq

/-- Something a session does to the outside. -/
inductive Effect where
  | text (text : String)
  | line (text : String)
  | clear
  | note (note : Note)
  deriving DecidableEq

namespace Note

/-- A line number as notes name it. -/
def lineName : Option Int → String
  | some line => toString line
  | none => "None"

/-- The pieces of the words of a note. -/
def pieces : Note → List String
  | stored line => ["Stored line ", toString line]
  | deleted line => ["Deleted line ", toString line]
  | runStarted lines => ["RUN: ", toString lines, " lines"]
  | runStopped line => ["RUN stopped at line ", lineName line]
  | jumped origin target => ["Jump from ", lineName origin, " to ", toString target]
  | loopEntered name depth => ["FOR ", name, ": depth ", toString depth]
  | loopDone name => ["NEXT ", name, ": loop done"]
  | commandRead command => ["REPL line: ", Text.quoted command]
  | commandBroken command => ["Unhandled error executing ", Text.quoted command]
  | loaded lines file => ["Loaded ", toString lines, " lines from ", file]

/-- The words of a note. -/
def message (note : Note) : String :=
  String.join note.pieces

/-- Whether a note tells of something that went wrong. -/
def isError : Note → Bool
  | commandBroken _ => true
  | _ => false

/-- The part of the program that a note comes from. -/
def origin : Note → String
  | commandRead _ => "retrograde.environment"
  | commandBroken _ => "retrograde.environment"
  | loaded .. => "retrograde.cli"
  | _ => "retrograde.interpreter"

/-- A note as it is entered in the journal. -/
def journalLine (note : Note) : String :=
  (if note.isError then "ERROR " else "DEBUG ") ++ note.origin ++ ": " ++ note.message

/-- The lines that a note takes up in the journal: more than one if its words hold a line feed. -/
def journalLines (note : Note) : List String :=
  (Text.pieces note.journalLine.toList).map String.ofList

/-- Every note has a line in the journal. -/
theorem journalLines_ne_nil (note : Note) : note.journalLines ≠ [] := by
  simpa [journalLines] using Text.pieces_ne_nil note.journalLine.toList

end Note

end LineBasic
