/-
**The program.**

The program launches what its arguments ask for on the standard streams: what the dialogue writes
is shown at once, and a line is read whenever the dialogue waits for one. Notes go to the error
stream.
-/

import LineBasic.Launch.Basic

namespace LineBasic.Launch

/-- How the program is used. -/
def usage : String :=
  "usage: linebasic [-h] [--screen] [--rows ROWS] [--cols COLS] [-v] [program]\n"

/-- The number of an error of the system, which may be handed over with a minus sign. -/
def errorNumber (code : UInt32) : Nat :=
  code.toInt32.toInt.natAbs

/-- Why the system could not read a file. -/
def fileFault : IO.Error → FileFault
  | .noFileOrDirectory .. => .missing
  | .permissionDenied .. => .denied
  | .inappropriateType _ code reason => .ofCode (errorNumber code) reason
  | .invalidArgument _ code reason => .ofCode (errorNumber code) reason
  | error => .other 5 (toString error)

/-- Show what a dialogue has written and noted. -/
def showNew (verbose : Bool) (dialogue : Dialogue) : IO Unit := do
  for note in shownNotes verbose dialogue.notes.reverse do
    IO.eprintln note.journalLine
  let stdout ← IO.getStdout
  stdout.putStr dialogue.text
  stdout.flush

/-- Hold a dialogue on the standard streams; the result is the exit code. -/
partial def hold (verbose : Bool) (dialogue : Dialogue) : IO UInt32 := do
  showNew verbose dialogue
  match dialogue.ended with
  | some fault =>
    let (words, exit) := closing fault
    IO.print words
    match exit with
    | .ok code => return code.toUInt32
    | .error fault =>
      IO.eprintln fault.message
      return 1
  | none =>
    let line ← (← IO.getStdin).getLine
    hold verbose (dialogue.torn.reply (if line.isEmpty then none else some line))

/-- Hold the dialogue that is asked for. -/
def start (order : Order) (program : Option (List String)) : IO UInt32 := do
  let clears ← (← IO.getStdout).isTty
  match dialogue order program clears with
  | .ok dialogue => hold order.verbose dialogue
  | .error fault =>
    IO.eprintln fault.message
    return 1

/-- Hold the dialogue that is asked for, with the program from a file if one is named. -/
def openOrder (order : Order) : IO UInt32 := do
  match file? order with
  | none => start order none
  | some name =>
    match ← (IO.FS.readFile name).toBaseIO with
    | .error error =>
      IO.print (unreadable name (fileFault error))
      return 1
    | .ok text =>
      let lines := programLines text
      for note in shownNotes order.verbose [.loaded lines.length name] do
        IO.eprintln note.journalLine
      start order (some lines)

end LineBasic.Launch

open LineBasic in
/-- Launch with the arguments of the command line. -/
def main (arguments : List String) : IO UInt32 := do
  match Verdict.read arguments with
  | .accepted order => Launch.openOrder order
  | .help =>
    IO.print Launch.usage
    return 0
  | .rejected =>
    IO.eprint Launch.usage
    return 2
