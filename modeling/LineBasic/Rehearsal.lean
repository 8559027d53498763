/-
**A session with prepared answers.**

A rehearsal is a host that has the answers to all questions ready and keeps a list of all that
happens. An answer may bring lines with it, which are typed while the question is open: the
program that asked rests meanwhile, and a fault in one of these lines ends the program too.
-/

import LineBasic.Outlet
import LineBasic.Session.Drive

namespace LineBasic

/-- Something the user sees, or is asked. -/
inductive Event where
  | text (text : String)
  | line (text : String)
  | input (prompt : String)
  | clear
  deriving DecidableEq

/-- The event of a piece that comes through a channel. -/
def Event.ofPiece : Piece → Event
  | .text body => .text body
  | .line body => .line body

/-- A prepared answer: lines to type while the question is open, and the text. -/
structure Answer where
  before : List String
  text : String

/-- The channels that a host has connected to a session. -/
structure Wiring where
  text : Bool
  line : Bool
  input : Bool
  clear : Bool

/-- A host with prepared answers; events and notes are kept with the latest first. -/
structure Rehearsal where
  board : Board
  place : Nat
  input : Bool
  clear : Bool
  answers : List Answer
  events : List Event
  notes : List Note

namespace Rehearsal

/-- A host that has connected nothing. -/
def unwired (answers : List Answer) : Rehearsal where
  board := ⟨[.discard]⟩
  place := 0
  input := false
  clear := false
  answers
  events := []
  notes := []

/-- The host with its writing going to a new outlet. -/
def toOutlet (host : Rehearsal) (outlet : Outlet) : Rehearsal :=
  let (board, place) := host.board.add outlet
  { host with board, place }

/-- The host after it has connected its channels. -/
def wire (host : Rehearsal) (wiring : Wiring) : Rehearsal :=
  { host.toOutlet (.channels wiring.text wiring.line) with
    input := wiring.input, clear := wiring.clear }

/-- The host after something has been seen. -/
def record (host : Rehearsal) (event : Event) : Rehearsal :=
  { host with events := event :: host.events }

/-- Write a piece. -/
def write (host : Rehearsal) (piece : Piece) : Rehearsal :=
  let (board, calls) := host.board.send host.place piece
  calls.foldl (fun host call => host.record (Event.ofPiece call.2)) { host with board }

/-- Deliver an effect; nothing that a rehearsal does can fail. -/
def deliver (host : Rehearsal) : Effect → Rehearsal × Option Fault
  | .text text => (host.write (.text text), none)
  | .line text => (host.write (.line text), none)
  | .clear => (if host.clear then host.record .clear else host, none)
  | .note note => ({ host with notes := note :: host.notes }, none)

/-- What a host without answers says. -/
def noMoreInput : Fault :=
  .endOfInput "no more input"

/-- Do one piece of work after the other with typed lines, up to the first fault. After a line that
is given up, unfinished, the next one is typed as after a line that has ended. -/
def performEach
    (perform : Rehearsal → Session → Activity → Rehearsal × Session × Progress) :
    Rehearsal → Session → List String → Rehearsal × Session × Option Fault
  | host, session, [] => (host, session, none)
  | host, session, line :: rest =>
    match perform host session (.ofLine line) with
    | (host, session, .fault fault) => (host, session, some fault)
    | (host, session, _) => performEach perform host session rest

/-- Drive an activity to its end, answering what it asks; the number bounds the questions. What is
left when the questions or the steps are used up is unfinished, and not failed. -/
def perform : Nat → Rehearsal → Session → Activity → Rehearsal × Session × Progress
  | 0, host, session, activity => (host, session, .unfinished activity)
  | questions + 1, host, session, activity =>
    match session.drive deliver Session.patience host activity with
    | (host, session, .waiting prompt activity) =>
      if host.input then
        let host := host.record (.input prompt)
        match host.answers with
        | [] => session.breakOff deliver host activity noMoreInput
        | answer :: answers =>
          match performEach (perform questions) { host with answers } session answer.before with
          | (host, session, some fault) => session.breakOff deliver host activity fault
          | (host, session, none) =>
            let (session, activity) := session.answer activity answer.text
            perform questions host session activity
      else
        let (session, activity) := session.answer activity ""
        perform questions host session activity
    | ended => ended

/-- Type lines one after the other, up to the first fault. -/
def typeLines (host : Rehearsal) (session : Session) (lines : List String) :
    Rehearsal × Session × Option Fault :=
  performEach (perform Session.patience) host session lines

/-- Type lines into a capture in front of the present outlet, which is put back afterwards; the
captured chunks are handed over. -/
def capture (host : Rehearsal) (session : Session) (lines : List String) :
    Rehearsal × Session × List String × Option Fault :=
  let (inside, session, fault) :=
    (host.toOutlet (.capture [] (some host.place))).typeLines session lines
  ({ inside with place := host.place }, session, inside.board.chunks inside.place, fault)

/-- Throw the program away, as the statement does that starts a new one. -/
def startNew (host : Rehearsal) (session : Session) : Rehearsal × Session :=
  ((host.deliver (.line "")).1, session.cleared)

/-- Store a line that is handed over with its statement. -/
def store (host : Rehearsal) (session : Session) (number : Int) (source : String)
    (statement : Node) : Rehearsal × Session :=
  let (session, note) := session.store number source statement
  ((host.deliver (.note note)).1, session)

end Rehearsal

end LineBasic
