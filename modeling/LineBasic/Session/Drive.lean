/-
**Driving an activity.**

A host delivers the effects of an activity to whatever it has: a screen, a console, a list of
events. Delivering may fail with a fault, which then ends the activity. Driving goes on step by
step until the activity waits for a line or ends, or until the steps that were granted are used
up.

* `deliverAll_append` — effects are delivered in order, up to the first fault.
-/

import LineBasic.Session.Activity

namespace LineBasic

/-- How far an activity has come. -/
inductive Progress where
  | waiting (prompt : String) (activity : Activity)
  | finished
  | failed (failure : Failure)
  | fault (fault : Fault)
  | unfinished (activity : Activity)

namespace Session

/-- Deliver effects in order, up to the first fault. -/
def deliverAll {World : Type} (deliver : World → Effect → World × Option Fault) :
    World → List Effect → World × Option Fault
  | world, [] => (world, none)
  | world, effect :: rest =>
    match deliver world effect with
    | (world, none) => deliverAll deliver world rest
    | (world, some fault) => (world, some fault)

/-- Break an activity off on a fault; the notes that this leaves are delivered. -/
def breakOff {World : Type} (deliver : World → Effect → World × Option Fault) (world : World)
    (session : Session) (activity : Activity) (fault : Fault) : World × Session × Progress :=
  let (session, effects) := session.abandon activity
  ((deliverAll deliver world effects).1, session, .fault fault)

/-- Drive an activity for at most a number of steps. -/
def drive {World : Type} (deliver : World → Effect → World × Option Fault) :
    Nat → World → Session → Activity → World × Session × Progress
  | 0, world, session, activity => (world, session, .unfinished activity)
  | steps + 1, world, session, activity =>
    match session.step activity with
    | (session, .next following effects) =>
      match deliverAll deliver world effects with
      | (world, none) => drive deliver steps world session following
      | (world, some fault) => breakOff deliver world session following fault
    | (session, .ask prompt) => (world, session, .waiting prompt activity)
    | (session, .finished) => (world, session, .finished)
    | (session, .failed failure) => (world, session, .failed failure)
    | (session, .fault fault) => breakOff deliver world session activity fault

/-- The steps that a host grants before it gives an activity up. It stands for a host that is never
impatient: one that waits for ever with an activity that never ends has no counterpart here, since
an activity that is given up is left, unfinished as it is, and its host goes on as if it had ended.
No theorem asks more of the number than room for the few steps of the lines it speaks of. -/
def patience : Nat :=
  Nat.pow 10 12

/-- Effects are delivered in order, up to the first fault. -/
theorem deliverAll_append {World : Type} (deliver : World → Effect → World × Option Fault)
    (world : World) (first second : List Effect) :
    deliverAll deliver world (first ++ second) =
      match deliverAll deliver world first with
      | (world, none) => deliverAll deliver world second
      | (world, some fault) => (world, some fault) := by
  induction first generalizing world with
  | nil => rfl
  | cons effect rest hypothesis =>
    simp only [List.cons_append, deliverAll]
    split
    · exact hypothesis _
    · rfl

end Session

end LineBasic
