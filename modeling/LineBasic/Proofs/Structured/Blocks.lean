/-
**Block-structured programs and what they mean.**

A block-structured program is a sequence of simple lines and of loops, each loop with a line that
opens it, a body of the same kind and a line that closes it. Its meaning knows no cursor, no jumps
and no stack of loops: simple lines are executed in order, and a loop does its body and advances
its variable, over and over, until the variable has passed the limit.

* `Blocks.lines` — the lines of a structured program, as they are stored;
* `Blocks.Nested` — no loop lies inside one over the same variable;
* `Blocks.exec` — the meaning of a structured program;
* `exec_more` — the meaning does not depend on the passes granted, once they are enough.
-/

import LineBasic.Proofs.Scene
import LineBasic.Proofs.Statement

namespace LineBasic.Structured

/-- The line that opens a loop. -/
structure Header where
  number : Int
  source : String
  name : String
  start : Node
  limit : Node
  step : Node

/-- The line that closes a loop, which may name the variable of the loop or not. -/
structure Footer where
  number : Int
  source : String
  named : Bool

/-- A sequence of simple lines and loops. -/
inductive Blocks where
  | nil
  | simple (number : Int) (entry : Entry) (rest : Blocks)
  | loop (header : Header) (body : Blocks) (footer : Footer) (rest : Blocks)

/-- The stored line of a header. -/
def Header.line (header : Header) : Int × Entry :=
  (header.number, ⟨header.source, .forLoop header.name header.start header.limit header.step⟩)

/-- The stored line of the footer of a loop over a variable. -/
def Footer.line (footer : Footer) (name : String) : Int × Entry :=
  (footer.number, ⟨footer.source, .next (if footer.named then some name else none)⟩)

/-- Whether a statement prints, assigns, asks, remarks, lists or clears the screen, perhaps under
conditions. -/
def isSimple : Node → Bool
  | .print .. => true
  | .assign .. => true
  | .input .. => true
  | .remark _ => true
  | .list .. => true
  | .home => true
  | .ifThen _ statement => isSimple statement
  | _ => false

namespace Blocks

/-- The lines of a structured program, as they are stored. -/
def lines : Blocks → List (Int × Entry)
  | nil => []
  | simple number entry rest => (number, entry) :: rest.lines
  | loop header body footer rest =>
    header.line :: (body.lines ++ footer.line header.name :: rest.lines)

/-- Simple lines hold simple statements, and no loop lies inside one over the same variable; the
variables of the loops around are given. -/
def Nested (around : List String) : Blocks → Prop
  | nil => True
  | simple _ entry rest => isSimple entry.statement = true ∧ rest.Nested around
  | loop header body _ rest =>
    header.name ∉ around ∧ body.Nested (header.name :: around) ∧ rest.Nested around

end Blocks

/-! ### The meaning of structured programs -/

/-- What a structured program works on: its variables, the answers still to come, and what has
been seen. -/
structure State where
  memory : Memory
  answers : Nat → String
  events : List Event

/-- How far a structured program has come: to its end, to a failure in a line, or to the number of
passes that its loops were granted. -/
inductive Result where
  | done
  | failed (line : Int) (cause : Cause)
  | unfinished

/-- Ask for a line and give it to a variable. -/
def State.ask (state : State) (prompt name : String) : State × Option Cause :=
  let line := state.answers 0
  let heard : State :=
    ⟨state.memory, Scene.later state.answers, state.events ++ [.input prompt]⟩
  if Value.isTextName name then
    ({ heard with memory := heard.memory.set name (.text line) }, none)
  else
    match Numeral.leading? line with
    | some x => ({ heard with memory := heard.memory.set name (.real x) }, none)
    | none => (heard, some .typeMismatch)

/-- Execute a simple statement; apart from the program it knows the variables only. -/
def perform (program : Program) (statement : Node) (state : State) : State × Option Cause :=
  match Session.execute statement { Session.fresh with program, memory := state.memory } with
  | (session, .done effects) =>
    ({ state with memory := session.memory, events := state.events ++ Scene.seen effects }, none)
  | (session, .failed cause) => ({ state with memory := session.memory }, some cause)
  | (session, .ask prompt name) => { state with memory := session.memory }.ask prompt name
  | (session, _) => ({ state with memory := session.memory }, none)

/-- Evaluate the start, the limit and the step of a loop once, in this order, and give the start
to its variable; what is handed over is the limit and the step. -/
def Header.enter (header : Header) (memory : Memory) : Memory × Except Cause (Float × Float) :=
  match header.start.evaluateFloat memory with
  | (memory, .error cause) => (memory, .error cause)
  | (memory, .ok first) =>
    match header.limit.evaluateFloat memory with
    | (memory, .error cause) => (memory, .error cause)
    | (memory, .ok last) =>
      match header.step.evaluateFloat memory with
      | (memory, .error cause) => (memory, .error cause)
      | (memory, .ok stride) => (memory.set header.name (.real first), .ok (last, stride))

/-- Whether a loop does another pass: its variable has not passed the limit in the direction of
the step. -/
def again (last stride value : Float) : Bool :=
  ((Number.int 0).below (.real stride) && (Number.real value).atMost (.real last)) ||
    ((Number.real stride).below (.int 0) && (Number.real last).atMost (.real value))

/-- Add the step to the variable of a loop; what is handed over is whether the loop does another
pass. -/
def advance (name : String) (last stride : Float) (memory : Memory) :
    Memory × Except Cause Bool :=
  match (memory.get name).toFloat with
  | .error cause => (memory.touch name, .error cause)
  | .ok x =>
    ((memory.touch name).set name (.real (x + stride)), .ok (again last stride (x + stride)))

/-- Do the body of a loop and advance its variable, over and over, for at most a number of
passes. -/
def passes (body : State → State × Result) (onward : Memory → Memory × Except Cause Bool)
    (closing : Int) : Nat → State → State × Result
  | 0, state => (state, .unfinished)
  | granted + 1, state =>
    match body state with
    | (state, .done) =>
      match onward state.memory with
      | (memory, .error cause) => ({ state with memory }, .failed closing cause)
      | (memory, .ok true) => passes body onward closing granted { state with memory }
      | (memory, .ok false) => ({ state with memory }, .done)
    | (state, result) => (state, result)

/-- **The meaning of a structured program**, as far as it is reached when each loop is granted a
number of passes. -/
def Blocks.exec (program : Program) (granted : Nat) : Blocks → State → State × Result
  | .nil, state => (state, .done)
  | .simple number entry rest, state =>
    match perform program entry.statement state with
    | (state, some cause) => (state, .failed number cause)
    | (state, none) => rest.exec program granted state
  | .loop header body footer rest, state =>
    match header.enter state.memory with
    | (memory, .error cause) => ({ state with memory }, .failed header.number cause)
    | (memory, .ok (last, stride)) =>
      match passes (fun state => body.exec program granted state)
          (advance header.name last stride) footer.number granted { state with memory } with
      | (state, .done) => rest.exec program granted state
      | (state, result) => (state, result)

/-! ### More passes -/

/-- Passes that come to an end do so with more of them, and with a body that agrees wherever the
first one ends. -/
theorem passes_more {body fuller : State → State × Result}
    (agree : ∀ state, (body state).2 ≠ .unfinished → fuller state = body state)
    (onward : Memory → Memory × Except Cause Bool) (closing : Int) {granted more : Nat}
    (within : granted ≤ more) (state : State)
    (complete : (passes body onward closing granted state).2 ≠ .unfinished) :
    passes fuller onward closing more state = passes body onward closing granted state := by
  induction granted generalizing more state with
  | zero => exact absurd rfl complete
  | succ granted hypothesis =>
    obtain ⟨more, rfl⟩ : ∃ fewer, more = fewer + 1 := ⟨more - 1, by omega⟩
    rw [passes] at complete ⊢
    rw [passes]
    have same := agree state
    rcases executed : body state with ⟨after, done | ⟨line, cause⟩ | unfinished⟩
    all_goals rw [executed] at complete same
    · rw [same nofun]
      simp only at complete ⊢
      generalize onward after.memory = advanced at complete ⊢
      rcases advanced with ⟨memory, cause | _ | _⟩
      · rfl
      · rfl
      · exact hypothesis (by omega) _ complete
    · rw [same nofun]
    · exact absurd rfl complete

/-- **The meaning of a structured program does not depend on the passes granted**, once they are
enough for it to end. -/
theorem exec_more (program : Program) {granted more : Nat} (within : granted ≤ more)
    (blocks : Blocks) (state : State)
    (complete : (blocks.exec program granted state).2 ≠ .unfinished) :
    blocks.exec program more state = blocks.exec program granted state := by
  induction blocks generalizing state with
  | nil => rfl
  | simple number entry rest hypothesis =>
    rw [Blocks.exec] at complete ⊢
    rw [Blocks.exec]
    generalize perform program entry.statement state = performed at complete ⊢
    rcases performed with ⟨after, none | cause⟩
    · exact hypothesis after complete
    · rfl
  | loop header body footer rest bodyHypothesis hypothesis =>
    rw [Blocks.exec] at complete ⊢
    rw [Blocks.exec]
    generalize header.enter state.memory = entered at complete ⊢
    rcases entered with ⟨memory, cause | ⟨last, stride⟩⟩
    · rfl
    · simp only at complete ⊢
      have same := passes_more (fun state => bodyHypothesis state)
        (advance header.name last stride) footer.number within { state with memory }
      rcases passed : passes (fun state => body.exec program granted state)
        (advance header.name last stride) footer.number granted { state with memory } with
        ⟨after, done | ⟨line, cause⟩ | unfinished⟩
      all_goals rw [passed] at complete same
      · rw [same nofun]
        exact hypothesis after complete
      · rw [same nofun]
      · exact absurd rfl complete

end LineBasic.Structured
