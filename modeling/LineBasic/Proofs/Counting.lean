/-
**Loops over whole numbers count exactly.**

A loop adds its step to its variable after each pass and does another pass as long as the variable
has not passed the limit. If start, limit and step are whole numbers of which no sum is larger than
`2 ^ 53`, floats are exact, and the loop does as many passes as the step fits into the range, and
one more, and at least one. Its lines may do what they like, as long as they spare the variable, the
loops and the course of the run.

* `Session.Spares`, `walks_spared` — a line that spares them leads to the next one;
* `again_iff`, `advance_whole` — the step of a loop over whole numbers;
* `walks_passes` — the passes of a loop, by induction on those that are left;
* `Session.loop_counts` — a loop over whole numbers counts exactly.
-/

import LineBasic.Proofs.Rounding.Exact
import LineBasic.Proofs.Visits

namespace LineBasic

/-- The exact value of a number; a text has none. -/
def Value.reading : Value → Option Exact
  | .number n => some n.exact
  | .text _ => none

/-- A variable holds a float that is a whole number. -/
def Memory.Counts (memory : Memory) (name : String) (n : ℤ) : Prop :=
  ∃ x, memory.get name = .real x ∧ Exact.ofFloat x = .finite n

theorem Memory.Counts.reading {memory : Memory} {name : String} {n : ℤ}
    (counts : memory.Counts name n) : (memory.get name).reading = some (.finite n) := by
  obtain ⟨x, holds, isWhole⟩ := counts
  rw [holds]
  exact congrArg some isWhole

/-! ### Lines that spare a variable -/

/-- **A statement spares a variable**, and the loops and the course of the run: it neither assigns
the variable nor touches the loops, and it neither jumps nor stops nor fails. If it asks for a
line, the line that it gets is accepted. -/
def Session.Spares (session : Session) (statement : Node) (name answer : String) : Prop :=
  let after := (session.execute statement).1
  after.memory.get name = session.memory.get name ∧ after.loops = session.loops ∧
    after.jump = session.jump ∧ after.running = session.running ∧
    match (session.execute statement).2 with
    | .done _ => True
    | .ask _ asked =>
      asked ≠ name ∧ (Value.isTextName asked = true ∨ (Numeral.leading? answer).isSome = true)
    | _ => False

namespace Structured.Running

variable {run : Running} {loops : List LoopFrame} {current : Option Int} {state : State}
  {name : String}

/-- A statement that spares a variable changes other variables only. -/
theorem execute_spared {session : Session} {statement : Node} {answer : String}
    (running : session.running = true) (spares : session.Spares statement name answer) :
    ∃ memory outcome, memory.get name = session.memory.get name ∧
      session.execute statement = ({ session with memory }, outcome) ∧
      ((∃ effects, outcome = .done effects) ∨ ∃ prompt asked, outcome = .ask prompt asked ∧
        asked ≠ name ∧
        (Value.isTextName asked = true ∨ (Numeral.leading? answer).isSome = true)) := by
  obtain ⟨sameValue, sameLoops, sameJump, stillRunning, ends⟩ := spares
  obtain ⟨sameProgram, sameCurrent⟩ := Session.execute_place (stillRunning.trans running)
  rcases executed : session.execute statement with
    ⟨⟨program, memory, loops, current, on, jump⟩, outcome⟩
  rw [executed] at sameValue sameLoops sameJump stillRunning sameProgram sameCurrent ends
  simp only at sameValue sameLoops sameJump stillRunning sameProgram sameCurrent ends
  refine ⟨memory, outcome, sameValue, ?_, ?_⟩
  · rw [sameLoops, sameJump, stillRunning, sameProgram, sameCurrent]
  · split at ends
    · exact .inl ⟨_, rfl⟩
    · exact .inr ⟨_, _, rfl, ends⟩
    · exact ends.elim

/-- A question for another variable is answered, and the line is done. -/
theorem tick_heard (run : Running) (loops : List LoopFrame) (line : Int) (place : Nat)
    (prompt : String) {asked : String} (state : State) (other : asked ≠ name)
    (accepted : Value.isTextName asked = true ∨
      (Numeral.leading? (state.answers 0)).isSome = true) :
    ∃ after : State, after.memory.get name = state.memory.get name ∧
      (run.scene loops (some line) none place (.awaiting prompt asked) state).tick =
        run.scene loops (some line) none place .completed after := by
  have kept : ∀ value, (state.memory.set asked value).get name = state.memory.get name :=
    fun value => by rw [Memory.get_set, if_neg other.symm]
  rw [tick_awaiting]
  unfold State.ask
  by_cases isText : Value.isTextName asked = true
  · simp only [isText, if_true]
    exact ⟨_, kept _, rfl⟩
  · obtain ⟨x, found⟩ := Option.isSome_iff_exists.mp (accepted.resolve_left isText)
    simp only [isText, found]
    exact ⟨_, kept _, rfl⟩

/-- **A line that spares a variable leads to the next one.** -/
theorem walks_spared {earlier later : List (Int × Entry)} {line : Int × Entry}
    (stored : run.program.lines = earlier ++ line :: later)
    (spares : Session.Spares ⟨run.program, state.memory, loops, some line.1, true, none⟩
      line.2.statement name (state.answers 0)) (current : Option Int) :
    ∃ after : State, after.memory.get name = state.memory.get name ∧
      (run.before loops current earlier.length state).Walks [⟨line.1, state.memory⟩]
        (run.before loops (some line.1) (earlier.length + 1) after) := by
  obtain ⟨memory, outcome, sameValue, executed, ends⟩ := execute_spared rfl spares
  rcases ends with ⟨effects, rfl⟩ | ⟨prompt, asked, rfl, other, accepted⟩
  · refine ⟨⟨memory, state.answers, state.events ++ Scene.seen effects⟩, sameValue, ?_⟩
    refine walks_before stored ?_
    rw [tick_done executed]
    exact walks_completed run loops _ _ _
  · obtain ⟨after, sameValue', heard⟩ := tick_heard run loops line.1 earlier.length prompt
      ⟨memory, state.answers, state.events⟩ other accepted
    refine ⟨after, sameValue'.trans sameValue, walks_before stored ?_⟩
    rw [tick_ask executed]
    exact Scene.Walks.tick heard (walks_completed run loops _ _ _)

end Structured.Running

/-- Of some lines, the one that a scene is about to execute spares a variable. -/
def Scene.Spares (scene : Scene) (lines : List (Int × Entry)) (name : String) : Prop :=
  ∀ line ∈ lines, scene.ending = none → scene.session.current = some line.1 →
    scene.activity.stage = .execute line.2.statement →
    scene.session.Spares line.2.statement name (scene.answers 0)

/-- What holds all through a scene holds all through the scenes that it leads to. -/
theorem Scene.Walks.always {scene next : Scene} {visited : List Visit}
    (walks : scene.Walks visited next) (Holds : Scene → Prop) (always : ∀ n, Holds (scene.play n))
    (n : ℕ) : Holds (next.play n) := by
  obtain ⟨first, rfl, -⟩ := walks
  rw [← Scene.play_add]
  exact always (first + n)

/-- What a visit finds in a variable, beside the line. -/
def Visit.reading (name : String) (visit : Visit) : Int × Option Exact :=
  (visit.line, (visit.memory.get name).reading)

namespace Structured.Running

variable {run : Running} {loops : List LoopFrame} {current : Option Int} {state : State}
  {name : String}

/-- Lines that spare a variable lead behind the last of them. -/
theorem walks_body {earlier body later : List (Int × Entry)}
    (stored : run.program.lines = earlier ++ (body ++ later))
    (spares : ∀ n, ((run.before loops current earlier.length state).play n).Spares body name) :
    ∃ current' visited, ∃ after : State, after.memory.get name = state.memory.get name ∧
      visited.map (Visit.reading name) =
        body.map (fun line => (line.1, (state.memory.get name).reading)) ∧
      (run.before loops current earlier.length state).Walks visited
        (run.before loops current' (earlier.length + body.length) after) := by
  induction body generalizing earlier current state with
  | nil => exact ⟨current, [], state, rfl, rfl, .refl _⟩
  | cons line body hypothesis =>
    have taken := tick_before stored loops current state
    have sparesFirst := spares 1 line List.mem_cons_self
    rw [Scene.play, taken, Scene.play] at sparesFirst
    obtain ⟨middle, same, first⟩ := walks_spared stored (sparesFirst rfl rfl rfl) current
    have stored' : run.program.lines = (earlier ++ [line]) ++ (body ++ later) := by
      rw [stored, List.append_assoc]
      rfl
    have place : (earlier ++ [line]).length = earlier.length + 1 := List.length_append
    have sparesRest := first.always (Scene.Spares · body name)
      fun n other member => spares n other (List.mem_cons_of_mem line member)
    rw [← place] at sparesRest
    obtain ⟨current', visited, after, same', readings, second⟩ := hypothesis stored' sparesRest
    rw [place] at second
    refine ⟨current', ⟨line.1, state.memory⟩ :: visited, after, same'.trans same, ?_, ?_⟩
    · rw [List.map_cons, List.map_cons, readings, same]
      rfl
    · rw [List.length_cons, Nat.add_comm body.length 1, ← Nat.add_assoc]
      exact first.trans second

end Structured.Running

/-! ### The step of a loop over whole numbers -/

/-- Whether a loop does another pass, by the whole numbers of its limit, its step and its
variable. -/
def GoesOn (limit step value : ℤ) : Prop :=
  (0 < step ∧ value ≤ limit) ∨ (step < 0 ∧ limit ≤ value)

instance (limit step value : ℤ) : Decidable (GoesOn limit step value) :=
  inferInstanceAs (Decidable (_ ∨ _))

namespace Structured

open Rounding

section Step

variable {x last stride : Float} {name : String} {memory : Memory} {value limit step : ℤ}

theorem again_iff (isLimit : Exact.ofFloat last = .finite limit)
    (isStep : Exact.ofFloat stride = .finite step) (isValue : Exact.ofFloat x = .finite value) :
    again last stride x = decide (GoesOn limit step value) := by
  have zero : (Number.int 0).exact = .finite ((0 : ℤ) : Dyadic) := rfl
  rw [Bool.eq_iff_iff, decide_eq_true_iff, again, Bool.or_eq_true, Bool.and_eq_true,
    Bool.and_eq_true]
  exact or_congr
    (and_congr (below_iff (b := .real stride) zero isStep)
      (atMost_iff (a := .real x) (b := .real last) isValue isLimit))
    (and_congr (below_iff (a := .real stride) isStep zero)
      (atMost_iff (a := .real last) (b := .real x) isLimit isValue))

/-- **The step of a loop over whole numbers is exact**, and so is its decision. -/
theorem advance_whole (counts : memory.Counts name value)
    (isLimit : Exact.ofFloat last = .finite limit) (isStep : Exact.ofFloat stride = .finite step)
    (small : (value + step).natAbs ≤ 2 ^ 53) :
    ∃ after, advance name last stride memory =
        (after, .ok (decide (GoesOn limit step (value + step)))) ∧
      after.Counts name (value + step) := by
  obtain ⟨x, holds, isValue⟩ := counts
  have sum := exact_add isValue isStep small
  refine ⟨(memory.touch name).set name (.real (x + stride)), ?_, x + stride, ?_, sum⟩
  · have isFloat : (Value.real x).toFloat = .ok x := rfl
    rw [advance, holds, isFloat]
    simp only [again_iff isLimit isStep sum]
  · rw [Memory.get_set, if_pos rfl]

end Step

end Structured

/-! ### The start of a loop over whole numbers -/

/-- An expression that a whole number is written as. -/
inductive Node.IsWhole : Node → ℤ → Prop where
  | int (n : ℤ) : IsWhole (.number (.int n)) n
  | real {x : Float} {n : ℤ} (isWhole : Exact.ofFloat x = .finite n) :
      IsWhole (.number (.real x)) n
  | negative {node : Node} {n : ℤ} (isWhole : IsWhole node n) : IsWhole (.unary "-" node) (-n)

section Start

open Rounding

theorem toFloat?_int {n : ℤ} (small : n.natAbs ≤ 2 ^ 53) :
    (Number.int n).toFloat? = some (Float.ofInt n) := by
  have inside : 2 ^ 53 < Number.floatBound := by decide +kernel
  rw [Number.toFloat?, if_pos (small.trans_lt inside)]

/-- A whole number that is written down is evaluated to it. -/
theorem Node.IsWhole.evaluate {node : Node} {n : ℤ} (isWhole : node.IsWhole n)
    (small : n.natAbs ≤ 2 ^ 53) (memory : Memory) :
    ∃ value x, node.evaluate memory = (memory, .ok value) ∧ value.toFloat = .ok x ∧
      Exact.ofFloat x = .finite n := by
  induction isWhole with
  | int n =>
    refine ⟨.int n, .ofInt n, by rw [Node.evaluate], ?_, exact_ofInt small⟩
    rw [Value.int, Value.toFloat, toFloat?_int small]
  | @real x n isWhole => exact ⟨.real x, x, by rw [Node.evaluate], rfl, isWhole⟩
  | @negative node n isWhole hypothesis =>
    obtain ⟨value, x, evaluated, isFloat, same⟩ := hypothesis (by rwa [Int.natAbs_neg] at small)
    refine ⟨.real (-x), -x, ?_, rfl, exact_neg same⟩
    rw [Node.evaluate, evaluated]
    simp only [if_true, isFloat]
    rfl

theorem Node.IsWhole.evaluateFloat {node : Node} {n : ℤ} (isWhole : node.IsWhole n)
    (small : n.natAbs ≤ 2 ^ 53) (memory : Memory) :
    ∃ x, node.evaluateFloat memory = (memory, .ok x) ∧ Exact.ofFloat x = .finite n := by
  obtain ⟨value, x, evaluated, isFloat, same⟩ := isWhole.evaluate small memory
  refine ⟨x, ?_, same⟩
  rw [Node.evaluateFloat, evaluated]
  simp only [isFloat]

end Start

namespace Structured.Running

variable {run : Running} {loops : List LoopFrame} {current : Option Int} {state : State}

/-- A header over whole numbers opens a loop over them, and its variable starts at the first. -/
theorem walks_header {header : Header} {later : List (Int × Entry)} {first limit step : ℤ}
    (stored : run.program.lines = header.line :: later) (isFirst : header.start.IsWhole first)
    (isLimit : header.limit.IsWhole limit) (isStep : header.step.IsWhole step)
    (small : first.natAbs ≤ 2 ^ 53 ∧ limit.natAbs ≤ 2 ^ 53 ∧ step.natAbs ≤ 2 ^ 53)
    (current : Option Int) (state : State) :
    ∃ last stride, Exact.ofFloat last = .finite limit ∧ Exact.ofFloat stride = .finite step ∧
      ∃ after : State, after.memory.Counts header.name first ∧
        (run.before [] current 0 state).Walks [⟨header.number, state.memory⟩]
          (run.before [⟨header.name, last, stride, some header.number⟩] (some header.number) 1
            after) := by
  obtain ⟨x, evaluated, same⟩ := isFirst.evaluateFloat small.1 state.memory
  obtain ⟨last, evaluated', sameLast⟩ := isLimit.evaluateFloat small.2.1 state.memory
  obtain ⟨stride, evaluated'', sameStride⟩ := isStep.evaluateFloat small.2.2 state.memory
  have entered : header.enter state.memory =
      (state.memory.set header.name (.real x), .ok (last, stride)) := by
    simp only [Header.enter, evaluated, evaluated', evaluated'']
  have executed := execute_header header
    ⟨run.program, state.memory, [], some header.number, true, none⟩
  rw [entered] at executed
  refine ⟨last, stride, sameLast, sameStride,
    { state with memory := state.memory.set header.name (.real x) }, ⟨x, ?_, same⟩, ?_⟩
  · rw [Memory.get_set, if_pos rfl]
  · have opened : (run.scene [] (some header.number) none 0 (.execute header.line.2.statement)
        state).tick = run.scene [⟨header.name, last, stride, some header.number⟩]
          (some header.number) none 0 .completed
          { state with memory := state.memory.set header.name (.real x) } := by
      rw [tick_done executed, Scene.seen_note, Scene.seen_nil, List.append_nil]
      rfl
    have stored' : run.program.lines = [] ++ header.line :: later := stored
    exact walks_before stored' (opened ▸ walks_completed run _ _ 0 _)

/-- A footer over whole numbers goes back behind its header while the loop goes on, and closes the
loop otherwise. -/
theorem walks_footer {header : Header} {footer : Footer}
    {earlier later earlier' later' : List (Int × Entry)}
    (stored : run.program.lines = earlier ++ footer.line header.name :: later)
    (opened : run.program.lines = earlier' ++ header.line :: later')
    {last stride : Float} {value limit step : ℤ} (isLimit : Exact.ofFloat last = .finite limit)
    (isStep : Exact.ofFloat stride = .finite step) (small : (value + step).natAbs ≤ 2 ^ 53)
    (loops : List LoopFrame) (current : Option Int) (state : State)
    (counts : state.memory.Counts header.name value) :
    let loop : LoopFrame := ⟨header.name, last, stride, some header.number⟩
    ∃ after : State, after.memory.Counts header.name (value + step) ∧
      (run.before (loop :: loops) current earlier.length state).Walks
        [⟨footer.number, state.memory⟩]
        (if GoesOn limit step (value + step) then
          run.before (loop :: loops) (some footer.number) (earlier'.length + 1) after
        else run.before loops (some footer.number) (earlier.length + 1) after) := by
  intro loop
  obtain ⟨memory, advanced, counts'⟩ := advance_whole counts isLimit isStep small
  have executed := execute_footer footer
    ⟨run.program, state.memory, loop :: loops, some footer.number, true, none⟩ loop rfl rfl
  have sameAdvance : advance loop.name loop.limit loop.step state.memory =
      (memory, .ok (decide (GoesOn limit step (value + step)))) := advanced
  rw [sameAdvance] at executed
  refine ⟨{ state with memory }, counts', walks_before stored ?_⟩
  by_cases goesOn : GoesOn limit step (value + step)
  · rw [decide_eq_true goesOn] at executed
    rw [if_pos goesOn]
    have jumped : (run.scene (loop :: loops) (some footer.number) none earlier.length
        (.execute (footer.line header.name).2.statement) state).tick =
          run.scene (loop :: loops) (some footer.number) (some ⟨header.number, true⟩)
            earlier.length .completed { state with memory } := by
      rw [tick_done executed, Scene.seen_nil, List.append_nil]
    exact jumped ▸ Scene.Walks.tick (tick_jump opened) (.refl _)
  · rw [decide_eq_false goesOn] at executed
    rw [if_neg goesOn]
    have closed : (run.scene (loop :: loops) (some footer.number) none earlier.length
        (.execute (footer.line header.name).2.statement) state).tick =
          run.scene loops (some footer.number) none earlier.length .completed
            { state with memory } := by
      rw [tick_done executed, Scene.seen_note, Scene.seen_nil, List.append_nil]
    exact closed ▸ walks_completed run _ _ _ _

/-! ### The passes of a loop -/

section Passes

variable {header : Header} {body : List (Int × Entry)} {footer : Footer}
  {last stride : Float} {value first limit step : ℤ}

/-- What the lines of a pass find in the variable of the loop. -/
def passReadings (lines : List Int) (value : ℤ) : List (Int × Option Exact) :=
  lines.map fun line => (line, some (.finite value))

/-- **One pass**: the body, and the line that advances the variable. -/
theorem walks_pass
    (stored : run.program.lines = header.line :: (body ++ [footer.line header.name]))
    (isLimit : Exact.ofFloat last = .finite limit) (isStep : Exact.ofFloat stride = .finite step)
    (small : (value + step).natAbs ≤ 2 ^ 53) (counts : state.memory.Counts header.name value)
    (spares : ∀ n, ((run.before [⟨header.name, last, stride, some header.number⟩] current 1
      state).play n).Spares body header.name) :
    ∃ visited, ∃ after : State, after.memory.Counts header.name (value + step) ∧
      visited.map (Visit.reading header.name) =
        passReadings (body.map Prod.fst ++ [footer.number]) value ∧
      (run.before [⟨header.name, last, stride, some header.number⟩] current 1 state).Walks visited
        (if GoesOn limit step (value + step) then
          run.before [⟨header.name, last, stride, some header.number⟩] (some footer.number) 1 after
        else run.before [] (some footer.number) run.program.numbers.length after) := by
  have behind : run.program.lines = [header.line] ++ (body ++ [footer.line header.name]) := stored
  have closes : run.program.lines = (header.line :: body) ++ footer.line header.name :: [] := stored
  have opens : run.program.lines = [] ++ header.line :: (body ++ [footer.line header.name]) :=
    stored
  have place : (header.line :: body).length = 1 + body.length := by
    rw [List.length_cons, Nat.add_comm]
  have places : run.program.numbers.length = 1 + body.length + 1 := by
    rw [Program.numbers, List.length_map, closes, List.length_append, place]
    rfl
  obtain ⟨current', visited, middle, same, readings, bodyWalks⟩ := walks_body behind spares
  have counts' : middle.memory.Counts header.name value := by
    obtain ⟨x, holds, isWhole⟩ := counts
    exact ⟨x, same.trans holds, isWhole⟩
  obtain ⟨after, counts'', footerWalks⟩ :=
    walks_footer closes opens isLimit isStep small [] current' middle counts'
  rw [place, ← places] at footerWalks
  refine ⟨visited ++ [⟨footer.number, middle.memory⟩], after, counts'', ?_, ?_⟩
  · rw [List.map_append, readings, counts.reading, passReadings, List.map_append, List.map_map,
      List.map_singleton, List.map_singleton, Visit.reading, counts'.reading]
    rfl
  · exact bodyWalks.trans footerWalks

/-- **The passes of a loop**: the induction is on the passes that are left. -/
theorem walks_passes
    (stored : run.program.lines = header.line :: (body ++ [footer.line header.name]))
    (isLimit : Exact.ofFloat last = .finite limit) (isStep : Exact.ofFloat stride = .finite step)
    (left done : ℕ) (counts : state.memory.Counts header.name (first + done * step))
    (goesOn : ∀ i : ℕ, done < i → i ≤ done + left → GoesOn limit step (first + i * step))
    (ends : ¬GoesOn limit step (first + (done + left + 1 : ℕ) * step))
    (small : ∀ i : ℕ, i ≤ done + left + 1 → (first + i * step).natAbs ≤ 2 ^ 53)
    (spares : ∀ n, ((run.before [⟨header.name, last, stride, some header.number⟩] current 1
      state).play n).Spares body header.name) :
    ∃ current' visited, ∃ after : State,
      after.memory.Counts header.name (first + (done + left + 1 : ℕ) * step) ∧
      visited.map (Visit.reading header.name) = (List.range' done (left + 1)).flatMap (fun i : ℕ =>
        passReadings (body.map Prod.fst ++ [footer.number]) (first + i * step)) ∧
      (run.before [⟨header.name, last, stride, some header.number⟩] current 1 state).Walks visited
        (run.before [] current' run.program.numbers.length after) := by
  have next : first + done * step + step = first + (done + 1 : ℕ) * step := by
    push_cast
    ring
  induction left generalizing done current state with
  | zero =>
    obtain ⟨visited, after, counts', readings, walks⟩ :=
      walks_pass stored isLimit isStep (next ▸ small (done + 1) (by omega)) counts spares
    rw [next] at counts' walks
    rw [if_neg ends] at walks
    exact ⟨_, visited, after, counts', by simpa using readings, walks⟩
  | succ left hypothesis =>
    obtain ⟨visited, middle, counts', readings, walks⟩ :=
      walks_pass stored isLimit isStep (next ▸ small (done + 1) (by omega)) counts spares
    rw [next] at counts' walks
    rw [if_pos (goesOn (done + 1) (by omega) (by omega))] at walks
    have enough : done + 1 + left = done + (left + 1) := by omega
    obtain ⟨current', visited', after, counts'', readings', walks'⟩ :=
      hypothesis (done + 1) counts' (fun i after within => goesOn i (by omega) (by omega))
        (enough ▸ ends) (fun i within => small i (by omega))
        (walks.always (Scene.Spares · body header.name) spares) (by push_cast; ring)
    refine ⟨current', visited ++ visited', after, enough ▸ counts'', ?_, walks.trans walks'⟩
    have split : List.range' done (left + 1 + 1) = done :: List.range' (done + 1) (left + 1) :=
      List.range'_succ
    rw [List.map_append, readings, readings', split, List.flatMap_cons]

end Passes

end Structured.Running

/-! ### How many passes -/

section Count

variable {first limit step : ℤ}

/-- How many passes a loop does: as many as the step fits into the range, and one more, and at
least one. -/
def passCount (first limit step : ℤ) : ℕ :=
  (max 1 (⌊((limit - first : ℤ) : ℚ) / step⌋ + 1)).toNat

/-- A loop does another pass as long as the step fits into the range. -/
theorem goesOn_iff (moves : step ≠ 0) (i : ℕ) :
    GoesOn limit step (first + i * step) ↔ (i : ℤ) ≤ ⌊((limit - first : ℤ) : ℚ) / step⌋ := by
  rw [Int.le_floor]
  rcases lt_or_gt_of_ne moves with below | above
  · rw [le_div_iff_of_neg (by exact_mod_cast below)]
    have cast : ((limit - first : ℤ) : ℚ) ≤ ((i : ℤ) : ℚ) * step ↔ limit - first ≤ i * step := by
      exact_mod_cast Iff.rfl
    rw [cast]
    unfold GoesOn
    omega
  · rw [le_div_iff₀ (by exact_mod_cast above)]
    have cast : ((i : ℤ) : ℚ) * step ≤ ((limit - first : ℤ) : ℚ) ↔ i * step ≤ limit - first := by
      exact_mod_cast Iff.rfl
    rw [cast]
    unfold GoesOn
    omega

theorem one_le_passCount : 1 ≤ passCount first limit step := by
  unfold passCount
  omega

theorem goesOn_of_lt (moves : step ≠ 0) {i : ℕ} (later : 0 < i)
    (within : i < passCount first limit step) : GoesOn limit step (first + i * step) := by
  rw [goesOn_iff moves]
  unfold passCount at within
  omega

theorem not_goesOn_passCount (moves : step ≠ 0) :
    ¬GoesOn limit step (first + passCount first limit step * step) := by
  rw [goesOn_iff moves]
  unfold passCount
  omega

/-- The variable of a loop stays small: before the last step it has not passed the limit. -/
theorem small_of_le (moves : step ≠ 0) (small : first.natAbs + step.natAbs ≤ 2 ^ 53)
    (small' : limit.natAbs + step.natAbs ≤ 2 ^ 53) {i : ℕ}
    (within : i ≤ passCount first limit step) : (first + i * step).natAbs ≤ 2 ^ 53 := by
  match i with
  | 0 =>
    rw [Nat.cast_zero, zero_mul, add_zero]
    omega
  | 1 =>
    rw [Nat.cast_one, one_mul]
    omega
  | i + 2 =>
    have inside := goesOn_of_lt moves (Nat.succ_pos i) (Nat.lt_of_succ_le within)
    have next : first + ((i + 2 : ℕ) : ℤ) * step = first + ((i + 1 : ℕ) : ℤ) * step + step := by
      push_cast
      ring
    have above : 0 ≤ ((i + 1 : ℕ) : ℤ) := Int.natCast_nonneg _
    rw [next]
    generalize ((i + 1 : ℕ) : ℤ) = k at inside above ⊢
    rcases inside with ⟨upward, below⟩ | ⟨downward, beyond⟩
    · have moved := Int.mul_nonneg above upward.le
      omega
    · have moved := Int.mul_nonpos_of_nonneg_of_nonpos above downward.le
      omega

end Count

/-- **A loop over whole numbers counts exactly.** A program that is one loop, over whole numbers of
which no two have a sum above `2 ^ 53` and with lines in it that spare the variable, does the passes
that the step fits into the range, and one more, and at least one; in each of them all its lines
find the variable that many steps from the first number; and at its end the variable is one step
behind the last pass and no loop is open. -/
theorem Session.loop_counts {session : Session} {header : Structured.Header}
    {body : List (Int × Entry)} {footer : Structured.Footer} {first limit step : ℤ}
    (stored : session.program.lines = header.line :: (body ++ [footer.line header.name]))
    (isFirst : header.start.IsWhole first) (isLimit : header.limit.IsWhole limit)
    (isStep : header.step.IsWhole step) (moves : step ≠ 0) (small : |first| + |step| ≤ 2 ^ 53)
    (small' : |limit| + |step| ≤ 2 ^ 53) (answers : ℕ → String)
    (spares : ∀ n, ((Scene.opening session .ofRun answers).play n).Spares body header.name) :
    let run := Scene.opening session .ofRun answers
    let count := (max 1 (⌊((limit - first : ℤ) : ℚ) / step⌋ + 1)).toNat
    ∃ n entered passes, (run.play n).ending = some .finished ∧
      run.visits n = entered :: passes ∧ entered.line = header.number ∧
      passes.map (fun visit => (visit.line, (visit.memory.get header.name).reading)) =
        (List.range count).flatMap (fun i => (body.map Prod.fst ++ [footer.number]).map fun line =>
          (line, some (.finite ((first + i * step : ℤ) : Dyadic)))) ∧
      ((run.play n).session.memory.get header.name).reading =
        some (.finite ((first + count * step : ℤ) : Dyadic)) ∧
      (run.play n).session.loops = [] := by
  intro run count
  rw [Int.abs_eq_natAbs, Int.abs_eq_natAbs] at small small'
  have few : first.natAbs + step.natAbs ≤ 2 ^ 53 := by exact_mod_cast small
  have few' : limit.natAbs + step.natAbs ≤ 2 ^ 53 := by exact_mod_cast small'
  have inhabited : session.program.isEmpty = false := by
    rw [Program.isEmpty, stored]
    rfl
  have started := Structured.Running.tick_opening inhabited answers
  let running : Structured.Running := ⟨session.program, false⟩
  have stored' : running.program.lines = header.line :: (body ++ [footer.line header.name]) :=
    stored
  obtain ⟨last, stride, isLast, isStride, entered, counts, opens⟩ :=
    Structured.Running.walks_header stored' isFirst isLimit isStep (by omega) session.current
      (.initial answers)
  have begins : run.Walks [⟨header.number, .empty⟩] _ := Scene.Walks.tick started opens
  -- The first pass is always done; the others are those that the step allows.
  have one : 1 ≤ count := one_le_passCount
  have length : 0 + (count - 1) + 1 = count := by omega
  have start : entered.memory.Counts header.name (first + (0 : ℕ) * step) := by
    rwa [Nat.cast_zero, zero_mul, add_zero]
  obtain ⟨current, visited, after, counts', readings, walks⟩ :=
    Structured.Running.walks_passes stored' isLast isStride (count - 1) 0 start
      (fun i later within => goesOn_of_lt moves later (show i < count by omega))
      (length.symm ▸ not_goesOn_passCount moves)
      (fun i within => small_of_le moves few few' (show i ≤ count by omega))
      (begins.always (Scene.Spares · body header.name) spares)
  obtain ⟨n, played, seen⟩ :=
    (begins.trans walks).trans (Structured.Running.walks_last running [] current after)
  refine ⟨n, ⟨header.number, .empty⟩, visited, ?_, ?_, rfl, ?_, ?_, ?_⟩
  · rw [played]
    rfl
  · rw [seen, List.append_nil, List.singleton_append]
  · rw [List.range_eq_range', ← Nat.sub_add_cancel one]
    exact readings
  · rw [played, ← length]
    exact counts'.reading
  · rw [played]
    rfl

/-- A loop from seven down to minus one by threes does three passes, whatever is typed in. -/
theorem Session.loop_counts_down :
    ∃ session : Session, session.program.lines =
        [(10, ⟨"10 FOR I=7 TO -1 STEP -3", .forLoop "I" (.number (.int 7))
            (.unary "-" (.number (.int 1))) (.unary "-" (.number (.int 3)))⟩),
          (20, ⟨"20 PRINT I", .print [.named "I"] []⟩),
          (30, ⟨"30 INPUT A$", .input "" "A$"⟩), (40, ⟨"40 NEXT I", .next (some "I")⟩)] ∧
      ∀ answers, ∃ n entered passes,
        ((Scene.opening session .ofRun answers).play n).ending = some .finished ∧
        (Scene.opening session .ofRun answers).visits n = entered :: passes ∧
        entered.line = 10 ∧
        passes.map (fun visit => (visit.line, (visit.memory.get "I").reading)) =
          ([7, 4, 1] : List ℤ).flatMap (fun value => [20, 30, 40].map fun line =>
            (line, some (.finite (value : Dyadic)))) := by
  let header : Structured.Header :=
    ⟨10, "10 FOR I=7 TO -1 STEP -3", "I", .number (.int 7), .unary "-" (.number (.int 1)),
      .unary "-" (.number (.int 3))⟩
  let body : List (Int × Entry) :=
    [(20, ⟨"20 PRINT I", .print [.named "I"] []⟩), (30, ⟨"30 INPUT A$", .input "" "A$"⟩)]
  let footer : Structured.Footer := ⟨40, "40 NEXT I", true⟩
  have ascending : (header.line :: (body ++ [footer.line header.name])).Pairwise
      fun line later => line.1 < later.1 := by
    simp [header, body, footer, Structured.Header.line, Structured.Footer.line]
  let session : Session := { Session.fresh with program := ⟨_, ascending⟩ }
  have prints (session : Session) (answer : String) :
      session.Spares (.print [.named "I"] []) "I" answer := by
    simp [Session.Spares, Session.execute, Session.executePrint, Session.printed, Node.evaluate,
      Memory.get_touch]
  have asks (session : Session) (answer : String) :
      session.Spares (.input "" "A$") "I" answer := by
    simp [Session.Spares, Session.execute, show Value.isTextName "A$" = true by decide]
  refine ⟨session, rfl, fun answers => ?_⟩
  have spares : ∀ n, ((Scene.opening session .ofRun answers).play n).Spares body "I" := by
    intro n line member _ _ _
    rcases List.mem_pair.mp member with rfl | rfl
    · exact prints _ _
    · exact asks _ _
  have stored : session.program.lines = header.line :: (body ++ [footer.line header.name]) := rfl
  obtain ⟨n, entered, passes, finished, visited, opened, readings, -⟩ :=
    Session.loop_counts stored (.int 7) (.negative (.int 1)) (.negative (.int 3)) (by decide)
      (by decide) (by decide) answers spares
  have fits : ⌊((-1 - 7 : ℤ) : ℚ) / (-3 : ℤ)⌋ = 2 := by
    rw [Int.floor_eq_iff]
    norm_num
  rw [fits] at readings
  exact ⟨n, entered, passes, finished, visited, opened, readings⟩

end LineBasic
