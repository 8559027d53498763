/-
**The lines that a run takes up.**

A run visits a line when it is about to execute the statement of the line. The visits of a stretch
of a scene are its visits tick by tick, so stretches that follow each other have their visits one
after the other.

* `Scene.visits` — the visits of a stretch;
* `Scene.Walks` — a stretch from one scene to another, with its visits;
* `walks_before` — a run that stands before a line visits it first;
* `walks_last` — behind its last line a run visits nothing more, and is over.
-/

import LineBasic.Proofs.Structured.Run

namespace LineBasic

/-- While a program runs, it stays, and so does the current line. -/
theorem Session.execute_place {session : Session} {statement : Node}
    (running : (session.execute statement).1.running = true) :
    (session.execute statement).1.program = session.program ∧
      (session.execute statement).1.current = session.current := by
  have executes := session.executes statement
  generalize session.execute statement = result at executes running
  cases executes with
  | stopped => cases running
  | cleared => cases running
  | _ => exact ⟨rfl, rfl⟩

/-- A line that is taken up, and the variables as it finds them. -/
structure Visit where
  line : Int
  memory : Memory

namespace Scene

/-- The line that a scene is about to execute. -/
def visit? (scene : Scene) : Option Visit :=
  match scene.ending, scene.activity.stage, scene.session.current with
  | none, .execute _, some line => some ⟨line, scene.session.memory⟩
  | _, _, _ => none

/-- The lines that are taken up in a number of ticks. -/
def visits : Nat → Scene → List Visit
  | 0, _ => []
  | n + 1, scene => scene.visit?.toList ++ visits n scene.tick

/-- The visits of two stretches, one after the other. -/
theorem visits_add (first second : Nat) (scene : Scene) :
    scene.visits (first + second) = scene.visits first ++ (scene.play first).visits second := by
  induction first generalizing scene with
  | zero => rw [Nat.zero_add, visits, play, List.nil_append]
  | succ first hypothesis =>
    rw [Nat.succ_add, visits, visits, play, hypothesis, List.append_assoc]

/-- A scene that is over visits nothing. -/
theorem visits_over {scene : Scene} {ending : Ending} (isOver : scene.ending = some ending)
    (n : Nat) : scene.visits n = [] := by
  have none : scene.visit? = Option.none := by
    unfold visit?
    rw [isOver]
  induction n with
  | zero => rfl
  | succ n hypothesis =>
    rw [visits, none, tick_over isOver, hypothesis]
    rfl

/-- Where a scene is over, it has made all the visits that it ever makes. -/
theorem visits_complete {scene : Scene} {ending : Ending} {whole : Nat}
    (isOver : (scene.play whole).ending = some ending) (n : Nat) :
    scene.visits n <+: scene.visits whole := by
  rcases Nat.le_total n whole with before | after
  · obtain ⟨more, rfl⟩ := Nat.exists_eq_add_of_le before
    rw [visits_add]
    exact List.prefix_append _ _
  · obtain ⟨more, rfl⟩ := Nat.exists_eq_add_of_le after
    rw [visits_add, visits_over isOver, List.append_nil]

/-- A stretch of a scene that leads to another one, and its visits. -/
def Walks (scene : Scene) (visited : List Visit) (next : Scene) : Prop :=
  ∃ n, scene.play n = next ∧ scene.visits n = visited

section Walks

variable {scene middle next : Scene} {visited visited' : List Visit}

theorem Walks.refl (scene : Scene) : scene.Walks [] scene :=
  ⟨0, rfl, rfl⟩

theorem Walks.trans (first : scene.Walks visited middle) (second : middle.Walks visited' next) :
    scene.Walks (visited ++ visited') next := by
  obtain ⟨n, rfl, rfl⟩ := first
  obtain ⟨m, rfl, rfl⟩ := second
  exact ⟨n + m, play_add n m scene, visits_add n m scene⟩

/-- One tick, and then a stretch. -/
theorem Walks.tick (ticked : scene.tick = middle) (goesOn : middle.Walks visited next) :
    scene.Walks (scene.visit?.toList ++ visited) next := by
  subst ticked
  obtain ⟨n, played, rfl⟩ := goesOn
  exact ⟨n + 1, played, rfl⟩

end Walks

end Scene

namespace Structured.Running

variable {run : Running} {loops : List LoopFrame} {current : Option Int} {state : State}

/-- A run that stands before a line visits it first. -/
theorem walks_before {earlier later : List (Int × Entry)} {line : Int × Entry}
    (stored : run.program.lines = earlier ++ line :: later) {visited : List Visit} {next : Scene}
    (goesOn : (run.scene loops (some line.1) none earlier.length (.execute line.2.statement)
      state).tick.Walks visited next) :
    (run.before loops current earlier.length state).Walks (⟨line.1, state.memory⟩ :: visited)
      next :=
  Scene.Walks.tick (tick_before stored loops current state) (Scene.Walks.tick rfl goesOn)

/-- A line that leaves no jump leads to the next one. -/
theorem walks_completed (run : Running) (loops : List LoopFrame) (current : Option Int)
    (place : Nat) (state : State) :
    (run.scene loops current none place .completed state).Walks []
      (run.before loops current (place + 1) state) :=
  Scene.Walks.tick tick_completed (.refl _)

/-- A run that leaves its program visits nothing more, and is over. -/
theorem walks_stopped (run : Running) (loops : List LoopFrame) (current : Option Int)
    (jump : Option Jump) (place : Nat) (state : State) :
    (run.scene loops current jump place .stopped state).Walks [] (run.finished loops state) :=
  ⟨2, play_stopped, rfl⟩

/-- So does a run behind its last line. -/
theorem walks_last (run : Running) (loops : List LoopFrame) (current : Option Int)
    (state : State) :
    (run.before loops current run.program.numbers.length state).Walks []
      (run.finished loops state) := by
  have none : run.program.numbers[run.program.numbers.length]? = none :=
    List.getElem?_eq_none (Nat.le_refl _)
  have left : (run.before loops current run.program.numbers.length state).tick =
      run.scene loops current Option.none run.program.numbers.length .stopped state := by
    rw [Scene.tick_open rfl]
    simp only [before, scene, Session.step, Session.selectLine, Session.underCursor, if_true, none,
      Scene.follow, Activity.inStage, Scene.seen_nil, List.append_nil]
  exact Scene.Walks.tick left (walks_stopped run loops current _ _ state)

/-- So does a run in which a line has failed, after it has reported the failure. -/
theorem walks_failing (run : Running) (loops : List LoopFrame) (line : Int) (place : Nat)
    (cause : Cause) (state : State) :
    (run.failing loops line place cause state).Walks []
      (run.finished loops { state with events := shown (state, .failed line cause) }) :=
  Scene.Walks.tick rfl (walks_stopped run loops (some line) none place
    { state with events := shown (state, .failed line cause) })

end Structured.Running

end LineBasic
