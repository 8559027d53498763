/-
**That a variable was read is not noticed.**

Reading a name that has no value gives it one, but the same is read as before. Two sessions are
alike if they differ in nothing but in such names. An expression has the same value in both, every
statement comes to the same, and so does every step; so a host that uses one session notices what
it would notice with the other.

* `Memory.Alike`, `Session.Alike` — the same is read under every name, and all else is the same;
* `evaluate_agrees`, `execute_agrees`, `step_agrees` — alike sessions come to the same;
* `respond_agrees`, `serve_agrees` — a host notices the same of both;
* `reading_unnoticed` — alike sessions before every host, and a session that has only read.
-/

import LineBasic.Proofs.Host

namespace LineBasic

/-! ### Alike sessions -/

/-- Two results agree: the same was found, and what is left behind is alike. -/
structure Agrees {State Found : Type} (alike : State → State → Prop)
    (first second : State × Found) : Prop where
  alike : alike first.1 second.1
  same : first.2 = second.2

/-- What agrees with a result has found the same. -/
theorem Agrees.result {State Found : Type} {alike : State → State → Prop}
    {first second : State × Found} {after : State} {found : Found}
    (agrees : Agrees alike first second) (comes : first = (after, found)) :
    ∃ after', second = (after', found) ∧ alike after after' := by
  subst comes
  exact ⟨second.1, Prod.ext rfl agrees.same.symm, agrees.alike⟩

namespace Memory

/-- **The same is read under every name.** -/
def Alike (first second : Memory) : Prop :=
  ∀ name, first.get name = second.get name

section Alike

variable {first second : Memory}

theorem Alike.refl (memory : Memory) : memory.Alike memory :=
  fun _ => rfl

/-- Variables are alike before and after reading. -/
theorem alike_of_readsTo (reads : first.ReadsTo second) : first.Alike second :=
  fun name => (get_of_readsTo reads name).symm

theorem Alike.touch (alike : first.Alike second) (name : String) :
    (first.touch name).Alike (second.touch name) :=
  fun other => by rw [get_touch, get_touch, alike other]

theorem Alike.set (alike : first.Alike second) (name : String) (value : Value) :
    (first.set name value).Alike (second.set name value) :=
  fun other => by rw [get_set, get_set, alike other]

end Alike

end Memory

/-- **Two sessions that differ in nothing that can be read.** -/
structure Session.Alike (first second : Session) : Prop where
  program : first.program = second.program
  memory : first.memory.Alike second.memory
  loops : first.loops = second.loops
  current : first.current = second.current
  running : first.running = second.running
  jump : first.jump = second.jump

/-! ### Expressions -/

namespace Node

variable {first second : Memory}

/-- **An expression comes to the same with alike variables.** -/
theorem evaluate_agrees (node : Node) (alike : first.Alike second) :
    Agrees Memory.Alike (node.evaluate first) (node.evaluate second) := by
  fun_induction evaluate node first generalizing second with
  | case1 value first =>
    simp only [evaluate]
    exact ⟨alike, rfl⟩
  | case2 text first =>
    simp only [evaluate]
    exact ⟨alike, rfl⟩
  | case3 name first =>
    simp only [evaluate]
    exact ⟨alike.touch name, congrArg Except.ok (alike name)⟩
  | case4 operator left right first after cause failed hypothesis =>
    obtain ⟨after', failed', alike'⟩ := (hypothesis alike).result failed
    simp only [evaluate, failed']
    exact ⟨alike', rfl⟩
  | case5 operator left right first middle a evaluated after cause failed hypothesis
      hypothesis' =>
    obtain ⟨middle', evaluated', alike'⟩ := (hypothesis alike).result evaluated
    obtain ⟨after', failed', alike'⟩ := (hypothesis' alike').result failed
    simp only [evaluate, evaluated', failed']
    exact ⟨alike', rfl⟩
  | case6 operator left right first middle a evaluated after b later hypothesis hypothesis' =>
    obtain ⟨middle', evaluated', alike'⟩ := (hypothesis alike).result evaluated
    obtain ⟨after', later', alike'⟩ := (hypothesis' alike').result later
    simp only [evaluate, evaluated', later']
    exact ⟨alike', rfl⟩
  | case7 operator operand first after cause failed hypothesis =>
    obtain ⟨after', failed', alike'⟩ := (hypothesis alike).result failed
    simp only [evaluate, failed']
    exact ⟨alike', rfl⟩
  | case8 operand first after value evaluated hypothesis =>
    obtain ⟨after', evaluated', alike'⟩ := (hypothesis alike).result evaluated
    simp only [evaluate, evaluated', if_true]
    exact ⟨alike', rfl⟩
  | case9 operator operand first after value evaluated other hypothesis =>
    obtain ⟨after', evaluated', alike'⟩ := (hypothesis alike).result evaluated
    simp only [evaluate, evaluated', if_neg other]
    exact ⟨alike', rfl⟩
  | case10 first node =>
    rw [evaluate] <;> first | exact ⟨alike, rfl⟩ | assumption

theorem evaluateFloat_agrees (node : Node) (alike : first.Alike second) :
    Agrees Memory.Alike (node.evaluateFloat first) (node.evaluateFloat second) := by
  have agrees := node.evaluate_agrees alike
  unfold evaluateFloat
  rcases comes : node.evaluate first with ⟨after, cause | value⟩
  all_goals
    obtain ⟨after', comes', alike'⟩ := agrees.result comes
    rw [comes']
    exact ⟨alike', rfl⟩

end Node

namespace Session

/-- Printed items come to the same with alike variables. -/
theorem printed_agrees (items : List Node) (separators : List String) {first second : Memory}
    (alike : first.Alike second) :
    Agrees Memory.Alike (printed items separators first) (printed items separators second) := by
  induction items generalizing separators first second with
  | nil => exact ⟨alike, rfl⟩
  | cons item items hypothesis =>
    have agrees := item.evaluate_agrees alike
    unfold printed
    rcases comes : item.evaluate first with ⟨middle, cause | value⟩
    · obtain ⟨middle', comes', alike'⟩ := agrees.result comes
      rw [comes']
      exact ⟨alike', rfl⟩
    · obtain ⟨middle', comes', alike'⟩ := agrees.result comes
      have agrees' := hypothesis separators.tail alike'
      simp only [comes']
      rcases later : printed items separators.tail middle with ⟨after, cause | rest⟩
      all_goals
        obtain ⟨after', later', same⟩ := agrees'.result later
        rw [later']
        exact ⟨same, rfl⟩

/-! ### Statements -/

variable {first second : Session}

theorem Alike.refl (session : Session) : session.Alike session :=
  ⟨rfl, .refl _, rfl, rfl, rfl, rfl⟩

/-- Alike sessions have the same parts, but for their variables. -/
theorem Alike.parts (alike : first.Alike second) :
    ∃ program memory memory' loops current running jump,
      first = ⟨program, memory, loops, current, running, jump⟩ ∧
        second = ⟨program, memory', loops, current, running, jump⟩ ∧ memory.Alike memory' := by
  obtain ⟨program, memory, loops, current, running, jump⟩ := first
  obtain ⟨_, memory', _, _, _, _⟩ := second
  obtain ⟨rfl, same, rfl, rfl, rfl, rfl⟩ := alike
  exact ⟨program, memory, memory', loops, current, running, jump, rfl, rfl, same⟩

/-- Alike sessions stay alike when their variables are changed alike. -/
theorem Alike.reading (alike : first.Alike second) {before after : Memory}
    (same : before.Alike after) :
    Session.Alike { first with memory := before } { second with memory := after } :=
  { alike with memory := same }

theorem executePrint_agrees (items : List Node) (separators : List String)
    (alike : first.Alike second) :
    Agrees Session.Alike (executePrint items separators first)
      (executePrint items separators second) := by
  have agrees := printed_agrees items separators alike.memory
  unfold executePrint
  rcases comes : printed items separators first.memory with ⟨after, cause | text⟩
  all_goals
    obtain ⟨after', comes', same⟩ := agrees.result comes
    rw [comes']
    exact ⟨alike.reading same, rfl⟩

theorem executeAssign_agrees (name : String) (node : Node) (alike : first.Alike second) :
    Agrees Session.Alike (executeAssign name node first) (executeAssign name node second) := by
  have agrees := node.evaluate_agrees alike.memory
  unfold executeAssign
  rcases comes : node.evaluate first.memory with ⟨after, cause | value⟩
  · obtain ⟨after', comes', same⟩ := agrees.result comes
    rw [comes']
    exact ⟨alike.reading same, rfl⟩
  · obtain ⟨after', comes', same⟩ := agrees.result comes
    rw [comes']
    exact ⟨alike.reading (same.set name value), rfl⟩

theorem executeGoto_agrees (line : Int) (alike : first.Alike second) :
    Agrees Session.Alike (executeGoto line first) (executeGoto line second) := by
  obtain ⟨program, memory, memory', loops, current, running, jump, rfl, rfl, same⟩ := alike.parts
  simp only [executeGoto]
  cases program.find? line with
  | none => exact ⟨alike, rfl⟩
  | some entry => exact ⟨{ alike with jump := rfl }, rfl⟩

theorem openLoop_agrees (name : String) (start limit step : Float) (alike : first.Alike second) :
    Agrees Session.Alike (openLoop name start limit step first)
      (openLoop name start limit step second) := by
  obtain ⟨program, memory, memory', loops, current, running, jump, rfl, rfl, same⟩ := alike.parts
  exact ⟨{ alike with memory := same.set name _, loops := rfl }, rfl⟩

theorem executeFor_agrees (name : String) (start limit step : Node)
    (alike : first.Alike second) :
    Agrees Session.Alike (executeFor name start limit step first)
      (executeFor name start limit step second) := by
  have agrees := start.evaluateFloat_agrees alike.memory
  unfold executeFor
  rcases comes : start.evaluateFloat first.memory with ⟨memory, cause | x⟩
  all_goals obtain ⟨memory', comes', same⟩ := agrees.result comes
  all_goals simp only [comes']
  · exact ⟨alike.reading same, rfl⟩
  have agrees := limit.evaluateFloat_agrees same
  rcases comes : limit.evaluateFloat memory with ⟨memory, cause | last⟩
  all_goals obtain ⟨memory', comes', same⟩ := agrees.result comes
  all_goals simp only [comes']
  · exact ⟨alike.reading same, rfl⟩
  have agrees := step.evaluateFloat_agrees same
  rcases comes : step.evaluateFloat memory with ⟨memory, cause | stride⟩
  all_goals obtain ⟨memory', comes', same⟩ := agrees.result comes
  all_goals simp only [comes']
  · exact ⟨alike.reading same, rfl⟩
  exact openLoop_agrees name x last stride (alike.reading same)

theorem executeNext_agrees (name : Option String) (alike : first.Alike second) :
    Agrees Session.Alike (executeNext name first) (executeNext name second) := by
  obtain ⟨program, memory, memory', loops, current, running, jump, rfl, rfl, same⟩ := alike.parts
  simp only [executeNext]
  rcases loops with _ | ⟨frame, outer⟩
  · exact ⟨alike, rfl⟩
  · have touched := same.touch frame.name
    simp only [← same frame.name]
    split
    · exact ⟨alike, rfl⟩
    · rcases (memory.get frame.name).toFloat with cause | x
      · exact ⟨alike.reading touched, rfl⟩
      · have advanced := touched.set frame.name (.real (x + frame.step))
        simp only
        split
        · rcases frame.returnLine with _ | line
          · exact ⟨alike.reading advanced, rfl⟩
          · exact ⟨{ alike with memory := advanced, jump := rfl }, rfl⟩
        · exact ⟨{ alike with memory := advanced, loops := rfl }, rfl⟩

theorem executeRun_agrees (alike : first.Alike second) :
    Agrees Session.Alike (executeRun first) (executeRun second) := by
  have restarted : first.restarted.Alike second.restarted :=
    { alike with memory := .refl _, loops := rfl, jump := rfl }
  unfold executeRun
  rw [← alike.running, ← alike.program]
  split
  · split
    · exact ⟨{ restarted with jump := rfl }, rfl⟩
    · exact ⟨restarted, rfl⟩
  · exact ⟨alike, rfl⟩

theorem executeList_agrees (low high : Option Int) (alike : first.Alike second) :
    Agrees Session.Alike (executeList low high first) (executeList low high second) := by
  unfold executeList
  rw [← alike.program]
  split <;> exact ⟨alike, rfl⟩

/-- **A statement comes to the same in alike sessions.** -/
theorem execute_agrees (statement : Node) (alike : first.Alike second) :
    Agrees Session.Alike (execute statement first) (execute statement second) := by
  fun_induction execute statement first generalizing second with
  | case1 items separators first => exact executePrint_agrees items separators alike
  | case2 name value first => exact executeAssign_agrees name value alike
  | case3 prompt name first => exact ⟨alike, rfl⟩
  | case4 condition statement first after cause failed =>
    obtain ⟨after', failed', same⟩ := (condition.evaluate_agrees alike.memory).result failed
    simp only [execute, failed']
    exact ⟨alike.reading same, rfl⟩
  | case5 condition statement first after value evaluated holds hypothesis =>
    obtain ⟨after', evaluated', same⟩ := (condition.evaluate_agrees alike.memory).result evaluated
    simp only [execute, evaluated', holds, if_true]
    exact hypothesis (alike.reading same)
  | case6 condition statement first after value evaluated fails =>
    obtain ⟨after', evaluated', same⟩ := (condition.evaluate_agrees alike.memory).result evaluated
    simp only [execute, evaluated', if_neg fails]
    exact ⟨alike.reading same, rfl⟩
  | case7 line first => exact executeGoto_agrees line alike
  | case8 name start limit step first => exact executeFor_agrees name start limit step alike
  | case9 name first => exact executeNext_agrees name alike
  | case10 first => exact ⟨{ alike with running := rfl }, rfl⟩
  | case11 first => exact executeRun_agrees alike
  | case12 low high first => exact executeList_agrees low high alike
  | case13 first =>
    exact ⟨{ alike with program := rfl, memory := .refl _, loops := rfl, running := rfl }, rfl⟩
  | case14 first => exact ⟨alike, rfl⟩
  | case15 text first => exact ⟨alike, rfl⟩
  | case16 first => exact ⟨alike, rfl⟩
  | case17 first node =>
    rw [execute] <;> first | exact ⟨alike, rfl⟩ | assumption

/-! ### Steps -/

theorem readLine_agrees (activity : Activity) (line : String) (alike : first.Alike second) :
    Agrees Session.Alike (first.readLine activity line) (second.readLine activity line) := by
  obtain ⟨program, memory, memory', loops, current, running, jump, rfl, rfl, same⟩ := alike.parts
  unfold readLine
  split
  · exact ⟨alike, rfl⟩
  · split
    · exact ⟨alike, rfl⟩
    · exact ⟨alike, rfl⟩
    · split
      · exact ⟨alike, rfl⟩
      · next number statement _ =>
        simp only [store]
        split <;> exact ⟨{ alike with program := rfl }, rfl⟩
      · exact ⟨alike, rfl⟩

theorem beginRun_agrees (activity : Activity) (alike : first.Alike second) :
    Agrees Session.Alike (first.beginRun activity) (second.beginRun activity) := by
  unfold beginRun
  rw [← alike.program]
  split
  · exact ⟨alike, rfl⟩
  · exact ⟨{ alike with memory := .refl _, loops := rfl, running := rfl, jump := rfl }, rfl⟩

theorem selectLine_agrees (activity : Activity) (cursor : Cursor) (alike : first.Alike second) :
    Agrees Session.Alike (first.selectLine activity cursor)
      (second.selectLine activity cursor) := by
  obtain ⟨program, memory, memory', loops, current, running, jump, rfl, rfl, same⟩ := alike.parts
  simp only [selectLine, underCursor]
  rcases (if running = true then cursor.lines[cursor.index]? else none) with _ | line
  · exact ⟨alike, rfl⟩
  · simp only
    rcases program.find? line with _ | entry
    · exact ⟨{ alike with current := rfl }, rfl⟩
    · exact ⟨{ alike with current := rfl }, rfl⟩

theorem advance_agrees (activity : Activity) (cursor : Cursor) (alike : first.Alike second) :
    Agrees Session.Alike (first.advance activity cursor) (second.advance activity cursor) := by
  obtain ⟨program, memory, memory', loops, current, running, jump, rfl, rfl, same⟩ := alike.parts
  simp only [advance]
  rcases jump with _ | jump
  · exact ⟨alike, rfl⟩
  · simp only
    rcases cursor.lines.idxOf? jump.line with _ | index
    · exact ⟨alike, rfl⟩
    · exact ⟨{ alike with jump := rfl }, rfl⟩

theorem failStage_agrees (activity : Activity) (failure : Failure)
    (alike : first.Alike second) :
    Agrees Session.Alike (first.failStage activity failure)
      (second.failStage activity failure) := by
  unfold failStage
  rw [← alike.current]
  split
  · exact ⟨alike, rfl⟩
  · split <;> exact ⟨alike, rfl⟩

theorem executeStage_agrees (activity : Activity) (statement : Node)
    (alike : first.Alike second) :
    Agrees Session.Alike (first.executeStage activity statement)
      (second.executeStage activity statement) := by
  have agrees := execute_agrees statement alike
  unfold executeStage
  rcases comes : first.execute statement with
    ⟨after, effects | cause | fault | ⟨prompt, name⟩ | _⟩
  all_goals
    obtain ⟨after', comes', alike'⟩ := agrees.result comes
    rw [comes']
    exact ⟨alike', rfl⟩

theorem leaveRun_agrees (alike : first.Alike second) :
    Agrees Session.Alike first.leaveRun second.leaveRun :=
  ⟨{ alike with current := rfl, running := rfl, jump := rfl },
    congrArg (fun current => [Effect.note (.runStopped current)]) alike.current⟩

theorem leaveLine_alike (activity : Activity) (alike : first.Alike second) :
    (first.leaveLine activity).Alike (second.leaveLine activity) := by
  unfold leaveLine
  split
  · exact { alike with jump := rfl }
  · exact alike

/-- **A step comes to the same in alike sessions.** -/
theorem step_agrees (activity : Activity) (alike : first.Alike second) :
    Agrees Session.Alike (first.step activity) (second.step activity) := by
  unfold step
  split
  · exact readLine_agrees activity _ alike
  · exact beginRun_agrees activity alike
  · exact executeStage_agrees activity _ alike
  · exact ⟨alike, rfl⟩
  · exact selectLine_agrees activity _ alike
  · exact advance_agrees activity _ alike
  · exact failStage_agrees activity _ alike
  · have left := leaveRun_agrees alike
    rw [left.same]
    exact ⟨left.alike, rfl⟩
  · exact ⟨leaveLine_alike activity alike, rfl⟩
  · exact ⟨leaveLine_alike activity alike, rfl⟩
  · exact ⟨leaveLine_alike activity alike, rfl⟩

theorem answer_agrees (activity : Activity) (line : String) (alike : first.Alike second) :
    Agrees Session.Alike (first.answer activity line) (second.answer activity line) := by
  unfold answer
  split
  · split
    · exact ⟨alike.reading (alike.memory.set _ _), rfl⟩
    · split
      · exact ⟨alike.reading (alike.memory.set _ _), rfl⟩
      · exact ⟨alike, rfl⟩
  · exact ⟨alike, rfl⟩

theorem abandon_agrees (activity : Activity) (alike : first.Alike second) :
    Agrees Session.Alike (first.abandon activity) (second.abandon activity) := by
  have left := leaveRun_agrees alike
  unfold abandon
  split
  · exact ⟨leaveLine_alike activity left.alike, left.same⟩
  · exact ⟨leaveLine_alike activity alike, rfl⟩

end Session

/-! ### Hosts -/

namespace Sitting

/-- The same is under way in two sittings, with alike sessions. -/
structure Alike (first second : Sitting) : Prop where
  session : first.session.Alike second.session
  activities : first.activities = second.activities

section Hosts

variable {first second : Session}

/-- A call gives the same back, and leaves alike sittings alike. -/
theorem take_agrees (call : Call) {first second : Sitting} (alike : first.Alike second) :
    (first.take call).Alike (second.take call) ∧
      call.notice first.session = call.notice second.session := by
  cases call with
  | line line =>
    exact ⟨⟨alike.session, congrArg (Activity.ofLine line :: ·) alike.activities⟩, rfl⟩
  | run => exact ⟨⟨alike.session, congrArg (Activity.ofRun :: ·) alike.activities⟩, rfl⟩
  | startNew =>
    have cleared : first.session.cleared.Alike second.session.cleared :=
      { alike.session with program := rfl, memory := .refl _, loops := rfl, running := rfl }
    exact ⟨⟨cleared, alike.activities⟩, rfl⟩
  | read name =>
    exact ⟨⟨alike.session.reading (alike.session.memory.touch name), alike.activities⟩,
      congrArg Notice.value (alike.session.memory name)⟩
  | assign name value =>
    exact ⟨⟨alike.session.reading (alike.session.memory.set name value), alike.activities⟩, rfl⟩

/-- A move comes to the same for a host. -/
theorem settle_agrees (taken : List Effect → Nat) (activity : Activity) (others : List Activity)
    {moved moved' : Session × Move} (agrees : Agrees Session.Alike moved moved') :
    Agrees Alike (settle taken activity others moved) (settle taken activity others moved') := by
  rcases moved with ⟨after, ⟨following, effects⟩ | prompt | _ | failure | fault⟩
  all_goals
    obtain ⟨after', rfl, alike⟩ := agrees.result rfl
    simp only [settle]
  · split
    · exact ⟨⟨alike, rfl⟩, rfl⟩
    · have left := Session.abandon_agrees following alike
      rw [left.same]
      exact ⟨⟨left.alike, rfl⟩, rfl⟩
  · exact ⟨⟨alike, rfl⟩, rfl⟩
  · exact ⟨⟨alike, rfl⟩, rfl⟩
  · exact ⟨⟨alike, rfl⟩, rfl⟩
  · have left := Session.abandon_agrees activity alike
    rw [left.same]
    exact ⟨⟨left.alike, rfl⟩, rfl⟩

/-- **A deed comes to the same in alike sittings**: the host notices the same. -/
theorem respond_agrees (deed : Deed) {first second : Sitting} (alike : first.Alike second) :
    Agrees Alike (first.respond deed) (second.respond deed) := by
  obtain ⟨session, activities⟩ := first
  obtain ⟨session', activities'⟩ := second
  obtain ⟨same, rfl⟩ := alike
  cases deed with
  | call call =>
    have taken := take_agrees call ⟨same, rfl⟩
    simp only [respond]
    split
    · exact ⟨taken.1, taken.2⟩
    · exact ⟨⟨same, rfl⟩, rfl⟩
  | proceed taken =>
    rcases activities with _ | ⟨activity, others⟩
    · exact ⟨⟨same, rfl⟩, rfl⟩
    · exact settle_agrees taken activity others (Session.step_agrees activity same)
  | answer line =>
    rcases activities with _ | ⟨activity, others⟩
    · exact ⟨⟨same, rfl⟩, rfl⟩
    · have answered := Session.answer_agrees activity line same
      simp only [respond]
      split
      · exact ⟨⟨answered.alike, congrArg (· :: others) answered.same⟩, rfl⟩
      · exact ⟨⟨same, rfl⟩, rfl⟩
  | withhold =>
    rcases activities with _ | ⟨activity, others⟩
    · exact ⟨⟨same, rfl⟩, rfl⟩
    · have left := Session.abandon_agrees activity same
      simp only [respond]
      split
      · exact ⟨⟨left.alike, rfl⟩, congrArg Notice.brokenOff left.same⟩
      · exact ⟨⟨same, rfl⟩, rfl⟩

/-- **A host notices the same of alike sittings**, and leaves them alike. -/
theorem serve_agrees (host : List Notice → Deed) (n : Nat) (noticed : List Notice)
    {first second : Sitting} (alike : first.Alike second) :
    Agrees Alike (serve host n (first, noticed)) (serve host n (second, noticed)) := by
  induction n generalizing first second noticed with
  | zero => exact ⟨alike, rfl⟩
  | succ n hypothesis =>
    have agrees := respond_agrees (host noticed) alike
    simp only [serve]
    rw [agrees.same]
    exact hypothesis _ agrees.alike

/-- **That a variable was read is not noticed.** Whatever a host does, it notices the same of two
alike sessions and leaves them alike; and an expression has the same value in both, or none for the
same reason, and leaves each of them alike to what it was. -/
theorem reading_unnoticed {first second : Session} (alike : first.Alike second) :
    (∀ (activities : List Activity) (host : List Notice → Deed) (n : Nat),
      Agrees Alike (serve host n (⟨first, activities⟩, []))
        (serve host n (⟨second, activities⟩, []))) ∧
    ∀ expression : Node,
      (expression.evaluate first.memory).2 = (expression.evaluate second.memory).2 ∧
        first.Alike { first with memory := (expression.evaluate first.memory).1 } ∧
        second.Alike { second with memory := (expression.evaluate second.memory).1 } := by
  refine ⟨fun activities host n => serve_agrees host n [] ⟨alike, rfl⟩, fun expression => ?_⟩
  have onlyReads : ∀ session : Session,
      session.Alike { session with memory := (expression.evaluate session.memory).1 } :=
    fun session =>
      { Session.Alike.refl session with
        memory := Memory.alike_of_readsTo (expression.evaluate_readsTo session.memory) }
  exact ⟨(expression.evaluate_agrees alike.memory).same, onlyReads first, onlyReads second⟩

/-- A line that reads a variable, before and after the variable was read. -/
theorem reading_unnoticed_print :
    let read : Session := { Session.fresh with memory := Memory.empty.touch "A" }
    let host : List Notice → Deed := fun noticed =>
      if noticed.isEmpty then .call (.line "PRINT A") else .proceed List.length
    read.memory.find? "A" = some (.int 0) ∧ Session.fresh.Alike read ∧
      ∀ n, (serve host n (⟨Session.fresh, []⟩, [])).2 = (serve host n (⟨read, []⟩, [])).2 := by
  intro read host
  have alike : Session.fresh.Alike read :=
    { Session.Alike.refl Session.fresh with
      memory := Memory.alike_of_readsTo (Memory.readsTo_touch _ _) }
  have unnoticed := (reading_unnoticed alike).1 [] host
  exact ⟨rfl, alike, fun n => (unnoticed n).same⟩

end Hosts

end Sitting

end LineBasic
