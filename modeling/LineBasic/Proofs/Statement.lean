/-
**What one statement can do.**

A statement is looked through to the one that its conditions guard. All that executing it can
come to is listed once, as the cases of `Executes`; what holds of every statement is then shown
by going through these cases, and the definitions of the statements are not opened again.

* `executes` — executing a statement comes to one of the cases;
* `execute_failed` — a failed statement has only read.
-/

import LineBasic.Proofs.Variables

namespace LineBasic

namespace Node

/-- The statement that the conditions around it guard. -/
def innermost : Node → Node
  | ifThen _ statement => statement.innermost
  | node => node

/-- Whether a statement opens a loop over a variable, perhaps under conditions. -/
def Opens (statement : Node) (name : String) : Prop :=
  ∃ start limit step, statement.innermost = forLoop name start limit step

end Node

namespace Session

/-- What executing a statement in a session can come to. -/
inductive Executes (session : Session) (statement : Node) : Session × Outcome → Prop where
  | failed (memory : Memory) (cause : Cause) (reads : session.memory.ReadsTo memory) :
      Executes session statement ({ session with memory }, .failed cause)
  | shown (memory : Memory) (effects : List Effect) (reads : session.memory.ReadsTo memory) :
      Executes session statement ({ session with memory }, .done effects)
  | asked (memory : Memory) (prompt name : String) (reads : session.memory.ReadsTo memory)
      (named : ∃ words, statement.innermost = .input words name) :
      Executes session statement ({ session with memory }, .ask prompt name)
  | started (memory : Memory) (reads : session.memory.ReadsTo memory)
      (idle : session.running = false) (spelled : statement.innermost = .run) :
      Executes session statement ({ session with memory }, .start)
  | assigned (memory : Memory) (name : String) (value : Value)
      (reads : session.memory.ReadsTo memory) :
      Executes session statement ({ session with memory := memory.set name value }, .done [])
  | jumped (memory : Memory) (line : Int) (entry : Entry)
      (reads : session.memory.ReadsTo memory) (stored : session.program.find? line = some entry) :
      Executes session statement ({ session with memory, jump := some ⟨line, false⟩ }, .done [])
  | opened (memory : Memory) (name : String) (start limit step : Float)
      (reads : session.memory.ReadsTo memory) (opens : statement.Opens name) :
      Executes session statement (openLoop name start limit step { session with memory })
  | returned (memory : Memory) (frame : LoopFrame) (outer : List LoopFrame) (value : Float)
      (line : Int) (reads : session.memory.ReadsTo memory)
      (innermost : session.loops = frame :: outer) (origin : frame.returnLine = some line) :
      Executes session statement
        ({ session with
            memory := memory.set frame.name (.real value), jump := some ⟨line, true⟩ }, .done [])
  | closed (memory : Memory) (frame : LoopFrame) (outer : List LoopFrame) (value : Float)
      (reads : session.memory.ReadsTo memory) (innermost : session.loops = frame :: outer) :
      Executes session statement
        ({ session with memory := memory.set frame.name (.real value), loops := outer },
          .done [.note (.loopDone frame.name)])
  | stopped (memory : Memory) (reads : session.memory.ReadsTo memory) :
      Executes session statement ({ session with memory, running := false }, .done [])
  | restarted (first : Int) (others : List Int) (running : session.running = true)
      (numbers : session.program.numbers = first :: others) :
      Executes session statement
        ({ session.restarted with jump := some ⟨first, false⟩ }, .done [])
  | stranded (running : session.running = true) (numbers : session.program.numbers = []) :
      Executes session statement (session.restarted, .fault .noLines)
  | cleared :
      Executes session statement (session.cleared, .done [.line ""])

section Cases

variable {session : Session}

theorem executes_print (items : List Node) (separators : List String) (session : Session) :
    Executes session (.print items separators) (executePrint items separators session) := by
  have reads := printed_readsTo items separators session.memory
  unfold executePrint
  split
  · next memory cause failed =>
    rw [failed] at reads
    exact .failed memory cause reads
  · next memory text printed =>
    rw [printed] at reads
    exact .shown memory _ reads

theorem executes_assign (name : String) (value : Node) (session : Session) :
    Executes session (.assign name value) (executeAssign name value session) := by
  have reads := value.evaluate_readsTo session.memory
  unfold executeAssign
  split
  · next memory cause failed =>
    rw [failed] at reads
    exact .failed memory cause reads
  · next memory value evaluated =>
    rw [evaluated] at reads
    exact .assigned memory name value reads

theorem executes_goto (line : Int) (session : Session) :
    Executes session (.goto line) (executeGoto line session) := by
  unfold executeGoto
  split
  · exact .failed session.memory _ (.refl _)
  · next entry stored => exact .jumped session.memory line entry (.refl _) stored

theorem executes_for (name : String) (start limit step : Node) (session : Session) :
    Executes session (.forLoop name start limit step)
      (executeFor name start limit step session) := by
  have first := start.evaluateFloat_readsTo session.memory
  unfold executeFor
  split
  · next memory cause failed =>
    rw [failed] at first
    exact .failed memory cause first
  · next memory from_ evaluated =>
    rw [evaluated] at first
    have second := limit.evaluateFloat_readsTo memory
    split
    · next memory' cause failed =>
      rw [failed] at second
      exact .failed memory' cause (first.trans second)
    · next memory' last evaluated' =>
      rw [evaluated'] at second
      have third := step.evaluateFloat_readsTo memory'
      split
      · next memory'' cause failed =>
        rw [failed] at third
        exact .failed memory'' cause ((first.trans second).trans third)
      · next memory'' stride evaluated'' =>
        rw [evaluated''] at third
        exact .opened memory'' name from_ last stride ((first.trans second).trans third)
          ⟨start, limit, step, rfl⟩

theorem executes_next (name : Option String) (session : Session) :
    Executes session (.next name) (executeNext name session) := by
  unfold executeNext
  split
  · exact .failed session.memory _ (.refl _)
  · next frame outer innermost =>
    have reads := session.memory.readsTo_touch frame.name
    split
    · exact .failed session.memory _ (.refl _)
    · simp only
      split
      · next cause _ => exact .failed _ cause reads
      · next x _ =>
        split
        · split
          · next line origin => exact .returned _ frame outer _ line reads innermost origin
          · exact .assigned _ frame.name _ reads
        · exact .closed _ frame outer _ reads innermost

theorem executes_run (session : Session) : Executes session .run (executeRun session) := by
  unfold executeRun
  split
  · next running =>
    split
    · next first others numbers => exact .restarted first others running numbers
    · next numbers => exact .stranded running numbers
  · next idle => exact .started session.memory (.refl _) (by simpa using idle) rfl

theorem executes_list (first last : Option Int) (session : Session) :
    Executes session (.list first last) (executeList first last session) := by
  unfold executeList
  split
  · exact .shown session.memory _ (.refl _)
  · exact .shown session.memory _ (.refl _)

/-- What a guarded statement comes to, its condition comes to as well. -/
theorem Executes.guarded {memory : Memory} {condition statement : Node}
    {result : Session × Outcome} (reads : session.memory.ReadsTo memory)
    (executes : Executes { session with memory } statement result) :
    Executes session (.ifThen condition statement) result := by
  cases executes with
  | failed memory' cause reads' => exact .failed memory' cause (reads.trans reads')
  | shown memory' effects reads' => exact .shown memory' effects (reads.trans reads')
  | asked memory' prompt name reads' named =>
    exact .asked memory' prompt name (reads.trans reads') named
  | started memory' reads' idle spelled =>
    exact .started memory' (reads.trans reads') idle spelled
  | assigned memory' name value reads' => exact .assigned memory' name value (reads.trans reads')
  | jumped memory' line entry reads' stored =>
    exact .jumped memory' line entry (reads.trans reads') stored
  | opened memory' name start limit step reads' opens =>
    exact .opened memory' name start limit step (reads.trans reads') opens
  | returned memory' frame outer value line reads' innermost origin =>
    exact .returned memory' frame outer value line (reads.trans reads') innermost origin
  | closed memory' frame outer value reads' innermost =>
    exact .closed memory' frame outer value (reads.trans reads') innermost
  | stopped memory' reads' => exact .stopped memory' (reads.trans reads')
  | restarted first others running numbers => exact .restarted first others running numbers
  | stranded running numbers => exact .stranded running numbers
  | cleared => exact .cleared

end Cases

/-- **Executing a statement comes to one of the cases of `Executes`.** -/
theorem executes (statement : Node) (session : Session) :
    Executes session statement (session.execute statement) := by
  fun_induction execute statement session with
  | case1 items separators session => exact executes_print items separators session
  | case2 name value session => exact executes_assign name value session
  | case3 prompt name session =>
    exact .asked session.memory _ name (.refl _) ⟨prompt, rfl⟩
  | case4 condition statement session memory cause failed =>
    have reads := condition.evaluate_readsTo session.memory
    rw [failed] at reads
    exact .failed memory cause reads
  | case5 condition statement session memory value evaluated holds hypothesis =>
    have reads := condition.evaluate_readsTo session.memory
    rw [evaluated] at reads
    exact hypothesis.guarded reads
  | case6 condition statement session memory value evaluated fails =>
    have reads := condition.evaluate_readsTo session.memory
    rw [evaluated] at reads
    exact .shown memory [] reads
  | case7 line session => exact executes_goto line session
  | case8 name start limit step session => exact executes_for name start limit step session
  | case9 name session => exact executes_next name session
  | case10 session => exact .stopped session.memory (.refl _)
  | case11 session => exact executes_run session
  | case12 first last session => exact executes_list first last session
  | case13 session => exact .cleared
  | case14 session => exact .shown session.memory _ (.refl _)
  | case15 text session => exact .shown session.memory _ (.refl _)
  | case16 session => exact .shown session.memory _ (.refl _)
  | case17 => exact .failed _ _ (.refl _)

/-- **A failed statement has only read.** -/
theorem execute_failed {statement : Node} {session after : Session} {cause : Cause}
    (failed : session.execute statement = (after, .failed cause)) :
    ∃ memory, session.memory.ReadsTo memory ∧ after = { session with memory } := by
  have executes := session.executes statement
  rw [failed] at executes
  cases executes with
  | failed memory cause reads => exact ⟨memory, reads, rfl⟩

end Session

end LineBasic
