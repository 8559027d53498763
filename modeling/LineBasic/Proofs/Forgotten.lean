/-
**A run that is started over while it waits.**

`RUN` inside a program starts it over in two parts: the variables and the open loops are dropped at
once, and a jump to the first line is left for the program to follow. Where `RUN` is typed while
the program waits for a line, the typed line ends before the program goes on, and the jump does not
outlive it. The program is not started over then: it goes on behind the line that asked, and what
it knew is gone.

* `Session.IsRun` — a typed line that comes to `RUN`;
* `Session.drive_typedRun` — what it does while a program is running;
* `Session.Forgets` — a program that goes on without what it knew;
* `Sitting.typedRun_forgets` — a typed `RUN` makes a program that waits forget;
* `Sitting.forgotten_in_the_middle` — a program that neither starts over nor keeps its variables.
-/

import LineBasic.Proofs.Suspended

namespace LineBasic

/-! ### A typed line that comes to `RUN` -/

namespace Session

/-- A typed line is a statement that comes to `RUN`, behind the conditions that stand before it. -/
def IsRun (memory : Memory) (typed : String) : Prop :=
  ∃ read statement after, tokens typed = .ok read ∧ Parser.line read = .ok statement ∧
    statement.comesTo memory = some (.run, after)

theorem isRun_run (memory : Memory) : IsRun memory "RUN" :=
  ⟨_, _, memory, tokens_run, Parser.line_run, rfl⟩

section Runs

variable {session : Session} {typed : String}

/-- A line that comes to `RUN` is executed. -/
theorem step_isRun (isRun : IsRun session.memory typed) :
    ∃ statement after, statement.comesTo session.memory = some (.run, after) ∧
      session.step (.ofLine typed) = (session, .next ⟨true, none, .execute statement⟩ []) := by
  obtain ⟨read, statement, after, isRead, parsed, comes⟩ := isRun
  have inked : Text.isBlankLine typed = false := by
    refine inked_of_line isRead fun nothing => ?_
    rw [parsed] at nothing
    cases nothing
    cases comes
  refine ⟨statement, after, comes, ?_⟩
  show session.readLine (.ofLine typed) typed = _
  unfold readLine
  rw [inked, isRead]
  simp only [Bool.false_eq_true, if_false, parsed]
  split
  · next wrong => cases wrong
  · next same =>
    cases same
    cases comes
  · next same =>
    cases same
    rfl

/-- **`RUN` that is typed while a program is running** drops the variables and the loops, and leaves
no jump. -/
theorem drive_typedRun {World : Type} (deliver : World → Effect → World × Option Fault)
    (steps : Nat) (world : World) (running : session.running = true)
    (stored : session.program.numbers ≠ []) (isRun : IsRun session.memory typed) :
    session.drive deliver (steps + 3) world (.ofLine typed) =
      (world, session.restarted, .finished) := by
  obtain ⟨statement, after, comes, reads⟩ := step_isRun isRun
  obtain ⟨first, others, shape⟩ := List.exists_cons_of_ne_nil stored
  have executes : session.step ⟨true, none, .execute statement⟩ =
      ({ session.restarted with jump := some ⟨first, false⟩ },
        .next ⟨true, none, .completed⟩ []) := by
    have starts : session.execute statement =
        ({ session.restarted with jump := some ⟨first, false⟩ }, .done []) := by
      rw [show session.execute statement = _ from session.execute_comesTo comes]
      simp only [execute, executeRun, running, shape, if_true, restarted]
    simp only [step, executeStage, starts, Activity.inStage]
  have ends : Session.step { session.restarted with jump := some ⟨first, false⟩ }
      ⟨true, none, .completed⟩ = (session.restarted, .finished) := rfl
  simp only [drive, reads, executes, ends, deliverAll]

end Runs

end Session

/-! ### A program that forgets -/

/-- **A program goes on behind the line that asked** without what it knew: of its variables there is
none but the one that was asked for, no loop is open, and it takes up the line that follows. What it
knew is kept exactly if there was nothing to know. -/
structure Session.Forgets (session resumed : Session) (immediate : Bool) (cursor : Cursor)
    (name : String) : Prop where
  running : resumed.running = true
  program : resumed.program = session.program
  loops : resumed.loops = []
  values : ∀ other, other ≠ name → resumed.memory.get other = Value.initial other
  onward : resumed.step ⟨immediate, some cursor, .completed⟩ =
    (resumed, .next (.onward immediate cursor) [])
  stops : cursor.lines[cursor.index + 1]? = none → resumed.step (.onward immediate cursor) =
    (resumed, .next ((Activity.onward immediate cursor).inStage .stopped) [])
  takes : ∀ following later, cursor.lines[cursor.index + 1]? = some following →
    session.program.find? following = some later → resumed.step (.onward immediate cursor) =
      ({ resumed with current := some following },
        .next ((Activity.onward immediate cursor).inStage (.execute later.statement)) [])
  keeps : (resumed.loops = session.loops ∧
      ∀ other, other ≠ name → resumed.memory.get other = session.memory.get other) ↔
    session.loops = [] ∧ ∀ other, other ≠ name → session.memory.get other = Value.initial other

namespace Sitting

section Forgetting

variable {before session : Session} {immediate : Bool} {cursor : Cursor} {line : Int}
  {entry : Entry} {prompt name : String}

/-- An answer that is taken sets the variable that was asked for. -/
theorem answer_completed {resumed : Session} {text : String}
    (accepted : session.answer ⟨immediate, some cursor, .awaiting prompt name⟩ text =
      (resumed, ⟨immediate, some cursor, .completed⟩)) :
    ∃ value, resumed = session.assign name value := by
  unfold Session.answer at accepted
  simp only at accepted
  split at accepted
  · exact ⟨_, (congrArg Prod.fst accepted).symm⟩
  · split at accepted
    · exact ⟨_, (congrArg Prod.fst accepted).symm⟩
    · cases accepted

/-- A program that was to start over goes on with an answer. -/
theorem forgets_of_answer {resumed : Session} {text : String} (running : session.running = true)
    (accepted : session.restarted.answer ⟨immediate, some cursor, .awaiting prompt name⟩ text =
      (resumed, ⟨immediate, some cursor, .completed⟩)) :
    session.Forgets resumed immediate cursor name := by
  obtain ⟨value, rfl⟩ := answer_completed accepted
  have initial : ∀ other, other ≠ name →
      (session.restarted.assign name value).memory.get other = Value.initial other := by
    intro other different
    exact (Memory.get_set ..).trans (if_neg different)
  have under : Session.underCursor (session.restarted.assign name value)
      { cursor with index := cursor.index + 1 } = cursor.lines[cursor.index + 1]? :=
    if_pos running
  constructor
  case running => exact running
  case program => rfl
  case loops => rfl
  case values => exact initial
  case onward => rfl
  case stops =>
    intro last
    simp only [Session.step, Session.selectLine, Activity.onward, under, last]
  case takes =>
    intro following later place found
    have found' : (session.restarted.assign name value).program.find? following = some later :=
      found
    simp only [Session.step, Session.selectLine, Activity.onward, under, place, found']
  case keeps =>
    constructor
    · rintro ⟨loops, values⟩
      exact ⟨loops.symm, fun other different =>
        (values other different).symm.trans (initial other different)⟩
    · rintro ⟨loops, values⟩
      exact ⟨loops.symm, fun other different =>
        (initial other different).trans (values other different).symm⟩

/-- **`RUN` that is typed while a program waits for a line** ends, however often it is typed, and
the program that is given its line then forgets: it is not started over. -/
theorem typedRun_forgets (under : before.underCursor cursor = some line)
    (found : before.program.find? line = some entry)
    (asks : Session.execute entry.statement { before with current := some line } =
      (session, .ask prompt name)) :
    (∀ (World : Type) (deliver : World → Effect → World × Option Fault) (steps : Nat)
        (world : World) (typed : String),
      (Session.IsRun session.memory typed →
        session.drive deliver (steps + 3) world (.ofLine typed) =
          (world, session.restarted, .finished)) ∧
      (Session.IsRun .empty typed →
        session.restarted.drive deliver (steps + 3) world (.ofLine typed) =
          (world, session.restarted, .finished))) ∧
    ∀ text resumed,
      session.restarted.answer ⟨immediate, some cursor, .awaiting prompt name⟩ text =
          (resumed, ⟨immediate, some cursor, .completed⟩) →
        session.Forgets resumed immediate cursor name := by
  obtain ⟨running, stored⟩ : session.running = true ∧ session.program.numbers ≠ [] := by
    have runs : before.running = true := by
      unfold Session.underCursor at under
      split at under
      · assumption
      · cases under
    have member : line ∈ before.program.numbers := Program.mem_numbers_iff.mpr ⟨entry, found⟩
    have executes := Session.executes entry.statement { before with current := some line }
    rw [asks] at executes
    cases executes
    exact ⟨runs, List.ne_nil_of_mem member⟩
  refine ⟨fun World deliver steps world typed => ⟨fun isRun => ?_, fun isRun => ?_⟩,
    fun text resumed => forgets_of_answer running⟩
  · exact session.drive_typedRun deliver steps world running stored isRun
  · exact session.restarted.drive_typedRun deliver steps world running stored isRun

/-- `RUN` is typed while the first of two lines waits. -/
theorem typedRun_forgets_end :
    ∃ session resumed : Session, session.program.numbers = [10, 20] ∧
      session.drive (fun (world : Unit) _ => (world, none)) 3 () (.ofLine "RUN") =
        ((), session.restarted, .finished) ∧
      session.Forgets resumed true ⟨[10, 20], 0⟩ "A$" := by
  obtain ⟨before, under, found, numbers⟩ : ∃ before : Session,
      before.underCursor ⟨[10, 20], 0⟩ = some 10 ∧
        before.program.find? 10 = some ⟨"10 INPUT A$", .input "" "A$"⟩ ∧
        before.program.numbers = [10, 20] :=
    ⟨{ Session.fresh with
        program := (Program.empty.insert 10 ⟨"10 INPUT A$", .input "" "A$"⟩).insert 20
          ⟨"20 END", .stop⟩
        running := true }, rfl, rfl, rfl⟩
  have asks : Session.execute (.input "" "A$") { before with current := some 10 } =
      ({ before with current := some 10 }, .ask Session.defaultPrompt "A$") := rfl
  obtain ⟨runs, forgets⟩ := @typedRun_forgets _ _ true _ _ _ _ _ under found asks
  exact ⟨{ before with current := some 10 }, _, numbers,
    (runs Unit _ 0 () "RUN").1 (Session.isRun_run _), forgets "X" _ rfl⟩

/-- **A program goes on in the middle without its variables**: while its second line waits, `RUN` is
typed; with its answer it takes up the third line, and what the first line was given is gone. -/
theorem forgotten_in_the_middle :
    ∃ (session after resumed : Session) (run : Stage → Activity),
      (run = fun stage => ⟨true, some ⟨[10, 20, 30], 1⟩, stage⟩) ∧
        Reached (fun call => ∃ line, call = .line line)
          ⟨session, [run (.awaiting "? " "B$")]⟩ ∧
        session.program.numbers = [10, 20, 30] ∧ session.memory.get "A$" = .text "X" ∧
        session.drive (fun (world : Unit) _ => (world, none)) 3 () (.ofLine "RUN") =
          ((), after, .finished) ∧
        after.answer (run (.awaiting "? " "B$")) "Y" = (resumed, run .completed) ∧
        resumed.memory.get "A$" = .text "" ∧
        resumed.step (run .completed) = (resumed, .next (.onward true ⟨[10, 20, 30], 1⟩) []) ∧
        (resumed.step (.onward true ⟨[10, 20, 30], 1⟩)).1 =
          { resumed with current := some 30 } := by
  have first : Careful (fun call => ∃ line, call = .line line) _ :=
    Careful.start.stored rests_idle isLine_input ⟨_, rfl⟩
  have second := first.stored rests_idle isLine_inputAgain ⟨_, rfl⟩
  have third := second.stored rests_idle isLine_print ⟨_, rfl⟩
  have waits := (third.asking ⟨_, rfl⟩ rfl rfl rfl).reached
  have answered := (waits.step (.answered rfl "X")).step (.advanced rfl)
  have waitsAgain := (answered.step (.advanced rfl)).step (.advanced rfl)
  exact ⟨_, _, _, _, rfl, waitsAgain, rfl, rfl,
    Session.drive_typedRun _ 0 () rfl (by rintro ⟨⟩) (Session.isRun_run _), rfl, rfl, rfl, rfl⟩

end Forgetting

end Sitting

end LineBasic
