/-
**A session line by line.**

Whoever uses a session gives it one line after another. A line is a command, or the answer to a
question that the command before it has come to; in either case the session goes on as far as it
comes without another line. How it is asked and where its words are shown is left to a front end
and does not matter here.

* `Talk.outcome`, `Talk.take` — how far a line leads, and where the session waits then;
* `Session.settled_drive` — a typed line comes to a question or to its end, unless it is given up;
* `Talk.Terminates`, `Talk.Settles` — lines that are not given up, and lines that come to a
  question or to their end;
* `Talk.settles_of_terminates` — the former are the latter, if their integers can be read.
-/

import LineBasic.Proofs.Taking

namespace LineBasic

/-- A session as it waits for a line: for a command, or for the answer to the question of an
activity. -/
structure Talk where
  session : Session
  asking : Option Activity

/-- What a typed line comes to: a question, with the activity as it should be meanwhile, or its
end, with nothing running. -/
inductive Session.Settled : Session × Progress → Prop where
  | asks {program : Program} {session : Session} {activity : Activity} (prompt : String)
      (steady : session.Steady program activity) (immediate : activity.immediate = true) :
      Settled (session, .waiting prompt activity)
  | ends {session : Session} (idle : session.running = false) : Settled (session, .finished)

/-- What comes to a question or to its end is not given up. -/
theorem Session.Settled.lasts {result : Session × Progress} (settled : Settled result) :
    ∀ rest, result.2 ≠ .unfinished rest := by
  cases settled <;> exact nofun

/-- **A typed line comes to a question or to its end**, unless the steps do not last. -/
theorem Session.settled_drive {program : Program} {session : Session} {activity : Activity}
    (steady : session.Steady program activity) (immediate : activity.immediate = true)
    (steps : Nat) (events : List Event)
    (lasts : ∀ rest, (session.drive Scene.watch steps events activity).2.2 ≠ .unfinished rest) :
    Settled (session.drive Scene.watch steps events activity).2 := by
  induction steps generalizing session activity events with
  | zero => exact absurd rfl (lasts activity)
  | succ steps hypothesis =>
    have lands := steady_step steady
    have goes := goes_step steady
    rw [drive] at lasts ⊢
    generalize session.step activity = result at lands goes lasts ⊢
    rcases result with ⟨after, ⟨following, effects⟩ | prompt | _ | failure | fault⟩
    · simp only [Scene.deliverAll_watch] at lasts ⊢
      exact hypothesis lands (goes.1.trans immediate) _ lasts
    · exact .asks prompt lands immediate
    · exact .ends (lands.idle goes)
    · exact absurd (goes.symm.trans immediate) Bool.false_ne_true
    · exact lands.elim

namespace Talk

/-- Nothing has been said yet. -/
def fresh : Talk :=
  ⟨.fresh, none⟩

/-- What a line sets a session to: to a command, or to go on with its answer. -/
def given (line : String) (talk : Talk) : Session × Activity :=
  match talk.asking with
  | none => (talk.session, .ofLine line)
  | some activity => talk.session.answer activity line

/-- How far a line leads. -/
def outcome (line : String) (talk : Talk) : Session × Progress :=
  (talk.given line).1.comesTo (talk.given line).2

/-- Where a session waits when it has come so far. -/
def after : Session × Progress → Talk
  | (session, .waiting _ activity) => ⟨session, some activity⟩
  | (session, _) => ⟨session, none⟩

/-- Take a line. -/
def take (talk : Talk) (line : String) : Talk :=
  after (talk.outcome line)

/-- A line of a program that is given as a command is stored, and that is all. -/
theorem outcome_ofLine (session : Session) {number : Int} {entry : Entry}
    (isLine : entry.IsLine number) :
    outcome entry.source ⟨session, none⟩ =
      ({ session with program := session.program.insert number entry, jump := none },
        .finished) := by
  have enough : Session.patience = 999999999998 + 2 := rfl
  show session.comesTo (.ofLine entry.source) = _
  rw [Session.comesTo, enough, Session.drive, session.step_ofLine isLine]
  rfl

/-- The lines are not given up, whether they are commands or answers. -/
def Terminates : List String → Talk → Prop
  | [], _ => True
  | line :: rest, talk =>
    (∀ activity, (talk.outcome line).2 ≠ .unfinished activity) ∧ (talk.take line).Terminates rest

/-- Each of the lines comes to a question or to its end. -/
def Settles : List String → Talk → Prop
  | [], _ => True
  | line :: rest, talk => Session.Settled (talk.outcome line) ∧ (talk.take line).Settles rest

/-- A line that has come to something else is not given up. -/
theorem Terminates.cons {talk : Talk} {line : String} {rest : List String} {session : Session}
    {progress : Progress} (comes : talk.outcome line = (session, progress))
    (lasts : ∀ activity, progress ≠ .unfinished activity)
    (terminates : (after (session, progress)).Terminates rest) :
    talk.Terminates (line :: rest) := by
  refine ⟨?_, ?_⟩
  · rw [comes]
    exact lasts
  · rw [take, comes]
    exact terminates

/-- What holds of a session that waits for a line: nothing is running, or the activity that asks
is a typed line and as it should be. -/
inductive Steady : Talk → Prop where
  | command {session : Session} (idle : session.running = false) : Steady ⟨session, none⟩
  | answer {program : Program} {session : Session} {activity : Activity}
      (steady : session.Steady program activity) (immediate : activity.immediate = true) :
      Steady ⟨session, some activity⟩

section Steady

variable {talk : Talk} {line : String}

/-- A line that is not given up comes to a question or to its end. -/
theorem Steady.settled (steady : talk.Steady) (readable : Readable line)
    (lasts : ∀ activity, (talk.outcome line).2 ≠ .unfinished activity) :
    Session.Settled (talk.outcome line) := by
  cases steady with
  | command idle =>
    have steady := (Scene.isSteady_ofLine idle readable fun _ => "").steady
    exact Session.settled_drive steady rfl _ _ lasts
  | @answer program session activity steady immediate =>
    have immediate' : (session.answer activity line).2.immediate = true :=
      (session.immediate_answer activity line).trans immediate
    exact Session.settled_drive (Session.steady_answer steady line) immediate' _ _ lasts

theorem steady_after {result : Session × Progress} (settled : Session.Settled result) :
    (after result).Steady := by
  cases settled with
  | asks prompt steady immediate => exact .answer steady immediate
  | ends idle => exact .command idle

/-- **Lines that are not given up come to a question or to their end.** -/
theorem Steady.settles (steady : talk.Steady) {lines : List String}
    (readable : ∀ line ∈ lines, Readable line) (terminates : talk.Terminates lines) :
    talk.Settles lines := by
  induction lines generalizing talk with
  | nil => trivial
  | cons line rest hypothesis =>
    obtain ⟨first, later⟩ := List.forall_mem_cons.mp readable
    obtain ⟨lasts, terminates'⟩ := terminates
    have settled := steady.settled first lasts
    exact ⟨settled, hypothesis (steady_after settled) later terminates'⟩

/-- From the start, lines that are not given up come to a question or to their end. -/
theorem settles_of_terminates {lines : List String} (readable : ∀ line ∈ lines, Readable line)
    (terminates : Talk.fresh.Terminates lines) : Talk.fresh.Settles lines :=
  Steady.settles (.command rfl) readable terminates

end Steady

end Talk

end LineBasic
