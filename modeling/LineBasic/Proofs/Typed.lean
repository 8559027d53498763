/-
**Lines that are typed one after another.**

A session starts fresh, and lines are typed into it, each after the one before has ended, by
someone who answers every question. If every integer of these lines can be read, no line comes to
a fault, no failure is one that cannot be reported, and in all that happens the lookups of a run
find what they look for: the line under the cursor, the line of a jump, the first line of a
restart, and the line that an open loop returns to.

* `running_of_typed` — between two lines nothing is running;
* `typed_sound` — what holds all through a line that is typed.
-/

import LineBasic.Proofs.Causes
import LineBasic.Proofs.Grammar.Refusal
import LineBasic.Proofs.Reading
import LineBasic.Proofs.Steady

namespace LineBasic

/-- No integer of a line has too many digits to be read. -/
def Readable (line : String) : Prop :=
  ∀ count, tokens line ≠ .error (.tooManyDigits count)

/-- A failure that can be reported is any but that of a text as a line number. -/
def Cause.IsReported (cause : Cause) : Prop :=
  cause ≠ .malformed .textAsLineNumber

theorem Cause.isReported_of_statement {cause : Cause} (ofStatement : cause.isOfStatement = true) :
    cause.IsReported := by
  rintro rfl
  cases ofStatement

namespace Session

/-! ### One step of a typed line -/

/-- What a step of a line that is typed may come to: it goes on as a typed line, with a failure
that can be reported if there is one, and it ends outside a run. -/
def Goes (activity : Activity) : Session × Move → Prop
  | (_, .next following _) =>
    following.immediate = activity.immediate ∧
      ∀ failure, following.stage = .failed failure → failure.cause.IsReported
  | (_, .ask _) => True
  | (_, .finished) => activity.cursor = none
  | (_, .failed _) => activity.immediate = false
  | (_, .fault _) => True

section Steps

variable {program : Program} {session : Session} {activity : Activity}

theorem goes_readLine {line : String} (outside : activity.cursor = none) :
    Goes activity (session.readLine activity line) := by
  unfold readLine
  split
  · exact outside
  · split
    · refine ⟨rfl, ?_⟩
      rintro failure ⟨⟩
      exact nofun
    · trivial
    · next read isRead =>
      have lexed : Parser.Lexed read :=
        ⟨fun token member => (native_of_tokens isRead token member).1,
          fun token member => (native_of_tokens isRead token member).2⟩
      split
      · next reason refused =>
        refine ⟨rfl, ?_⟩
        rintro failure ⟨⟩ same
        exact Parser.line_refused lexed refused (Cause.malformed.inj same)
      · exact ⟨rfl, nofun⟩
      · exact ⟨rfl, nofun⟩

theorem goes_beginRun : Goes activity (session.beginRun activity) := by
  unfold beginRun
  split
  · exact ⟨rfl, nofun⟩
  · exact ⟨rfl, nofun⟩

theorem goes_execute {statement : Node} :
    Goes activity (session.executeStage activity statement) := by
  unfold executeStage
  split
  · exact ⟨rfl, nofun⟩
  · next after cause failed =>
    refine ⟨rfl, ?_⟩
    rintro failure ⟨⟩
    exact Cause.isReported_of_statement (execute_cause failed)
  · trivial
  · exact ⟨rfl, nofun⟩
  · exact ⟨rfl, nofun⟩

theorem goes_select {cursor : Cursor} : Goes activity (session.selectLine activity cursor) := by
  unfold selectLine
  split
  · exact ⟨rfl, nofun⟩
  · split
    · trivial
    · exact ⟨rfl, nofun⟩

theorem goes_advance {cursor : Cursor} : Goes activity (session.advance activity cursor) := by
  unfold advance
  split
  · exact ⟨rfl, nofun⟩
  · split
    · refine ⟨rfl, ?_⟩
      rintro failure ⟨⟩
      exact nofun
    · exact ⟨rfl, nofun⟩

theorem goes_fail (failure : Failure) : Goes activity (session.failStage activity failure) := by
  unfold failStage
  split
  · exact ⟨rfl, nofun⟩
  · split
    · exact ⟨rfl, nofun⟩
    · next notTyped => simpa [Goes] using notTyped

/-- What is read outside a run goes on as a typed line, or ends. -/
theorem goes_of_outside (outside : ∀ line, activity.stage = .read line → activity.cursor = none) :
    Goes activity (session.step activity) := by
  unfold step
  split
  · next line stage => exact goes_readLine (outside line stage)
  · exact goes_beginRun
  · exact goes_execute
  · trivial
  · exact goes_select
  · exact goes_advance
  · exact goes_fail _
  · exact ⟨rfl, nofun⟩
  · next outside => exact outside
  · next outside => exact outside
  · next outside => exact outside

/-- **A step of a typed line goes on as one, or ends.** -/
theorem goes_step (steady : Steady program session activity) :
    Goes activity (session.step activity) :=
  goes_of_outside fun line stage => (steady.reading line stage).1

theorem immediate_answer (session : Session) (activity : Activity) (line : String) :
    (session.answer activity line).2.immediate = activity.immediate := by
  unfold answer
  split
  · split
    · rfl
    · split <;> rfl
  · rfl

/-- An answer of the wrong kind can be reported. -/
theorem reported_answer
    (reported : ∀ failure, activity.stage = .failed failure → failure.cause.IsReported)
    (line : String) (failure : Failure)
    (failed : (session.answer activity line).2.stage = .failed failure) :
    failure.cause.IsReported := by
  unfold answer at failed
  split at failed
  · split at failed
    · cases failed
    · split at failed
      · cases failed
      · cases failed
        exact nofun
  · exact reported failure failed

end Steps

end Session

/-! ### Scenes of typed lines -/

/-- What holds of the scene of a typed line besides: it ends only as it should, outside a run, and
its failures can be reported. -/
structure Scene.IsTyped (scene : Scene) : Prop where
  immediate : scene.activity.immediate = true
  ends : ∀ ending, scene.ending = some ending →
    ending = .finished ∧ scene.activity.cursor = none
  reported : ∀ failure, scene.activity.stage = .failed failure → failure.cause.IsReported

theorem Scene.isTyped_tick {program : Program} {scene : Scene} (isSteady : scene.IsSteady program)
    (isTyped : scene.IsTyped) : scene.tick.IsTyped := by
  cases isOver : scene.ending with
  | some ending =>
    rw [tick_over isOver]
    exact isTyped
  | none =>
    rw [tick_open isOver]
    have goes := Session.goes_step isSteady.steady
    have lands := Session.steady_step isSteady.steady
    have isOpen : ∀ ending, scene.ending ≠ some ending := by
      rw [isOver]
      exact nofun
    generalize scene.session.step scene.activity = result at goes lands ⊢
    rcases result with ⟨session, ⟨activity, effects⟩ | prompt | _ | failure | fault⟩
    · exact ⟨goes.1.trans isTyped.immediate, fun ending same => absurd same (isOpen ending), goes.2⟩
    · exact ⟨(Session.immediate_answer ..).trans isTyped.immediate,
        fun ending same => absurd same (isOpen ending),
        Session.reported_answer isTyped.reported (scene.answers 0)⟩
    · refine ⟨isTyped.immediate, ?_, isTyped.reported⟩
      rintro ending ⟨⟩
      exact ⟨rfl, goes⟩
    · exact absurd (goes.symm.trans isTyped.immediate) nofun
    · exact lands.elim

/-- The scene of a line that is typed into a session. -/
def Scene.ofLine (session : Session) (line : String) (answers : Nat → String) : Scene :=
  .opening session (.ofLine line) answers

section Lines

variable {session : Session} {line : String}

/-- A line that can be read starts steady where nothing is running. -/
theorem Scene.isSteady_ofLine (idle : session.running = false) (readable : Readable line)
    (answers : Nat → String) : (Scene.ofLine session line answers).IsSteady session.program where
  steady := {
    idle := fun _ => idle
    early := fun _ _ => rfl
    beginning := nofun
    reading := by
      rintro other ⟨⟩
      exact ⟨rfl, readable⟩
    held := nofun
    taken := fun _ inside => absurd rfl inside }
  unbroken := nofun

/-- What holds of a typed line holds all through it. -/
theorem Scene.play_ofLine (idle : session.running = false) (readable : Readable line)
    (answers : Nat → String) (n : Nat) :
    ((Scene.ofLine session line answers).play n).IsSteady session.program ∧
      ((Scene.ofLine session line answers).play n).IsTyped := by
  refine Scene.play_preserves (fun scene => scene.IsSteady session.program ∧ scene.IsTyped) ?_ ?_ n
  · rintro scene ⟨isSteady, isTyped⟩
    exact ⟨Scene.steady_tick isSteady, Scene.isTyped_tick isSteady isTyped⟩
  · exact ⟨Scene.isSteady_ofLine idle readable answers, rfl, nofun, nofun⟩

/-! ### Sequences of lines -/

/-- The sessions that come of typing lines into a fresh one, each after the one before has
ended. -/
inductive Session.Typed : Session → Prop where
  | fresh : Session.Typed .fresh
  | line {session : Session} {line : String} {answers : Nat → String} {n : Nat}
      (before : Session.Typed session) (readable : Readable line)
      (isOver : ((Scene.ofLine session line answers).play n).ending ≠ none) :
      Session.Typed ((Scene.ofLine session line answers).play n).session

/-- **Between two lines nothing is running.** -/
theorem Session.running_of_typed (typed : session.Typed) : session.running = false := by
  induction typed with
  | fresh => rfl
  | @line session line answers n before readable isOver idle =>
    obtain ⟨isSteady, isTyped⟩ := Scene.play_ofLine idle readable answers n
    obtain ⟨ending, ended⟩ := Option.ne_none_iff_exists'.mp isOver
    exact isSteady.steady.idle (isTyped.ends ending ended).2

/-- What a scene of a typed line never breaks, if the given program was stored before it. -/
structure Scene.Sound (program : Program) (scene : Scene) : Prop where
  ends : scene.ending = none ∨ scene.ending = some .finished
  reported : ∀ failure, scene.activity.stage = .failed failure → failure.cause.IsReported
  running : scene.session.running = true → ∃ cursor, scene.activity.cursor = some cursor ∧
    scene.session.program.numbers = cursor.lines
  snapshot : ∀ cursor, scene.activity.cursor = some cursor →
    cursor.lines = program.numbers ∧ cursor.lines ≠ []
  lookup : ∀ cursor line, scene.activity.cursor = some cursor →
    scene.session.underCursor cursor = some line →
    ∃ entry, scene.session.program.find? line = some entry
  landing : ∀ cursor jump, scene.activity.cursor = some cursor → scene.session.jump = some jump →
    ∃ index, cursor.lines.idxOf? jump.line = some index
  loops : ∀ cursor, scene.activity.cursor = some cursor → ∀ frame ∈ scene.session.loops,
    frame.Returns scene.session.program cursor.lines

/-- **Typed lines are sound**: each ends only as it should, and its lookups find what they look
for. -/
theorem typed_sound (typed : session.Typed) (readable : Readable line) (answers : Nat → String)
    (n : Nat) : ((Scene.ofLine session line answers).play n).Sound session.program := by
  obtain ⟨⟨steady, _⟩, isTyped⟩ :=
    Scene.play_ofLine (session.running_of_typed typed) readable answers n
  generalize (Scene.ofLine session line answers).play n = scene at steady isTyped
  refine {
    ends := ?_
    reported := isTyped.reported
    running := ?_
    snapshot := ?_
    lookup := ?_
    landing := ?_
    loops := ?_ }
  · cases isOver : scene.ending with
    | none => exact .inl rfl
    | some ending => exact .inr (congrArg some (isTyped.ends ending isOver).1)
  · intro running
    cases inside : scene.activity.cursor with
    | none => exact absurd ((steady.idle inside).symm.trans running) nofun
    | some cursor =>
      obtain ⟨lines, held⟩ := steady.held cursor inside
      exact ⟨cursor, rfl, by rw [lines, held.snapshot running]⟩
  · intro cursor inside
    obtain ⟨lines, held⟩ := steady.held cursor inside
    exact ⟨lines, lines ▸ held.inhabited⟩
  · intro cursor line inside under
    obtain ⟨lines, held⟩ := steady.held cursor inside
    exact (held.underCursor lines under).2
  · intro cursor jump inside leads
    obtain ⟨lines, held⟩ := steady.held cursor inside
    have member : jump.line ∈ cursor.lines := lines ▸ held.landing jump leads
    exact Option.isSome_iff_exists.mp (List.isSome_idxOf?.mpr member)
  · intro cursor inside frame member
    obtain ⟨lines, held⟩ := steady.held cursor inside
    rw [lines]
    exact held.loops frame member

theorem readable_of_tokens {read : List Token} (isRead : tokens line = .ok read) :
    Readable line := by
  intro count tooMany
  rw [isRead] at tooMany
  cases tooMany

/-- **A line with a number is stored under it**, and has then ended. -/
theorem Scene.play_stored {number : Int} {entry : Entry} (isLine : entry.IsLine number)
    (answers : Nat → String) :
    ((Scene.ofLine session entry.source answers).play 2).ending = some .finished ∧
      ((Scene.ofLine session entry.source answers).play 2).session.program =
        session.program.insert number entry := by
  have first : (Scene.ofLine session entry.source answers).tick =
      (Scene.ofLine session entry.source answers).follow
        (session.step (.ofLine entry.source)) := rfl
  rw [Scene.play, first, session.step_ofLine isLine]
  exact ⟨rfl, rfl⟩

/-- A line is stored, and the program is run. -/
theorem typed_sound_run :
    ∃ session, session.Typed ∧ session.program.numbers = [10] ∧ Readable "RUN" ∧
      ((Scene.ofLine session "RUN" fun _ => "").play 8).Sound session.program := by
  have isRead : tokens "10 NEXT" =
      .ok [⟨.number (.int 10), 0⟩, ⟨.keyword "NEXT", 3⟩, ⟨.endOfLine, 7⟩] := by cbv
  have parsed : Parser.line [⟨.number (.int 10), 0⟩, ⟨.keyword "NEXT", 3⟩, ⟨.endOfLine, 7⟩] =
      .ok (.programLine 10 (.next none)) := by cbv
  have isRun : tokens "RUN" = .ok [⟨.keyword "RUN", 0⟩, ⟨.endOfLine, 3⟩] := by cbv
  have stored : ∃ session : Session, session.Typed ∧ session.program.numbers = [10] := by
    have isLine : Entry.IsLine 10 ⟨"10 NEXT", .next none⟩ :=
      ⟨by decide, by rintro ⟨⟩, _, isRead, parsed⟩
    have played := @Scene.play_stored .fresh _ _ isLine fun _ => ""
    refine ⟨_, .line .fresh (readable_of_tokens isRead) (by rw [played.1]; rintro ⟨⟩), ?_⟩
    rw [played.2]
    rfl
  obtain ⟨session, typed, numbers⟩ := stored
  have readable : Readable "RUN" := readable_of_tokens isRun
  exact ⟨session, typed, numbers, readable, typed_sound typed readable _ 8⟩

end Lines

end LineBasic
