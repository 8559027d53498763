/-
**Scenes: an activity before someone who answers every question.**

A scene holds a session with its activity, the answers that are still to come, and what has been
seen so far. One tick of a scene is one step of its session; a question is answered at once with
the next answer, and nothing else happens to the session meanwhile. An activity that has ended
stays ended.

* `play_add` — playing on from where a scene has come to;
* `play_over` — a scene that is over stays as it is;
* `play_preserves` — what every tick preserves holds all through a scene;
* `events_play` — what has been seen stays seen;
* `reached_drive` — a driven session comes to where its scene comes to.
-/

import LineBasic.Rehearsal
import Mathlib

namespace LineBasic

/-- The event of an effect; a note is not seen. -/
def Event.ofEffect? : Effect → Option Event
  | .text body => some (.text body)
  | .line body => some (.line body)
  | .clear => some .clear
  | .note _ => none

/-- How an activity ends. -/
inductive Scene.Ending where
  | finished
  | failed (failure : Failure)
  | fault (fault : Fault)
  deriving DecidableEq

/-- A session at work, the answers still to come, what has been seen, and the end if it is
reached. -/
structure Scene where
  session : Session
  activity : Activity
  answers : Nat → String
  events : List Event
  ending : Option Scene.Ending

namespace Scene

/-- The scene of an activity that is about to start. -/
def opening (session : Session) (activity : Activity) (answers : Nat → String) : Scene where
  session
  activity
  answers
  events := []
  ending := none

/-- The answers after the first one. -/
def later (answers : Nat → String) : Nat → String :=
  fun n => answers (n + 1)

/-- What is seen of some effects. -/
def seen (effects : List Effect) : List Event :=
  effects.filterMap Event.ofEffect?

@[simp] theorem seen_nil : seen [] = [] := rfl

@[simp] theorem seen_note (note : Note) (rest : List Effect) :
    seen (.note note :: rest) = seen rest := rfl

/-- What a scene becomes by a step of its session. -/
def follow (scene : Scene) : Session × Move → Scene
  | (session, .next activity effects) =>
    { scene with session, activity, events := scene.events ++ seen effects }
  | (session, .ask prompt) =>
    let (session, activity) := session.answer scene.activity (scene.answers 0)
    { scene with
        session, activity, answers := later scene.answers
        events := scene.events ++ [.input prompt] }
  | (session, .finished) => { scene with session, ending := some .finished }
  | (session, .failed failure) => { scene with session, ending := some (.failed failure) }
  | (session, .fault fault) =>
    { scene with session := (session.abandon scene.activity).1, ending := some (.fault fault) }

/-- One step of a scene that is not over. -/
def tick (scene : Scene) : Scene :=
  match scene.ending with
  | some _ => scene
  | none => scene.follow (scene.session.step scene.activity)

/-- A number of ticks. -/
def play : Nat → Scene → Scene
  | 0, scene => scene
  | n + 1, scene => play n scene.tick

/-! ### Laws of playing -/

theorem tick_over {scene : Scene} {ending : Ending} (isOver : scene.ending = some ending) :
    scene.tick = scene := by
  rw [tick, isOver]

theorem tick_open {scene : Scene} (isOpen : scene.ending = none) :
    scene.tick = scene.follow (scene.session.step scene.activity) := by
  rw [tick, isOpen]

/-- Playing on from where a scene has come to. -/
theorem play_add (first second : Nat) (scene : Scene) :
    scene.play (first + second) = (scene.play first).play second := by
  induction first generalizing scene with
  | zero => rw [Nat.zero_add, play]
  | succ first hypothesis => rw [Nat.succ_add, play, play, hypothesis]

/-- Two stretches of a scene, one after the other. -/
theorem play_trans {scene middle last : Scene} {first second : Nat}
    (leads : scene.play first = middle) (goesOn : middle.play second = last) :
    scene.play (first + second) = last := by
  rw [play_add, leads, goesOn]

theorem play_succ (n : Nat) (scene : Scene) : scene.play (n + 1) = (scene.play n).tick := by
  rw [play_add, play, play]

/-- A scene that is over stays as it is. -/
theorem play_over {scene : Scene} {ending : Ending} (isOver : scene.ending = some ending)
    (n : Nat) : scene.play n = scene := by
  induction n with
  | zero => rfl
  | succ n hypothesis => rw [play, tick_over isOver, hypothesis]

/-- Later looks at a scene that is over show the same. -/
theorem play_over_later {scene : Scene} {ending : Ending} {first later : Nat}
    (isOver : (scene.play first).ending = some ending) (after : first ≤ later) :
    scene.play later = scene.play first := by
  obtain ⟨more, rfl⟩ := Nat.exists_eq_add_of_le after
  rw [play_add, play_over isOver]

/-- Two looks at a scene that is over show the same. -/
theorem play_over_unique {scene : Scene} {ending ending' : Ending} {first second : Nat}
    (isOver : (scene.play first).ending = some ending)
    (isOver' : (scene.play second).ending = some ending') :
    scene.play first = scene.play second := by
  rcases Nat.le_total first second with before | after
  · exact (play_over_later isOver before).symm
  · exact play_over_later isOver' after

/-- What every tick preserves holds all through a scene. -/
theorem play_preserves (Holds : Scene → Prop) (step : ∀ scene, Holds scene → Holds scene.tick)
    {scene : Scene} (start : Holds scene) (n : Nat) : Holds (scene.play n) := by
  induction n generalizing scene with
  | zero => exact start
  | succ n hypothesis => exact hypothesis (step scene start)

theorem events_tick (scene : Scene) : scene.events <+: scene.tick.events := by
  cases isOver : scene.ending with
  | some ending =>
    have same : scene.tick.events = scene.events := congrArg events (tick_over isOver)
    exact same ▸ List.prefix_refl _
  | none =>
    rw [tick_open isOver]
    unfold follow
    split
    · exact List.prefix_append _ _
    · exact List.prefix_append _ _
    · exact List.prefix_refl _
    · exact List.prefix_refl _
    · exact List.prefix_refl _

/-- What has been seen stays seen. -/
theorem events_play {scene : Scene} {first later : Nat} (after : first ≤ later) :
    (scene.play first).events <+: (scene.play later).events := by
  obtain ⟨more, rfl⟩ := Nat.exists_eq_add_of_le after
  rw [play_add]
  exact play_preserves (fun other => (scene.play first).events <+: other.events)
    (fun other seen => seen.trans other.events_tick) (List.prefix_refl _) more

/-! ### Scenes and driven sessions -/

/-- A host that keeps what is seen. -/
def watch (events : List Event) (effect : Effect) : List Event × Option Fault :=
  (events ++ seen [effect], none)

theorem deliverAll_watch (events : List Event) (effects : List Effect) :
    Session.deliverAll watch events effects = (events ++ seen effects, none) := by
  induction effects generalizing events with
  | nil => simp [Session.deliverAll]
  | cons effect rest hypothesis =>
    have first : seen (effect :: rest) = seen [effect] ++ seen rest :=
      List.filterMap_append (l := [effect])
    rw [Session.deliverAll, watch]
    simp only
    rw [hypothesis, List.append_assoc, first]

/-- A scene comes to what driving its session has come to: to a question, to an end, or as far as
the steps have lasted. -/
def Reached (scene : Scene) : List Event × Session × Progress → Prop
  | (events, session, .unfinished activity) =>
    ∃ n, scene.play n = { scene with session, activity, events }
  | (events, session, .waiting prompt activity) =>
    (∃ n, scene.play n = { scene with session, activity, events }) ∧
      session.step activity = (session, .ask prompt)
  | (events, session, .finished) =>
    ∃ n activity, scene.play n = { scene with session, activity, events, ending := some .finished }
  | (events, session, .failed failure) =>
    ∃ n activity, scene.play n =
      { scene with session, activity, events, ending := some (.failed failure) }
  | (events, session, .fault fault) =>
    ∃ n activity, scene.play n =
      { scene with session, activity, events, ending := some (.fault fault) }

/-- Nothing is seen when an activity is broken off. -/
theorem breakOff_watch (events : List Event) (session : Session) (activity : Activity)
    (fault : Fault) :
    Session.breakOff watch events session activity fault =
      (events, (session.abandon activity).1, .fault fault) := by
  have unseen : seen (session.abandon activity).2 = [] := by
    unfold Session.abandon
    split <;> rfl
  unfold Session.breakOff
  simp only [deliverAll_watch, unseen, List.append_nil]

/-- A question leaves the session as it is. -/
theorem step_ask {session after : Session} {activity : Activity} {prompt : String}
    (asks : session.step activity = (after, .ask prompt)) : after = session := by
  unfold Session.step at asks
  split at asks
  · unfold Session.readLine at asks
    (repeat' split at asks) <;> cases asks
  · unfold Session.beginRun at asks
    split at asks <;> cases asks
  · unfold Session.executeStage at asks
    split at asks <;> cases asks
  · cases asks
    rfl
  · unfold Session.selectLine at asks
    (repeat' split at asks) <;> cases asks
  · unfold Session.advance at asks
    (repeat' split at asks) <;> cases asks
  · unfold Session.failStage at asks
    (repeat' split at asks) <;> cases asks
  · cases asks
  · cases asks
  · cases asks
  · cases asks

/-- What a scene comes to after a tick without an answer, it comes to. -/
theorem Reached.of_tick {scene : Scene} {result : List Event × Session × Progress}
    (answers : scene.tick.answers = scene.answers) (ending : scene.tick.ending = scene.ending)
    (reached : scene.tick.Reached result) : scene.Reached result := by
  have first : ∀ {n : Nat} {last : Scene}, scene.tick.play n = last → scene.play (n + 1) = last :=
    fun played => played
  rcases result with ⟨events, session, ⟨prompt, activity⟩ | _ | failure | fault | activity⟩
  · obtain ⟨⟨n, played⟩, asks⟩ := reached
    rw [answers, ending] at played
    exact ⟨⟨n + 1, first played⟩, asks⟩
  · obtain ⟨n, activity, played⟩ := reached
    rw [answers] at played
    exact ⟨n + 1, activity, first played⟩
  · obtain ⟨n, activity, played⟩ := reached
    rw [answers] at played
    exact ⟨n + 1, activity, first played⟩
  · obtain ⟨n, activity, played⟩ := reached
    rw [answers] at played
    exact ⟨n + 1, activity, first played⟩
  · obtain ⟨n, played⟩ := reached
    rw [answers, ending] at played
    exact ⟨n + 1, first played⟩

/-- **A driven session comes to where its scene comes to.** -/
theorem reached_drive {scene : Scene} (isOpen : scene.ending = none) (steps : Nat) :
    scene.Reached (scene.session.drive watch steps scene.events scene.activity) := by
  induction steps generalizing scene with
  | zero => exact ⟨0, rfl⟩
  | succ steps hypothesis =>
    have ticked := tick_open isOpen
    rw [Session.drive]
    rcases stepped : scene.session.step scene.activity with
      ⟨session, ⟨following, effects⟩ | prompt | _ | failure | fault⟩
    all_goals
      rw [stepped] at ticked
      simp only
    · rw [deliverAll_watch]
      have later : scene.tick.Reached _ := hypothesis (by rw [ticked]; exact isOpen)
      have reached := later.of_tick (by rw [ticked]; rfl) (by rw [ticked]; rfl)
      rw [ticked] at reached
      exact reached
    · cases step_ask stepped
      exact ⟨⟨0, rfl⟩, stepped⟩
    · exact ⟨1, scene.activity, ticked⟩
    · exact ⟨1, scene.activity, ticked⟩
    · rw [breakOff_watch]
      exact ⟨1, scene.activity, ticked⟩

end Scene

end LineBasic
