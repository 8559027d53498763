/-
**A host at work.**

A host makes calls, lets the latest activity go on and takes what it shows, answers what it asks,
or breaks it off because something cannot be shown or no answer comes. What it does next may depend
on all that it has noticed so far, and on nothing else.

* `Sitting.respond` — what a sitting does on a deed of its host, and what the host notices;
* `Sitting.serve` — a host and a sitting, deed by deed;
* `respond_step` — a host takes steps of a sitting.
-/

import LineBasic.Proofs.Sitting

namespace LineBasic

/-- What a host does next: it makes a call, lets the latest activity take a step and takes so many
of its effects, gives it the line that it waits for, or has none. -/
inductive Deed where
  | call (call : Call)
  | proceed (taken : List Effect → Nat)
  | answer (line : String)
  | withhold

/-- What a host notices. -/
inductive Notice where
  | nothing
  | value (value : Value)
  | effects (effects : List Effect)
  | question (prompt : String)
  | brokenOff (effects : List Effect)
  | ended (ending : Scene.Ending) (effects : List Effect)

/-- What a call gives back at once. -/
def Call.notice (session : Session) : Call → Notice
  | line _ => .nothing
  | run => .nothing
  | startNew => .effects [.line ""]
  | read name => .value (session.memory.get name)
  | assign _ _ => .nothing

/-- Whether an activity waits for a line. -/
def Activity.awaits (activity : Activity) : Bool :=
  match activity.stage with
  | .awaiting _ _ => true
  | _ => false

namespace Sitting

/-- What a move of the latest activity comes to, if the host takes so many of its effects. -/
def settle (taken : List Effect → Nat) (activity : Activity) (others : List Activity) :
    Session × Move → Sitting × Notice
  | (session, .next following effects) =>
    if effects.length ≤ taken effects then (⟨session, following :: others⟩, .effects effects)
    else
      let (session, last) := session.abandon following
      (⟨session, others⟩, .brokenOff (effects.take (taken effects) ++ last))
  | (session, .ask prompt) => (⟨session, activity :: others⟩, .question prompt)
  | (session, .finished) => (⟨session, others⟩, .ended .finished [])
  | (session, .failed failure) => (⟨session, others⟩, .ended (.failed failure) [])
  | (session, .fault fault) =>
    let (session, last) := session.abandon activity
    (⟨session, others⟩, .ended (.fault fault) last)

/-- What a sitting does on a deed of its host, and what the host notices; a deed that is not
possible changes nothing. -/
def respond (sitting : Sitting) : Deed → Sitting × Notice
  | .call call =>
    if sitting.activities.head?.all Activity.awaits then
      (sitting.take call, call.notice sitting.session)
    else (sitting, .nothing)
  | .proceed taken =>
    match sitting.activities with
    | [] => (sitting, .nothing)
    | activity :: others => settle taken activity others (sitting.session.step activity)
  | .answer line =>
    match sitting.activities with
    | [] => (sitting, .nothing)
    | activity :: others =>
      if activity.awaits then
        let (session, activity) := sitting.session.answer activity line
        (⟨session, activity :: others⟩, .nothing)
      else (sitting, .nothing)
  | .withhold =>
    match sitting.activities with
    | [] => (sitting, .nothing)
    | activity :: others =>
      if activity.awaits then
        let (session, last) := sitting.session.abandon activity
        (⟨session, others⟩, .brokenOff last)
      else (sitting, .nothing)

/-- A number of deeds of a host that decides by what it has noticed. -/
def serve (host : List Notice → Deed) : Nat → Sitting × List Notice → Sitting × List Notice
  | 0, result => result
  | n + 1, (sitting, noticed) =>
    let (sitting, notice) := sitting.respond (host noticed)
    serve host n (sitting, noticed ++ [notice])

theorem awaiting_of_awaits {activity : Activity} (awaits : activity.awaits = true) :
    ∃ prompt name, activity.stage = .awaiting prompt name := by
  unfold Activity.awaits at awaits
  split at awaits
  · next prompt name stage => exact ⟨prompt, name, stage⟩
  · cases awaits

section Steps

variable {allowed : Call → Prop}

/-- **A host takes steps of a sitting**, or its deed changes nothing. -/
theorem respond_step (sitting : Sitting) (deed : Deed)
    (permitted : ∀ call, deed = .call call → allowed call) :
    (sitting.respond deed).1 = sitting ∨ Step allowed sitting (sitting.respond deed).1 := by
  obtain ⟨session, activities⟩ := sitting
  cases deed with
  | call call =>
    simp only [respond]
    split
    · next all =>
      refine .inr (.called (fun activity latest => ?_) call (permitted call rfl))
      simp only at latest
      rw [latest] at all
      exact awaiting_of_awaits all
    · exact .inl rfl
  | proceed taken =>
    rcases activities with _ | ⟨activity, others⟩
    · exact .inl rfl
    · simp only [respond]
      rcases moves : session.step activity with
        ⟨after, ⟨following, effects⟩ | prompt | _ | failure | fault⟩
      · simp only [settle]
        split
        · exact .inr (.advanced moves)
        · next refused =>
          have some : effects ≠ [] := by
            rintro rfl
            exact refused (Nat.zero_le _)
          exact .inr (.undelivered moves some)
      · cases Scene.step_ask moves
        exact .inl rfl
      · exact .inr (.finished moves)
      · exact .inr (.failed moves)
      · exact .inr (.faulted moves)
  | answer line =>
    rcases activities with _ | ⟨activity, others⟩
    · exact .inl rfl
    · simp only [respond]
      split
      · next awaits =>
        obtain ⟨prompt, name, stage⟩ := awaiting_of_awaits awaits
        exact .inr (.answered stage line)
      · exact .inl rfl
  | withhold =>
    rcases activities with _ | ⟨activity, others⟩
    · exact .inl rfl
    · simp only [respond]
      split
      · next awaits =>
        obtain ⟨prompt, name, stage⟩ := awaiting_of_awaits awaits
        exact .inr (.unanswered stage)
      · exact .inl rfl

/-- What a host leads to is reached by its calls. -/
theorem Reached.serve {host : List Notice → Deed}
    (permitted : ∀ noticed call, host noticed = .call call → allowed call) (n : Nat)
    {sitting : Sitting} {noticed : List Notice} (reached : Reached allowed sitting) :
    Reached allowed (Sitting.serve host n (sitting, noticed)).1 := by
  induction n generalizing sitting noticed with
  | zero => exact reached
  | succ n hypothesis =>
    refine @hypothesis (sitting.respond (host noticed)).1 _ ?_
    rcases sitting.respond_step (host noticed) (permitted noticed) with same | step
    · rw [same]
      exact reached
    · exact reached.step step

end Steps

end Sitting

end LineBasic
