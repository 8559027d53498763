/-
**Hosts that take everything.**

A host whose deliveries never fail does not matter to a session: an activity comes to the same as
before one who only watches. So two such hosts see a session do the same, whatever they make of
what they are told. A desk is such a host, if its screen is of a kind that takes what is written.

* `Session.comesTo` — how far an activity comes before one who only watches;
* `Takes` — a host that takes everything, as long as it is in a state of some kind;
* `Takes.drive` — it drives an activity as far as watching does;
* `fault_drive` — the faults of a watched activity are its own;
* `Screen.Lasting.takes` — a desk is such a host, if its screen is of a lasting kind.
-/

import LineBasic.Proofs.Edited
import LineBasic.Proofs.Room

namespace LineBasic

namespace Session

/-- How far an activity comes before one who only watches, in the steps that a host grants. -/
def comesTo (session : Session) (activity : Activity) : Session × Progress :=
  (session.drive Scene.watch patience [] activity).2

/-- A host that takes everything and stays in states of some kind. -/
structure Takes {World : Type} (deliver : World → Effect → World × Option Fault)
    (holds : World → Prop) : Prop where
  unbroken : ∀ world effect, holds world → (deliver world effect).2 = none
  stays : ∀ world effect, holds world → holds (deliver world effect).1

section Takes

variable {World : Type} {deliver : World → Effect → World × Option Fault} {holds : World → Prop}
  {world : World}

theorem Takes.deliverAll (takes : Takes deliver holds) (start : holds world)
    (effects : List Effect) :
    ∃ after, deliverAll deliver world effects = (after, none) ∧ holds after := by
  induction effects generalizing world with
  | nil => exact ⟨world, rfl, start⟩
  | cons effect rest hypothesis =>
    have unbroken := takes.unbroken world effect start
    have stays := takes.stays world effect start
    rw [Session.deliverAll]
    generalize deliver world effect = delivered at unbroken stays
    obtain ⟨after, fault⟩ := delivered
    cases unbroken
    exact hypothesis stays

theorem Takes.breakOff (takes : Takes deliver holds) (start : holds world) (session : Session)
    (activity : Activity) (fault : Fault) :
    ∃ after, session.breakOff deliver world activity fault =
      (after, (session.abandon activity).1, .fault fault) ∧ holds after := by
  obtain ⟨after, delivered, held⟩ := takes.deliverAll start (session.abandon activity).2
  refine ⟨after, ?_, held⟩
  unfold Session.breakOff
  simp only [delivered]

/-- **A host that takes everything drives an activity as far as watching does.** -/
theorem Takes.drive (takes : Takes deliver holds) (start : holds world) (steps : Nat)
    (session : Session) (activity : Activity) (events : List Event) :
    ∃ after, session.drive deliver steps world activity =
      (after, (session.drive Scene.watch steps events activity).2) ∧ holds after := by
  induction steps generalizing world session activity events with
  | zero => exact ⟨world, rfl, start⟩
  | succ steps hypothesis =>
    rw [Session.drive, Session.drive]
    rcases session.step activity with ⟨stepped, ⟨following, effects⟩ | prompt | _ | failure | fault⟩
    · obtain ⟨after, delivered, held⟩ := takes.deliverAll start effects
      simp only [delivered, Scene.deliverAll_watch]
      exact hypothesis held stepped following _
    · exact ⟨world, rfl, start⟩
    · exact ⟨world, rfl, start⟩
    · exact ⟨world, rfl, start⟩
    · simp only [Scene.breakOff_watch]
      exact takes.breakOff start stepped activity fault

/-- In the steps that it grants, a host that takes everything drives an activity as far as it
comes. -/
theorem Takes.comesTo (takes : Takes deliver holds) (start : holds world) (session : Session)
    (activity : Activity) :
    ∃ after, session.drive deliver patience world activity = (after, session.comesTo activity) ∧
      holds after :=
  takes.drive start patience session activity []

/-- **The faults of a watched activity are its own.** -/
theorem fault_drive {steps : Nat} {session after : Session} {activity : Activity}
    {events : List Event} {fault : Fault}
    (driven : (session.drive Scene.watch steps events activity).2 = (after, .fault fault)) :
    ∃ (session : Session) (activity : Activity), session.Breaks activity fault := by
  induction steps generalizing session activity events with
  | zero => cases driven
  | succ steps hypothesis =>
    rw [drive] at driven
    rcases stepped : session.step activity with
      ⟨middle, ⟨following, effects⟩ | prompt | _ | failure | other⟩
    · rw [stepped] at driven
      simp only [Scene.deliverAll_watch] at driven
      exact hypothesis driven
    · rw [stepped] at driven
      cases driven
    · rw [stepped] at driven
      cases driven
    · rw [stepped] at driven
      cases driven
    · rw [stepped] at driven
      simp only [Scene.breakOff_watch] at driven
      cases driven
      exact ⟨session, activity, fault_iff.mp (congrArg Prod.snd stepped)⟩

end Takes

end Session

/-- **A desk takes everything** that a session writes. -/
theorem Screen.Lasting.takes {kind : Screen → Prop} (lasting : Screen.Lasting kind) (wired : Bool) :
    Session.Takes Desk.deliver fun desk => desk.wired = wired ∧ kind desk.screen where
  unbroken desk effect holds := by
    obtain ⟨after, delivered, _⟩ := lasting.deliver holds.2 effect
    rw [delivered]
  stays desk effect holds := by
    obtain ⟨after, delivered, same, isKind⟩ := lasting.deliver holds.2 effect
    rw [delivered]
    exact ⟨same.trans holds.1, isKind⟩

end LineBasic
