/-
**Hosts that a session cannot tell apart.**

A session learns of its host only whether it answers, and what. Two hosts with the same answers that
take alike whatever is delivered to them stay alike, and a session goes the same way before both,
whatever else they do with what they are told.

* `Mirrors` — what makes two hosts alike to a session, in a relation of any kind;
* `Mirrors.perform`, `Mirrors.typeLines` — a session comes to the same before both;
* `mirrors_of` — for such a relation it is enough to look at what is written, seen and noted.
-/

import LineBasic.Rehearsal
import Mathlib

namespace LineBasic

/-! ### What is written -/

/-- What was written, if an event is of something written. -/
def Event.piece? : Event → Option Piece
  | .text body => some (.text body)
  | .line body => some (.line body)
  | _ => none

/-- All that was written among some events, the latest of which comes first. -/
def Event.written (events : List Event) : List Piece :=
  events.reverse.filterMap piece?

theorem Event.written_ofPiece (piece : Piece) (events : List Event) :
    Event.written (Event.ofPiece piece :: events) = Event.written events ++ [piece] := by
  rw [Event.written, List.reverse_cons, List.filterMap_append]
  cases piece <;> rfl

theorem Event.written_of_unwritten {event : Event} (unwritten : event.piece? = none)
    (events : List Event) : Event.written (event :: events) = Event.written events := by
  rw [Event.written, List.reverse_cons, List.filterMap_append, List.filterMap_cons_none unwritten,
    List.filterMap_nil, List.append_nil]
  rfl

/-! ### A session before both -/

namespace Rehearsal

/-- Two outcomes with the same end, before hosts that are alike. -/
inductive Meets {End : Type} (alike : Rehearsal → Rehearsal → Prop) :
    Rehearsal × End → Rehearsal × End → Prop where
  | both {first second : Rehearsal} (same : alike first second) (ending : End) :
      Meets alike (first, ending) (second, ending)

/-- **Hosts that a session cannot tell apart**: they ask, answer and deliver alike. -/
structure Mirrors (alike : Rehearsal → Rehearsal → Prop) : Prop where
  input : ∀ {first second}, alike first second → first.input = second.input
  answers : ∀ {first second}, alike first second → first.answers = second.answers
  asked : ∀ {first second} (prompt : String), alike first second →
    alike (first.record (.input prompt)) (second.record (.input prompt))
  answered : ∀ {first second} (answers : List Answer), alike first second →
    alike { first with answers } { second with answers }
  delivered : ∀ {first second} (effect : Effect), alike first second →
    alike (first.deliver effect).1 (second.deliver effect).1

section Mirrors

variable {alike : Rehearsal → Rehearsal → Prop} {first second : Rehearsal}

theorem Meets.hosts {End : Type} {one other : Rehearsal × End} (meets : Meets alike one other) :
    alike one.1 other.1 := by
  cases meets with
  | both same => exact same

theorem Meets.endings {End : Type} {one other : Rehearsal × End} (meets : Meets alike one other) :
    one.2 = other.2 := by
  cases meets with
  | both => rfl

/-- Nothing that a host with prepared answers does can fail. -/
theorem deliver_unbroken (host : Rehearsal) (effect : Effect) : (host.deliver effect).2 = none := by
  cases effect <;> rfl

theorem Mirrors.deliverAll (mirrors : Mirrors alike) (same : alike first second)
    (effects : List Effect) :
    ∃ first' second', Session.deliverAll deliver first effects = (first', none) ∧
      Session.deliverAll deliver second effects = (second', none) ∧ alike first' second' := by
  induction effects generalizing first second with
  | nil => exact ⟨first, second, rfl, rfl, same⟩
  | cons effect rest hypothesis =>
    obtain ⟨first', second', delivered, delivered', same'⟩ :=
      hypothesis (mirrors.delivered effect same)
    have unfolded : ∀ host : Rehearsal, Session.deliverAll deliver host (effect :: rest) =
        Session.deliverAll deliver (host.deliver effect).1 rest := by
      intro host
      have unbroken := host.deliver_unbroken effect
      rw [Session.deliverAll]
      generalize host.deliver effect = result at unbroken ⊢
      obtain ⟨after, fault⟩ := result
      cases unbroken
      rfl
    exact ⟨first', second', (unfolded first).trans delivered, (unfolded second).trans delivered',
      same'⟩

theorem Mirrors.breakOff (mirrors : Mirrors alike) (same : alike first second) (session : Session)
    (activity : Activity) (fault : Fault) :
    Meets alike (session.breakOff deliver first activity fault)
      (session.breakOff deliver second activity fault) := by
  obtain ⟨first', second', delivered, delivered', same'⟩ :=
    mirrors.deliverAll same (session.abandon activity).2
  simp only [Session.breakOff, delivered, delivered']
  exact .both same' _

/-- A session is driven to the same before hosts that it cannot tell apart. -/
theorem Mirrors.drive (mirrors : Mirrors alike) (same : alike first second) (steps : Nat)
    (session : Session) (activity : Activity) :
    Meets alike (session.drive deliver steps first activity)
      (session.drive deliver steps second activity) := by
  induction steps generalizing first second session activity with
  | zero => exact .both same _
  | succ steps hypothesis =>
    rw [Session.drive, Session.drive]
    rcases session.step activity with ⟨stepped, ⟨following, effects⟩ | prompt | _ | failure | fault⟩
    · obtain ⟨first', second', delivered, delivered', same'⟩ := mirrors.deliverAll same effects
      simp only [delivered, delivered']
      exact hypothesis same' stepped following
    · exact .both same _
    · exact .both same _
    · exact .both same _
    · exact mirrors.breakOff same stepped activity fault

/-- Lines come to the same one after the other, if each of them does. -/
theorem performEach_meets
    {perform : Rehearsal → Session → Activity → Rehearsal × Session × Progress}
    (meets : ∀ {first second} session activity, alike first second →
      Meets alike (perform first session activity) (perform second session activity))
    (same : alike first second) (session : Session) (lines : List String) :
    Meets alike (performEach perform first session lines)
      (performEach perform second session lines) := by
  induction lines generalizing first second session with
  | nil => exact .both same _
  | cons line rest hypothesis =>
    have typed := meets session (.ofLine line) same
    rw [performEach, performEach]
    generalize perform first session (.ofLine line) = result at typed ⊢
    generalize perform second session (.ofLine line) = result' at typed ⊢
    cases typed with
    | both same' ending =>
      obtain ⟨after, progress⟩ := ending
      cases progress with
      | fault fault => exact .both same' _
      | _ => exact hypothesis same' after

/-- **An activity comes to the same before hosts that a session cannot tell apart.** -/
theorem Mirrors.perform (mirrors : Mirrors alike) (same : alike first second) (questions : Nat)
    (session : Session) (activity : Activity) :
    Meets alike (perform questions first session activity)
      (perform questions second session activity) := by
  induction questions generalizing first second session activity with
  | zero => exact .both same _
  | succ questions hypothesis =>
    have driven := mirrors.drive same Session.patience session activity
    rw [Rehearsal.perform, Rehearsal.perform]
    generalize session.drive deliver Session.patience first activity = result at driven ⊢
    generalize session.drive deliver Session.patience second activity = result' at driven ⊢
    cases driven with
    | @both first' second' same' ending =>
      obtain ⟨after, progress⟩ := ending
      cases progress with
      | waiting prompt following =>
        have asked := mirrors.asked prompt same'
        simp only [mirrors.input same', mirrors.answers asked]
        split
        · split
          · exact mirrors.breakOff asked after following noMoreInput
          · next answer answers _ =>
            have typed := performEach_meets (fun session activity same => hypothesis same session
              activity) (mirrors.answered answers asked) after answer.before
            generalize performEach _ _ after answer.before = result at typed ⊢
            generalize performEach _ _ after answer.before = result' at typed ⊢
            cases typed with
            | both same ending =>
              obtain ⟨after', _ | fault⟩ := ending
              · exact hypothesis same _ _
              · exact mirrors.breakOff same after' following fault
        · exact hypothesis same' _ _
      | _ => exact .both same' _

/-- Lines come to the same before hosts that a session cannot tell apart. -/
theorem Mirrors.typeLines (mirrors : Mirrors alike) (same : alike first second) (session : Session)
    (lines : List String) :
    Meets alike (first.typeLines session lines) (second.typeLines session lines) :=
  performEach_meets (fun session activity same => mirrors.perform same _ session activity) same
    session lines

/-! ### Hosts that differ in what they do with what is written -/

/-- What is written goes over the board, and is seen if it comes through a channel. -/
theorem write_eq (host : Rehearsal) (piece : Piece) :
    host.write piece =
      { host with
          board := (host.board.send host.place piece).1
          events := ((host.board.send host.place piece).2.map fun call =>
            Event.ofPiece call.2).reverse ++ host.events } := by
  have recorded : ∀ (calls : List (Nat × Piece)) (host : Rehearsal),
      calls.foldl (fun host call => host.record (Event.ofPiece call.2)) host =
        { host with
            events := (calls.map fun call => Event.ofPiece call.2).reverse ++ host.events } := by
    intro calls
    induction calls with
    | nil => exact fun host => rfl
    | cons call rest hypothesis =>
      intro host
      rw [List.foldl_cons, hypothesis, record]
      simp
  exact recorded _ _

/-- Two hosts with the same answers and notes, who hear the same questions. -/
structure Shares (first second : Rehearsal) : Prop where
  input : first.input = second.input
  clear : first.clear = second.clear
  answers : first.answers = second.answers
  notes : first.notes = second.notes

theorem Shares.write (shares : first.Shares second) (piece : Piece) :
    (first.write piece).Shares (second.write piece) := by
  rw [write_eq, write_eq]
  exact ⟨shares.input, shares.clear, shares.answers, shares.notes⟩

/-- Hosts are alike to a session, if what is written, seen and noted keeps them alike. -/
theorem mirrors_of (shares : ∀ {first second}, alike first second → first.Shares second)
    (seen : ∀ {first second} (event : Event), event.piece? = none → alike first second →
      alike (first.record event) (second.record event))
    (kept : ∀ {first second} (answers : List Answer) (notes : List Note), alike first second →
      alike { first with answers, notes } { second with answers, notes })
    (written : ∀ {first second} (piece : Piece), alike first second →
      alike (first.write piece) (second.write piece)) : Mirrors alike where
  input same := (shares same).input
  answers same := (shares same).answers
  asked prompt same := seen (.input prompt) rfl same
  answered {first second} answers same := by
    have noted := kept answers second.notes same
    simpa only [(shares same).notes] using noted
  delivered {first second} effect same := by
    cases effect with
    | text text => exact written (.text text) same
    | line text => exact written (.line text) same
    | clear =>
      simp only [deliver, (shares same).clear]
      split
      · exact seen .clear rfl same
      · exact same
    | note note =>
      have noted := kept second.answers (note :: second.notes) same
      simpa only [deliver, (shares same).notes, (shares same).answers] using noted

end Mirrors

end Rehearsal

end LineBasic
