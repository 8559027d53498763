/-
**Rows of captures.**

An outlet that captures keeps what is sent to it and passes it on to an outlet in front of it, which
may be a capture too. Such a row leads to an outlet that something was written to before the first
capture was made: this one gets all that is sent to the row, and gets it as if there were no row.

* `Board.Extends` — what sending and new outlets leave of a board;
* `Board.Leads`, `Leads.send` — what is sent down a row reaches the outlet behind it;
* `send_append` — outlets that stand behind do not matter.
-/

import LineBasic.Outlet
import Mathlib

namespace LineBasic

namespace Board

/-- What writing and new outlets leave of a board: captures only grow, and pass on to where they
did. -/
structure Extends (before after : Board) : Prop where
  room : before.outlets.length ≤ after.outlets.length
  captures : ∀ (place : Nat) (kept : List String) (downstream : Option Nat),
    before.outlets[place]? = some (.capture kept downstream) →
    ∃ more, after.outlets[place]? = some (.capture (kept ++ more) downstream)

/-- A row of captures, all of them from a bound on, that leads from a place to a target. -/
inductive Leads (board : Board) (bound target : Nat) : Nat → Prop where
  | here : Leads board bound target target
  | onward {place earlier : Nat} {kept : List String}
      (found : board.outlets[place]? = some (.capture kept (some earlier))) (above : bound ≤ place)
      (backward : earlier < place) (leads : Leads board bound target earlier) :
      Leads board bound target place

section Boards

variable {board before middle after : Board} {bound target place : Nat}

theorem Extends.refl (board : Board) : board.Extends board where
  room := Nat.le_refl _
  captures _ _ _ found := ⟨[], by rwa [List.append_nil]⟩

theorem Extends.trans (first : before.Extends middle) (second : middle.Extends after) :
    before.Extends after where
  room := first.room.trans second.room
  captures place kept downstream found := by
    obtain ⟨more, found'⟩ := first.captures place kept downstream found
    obtain ⟨more', found''⟩ := second.captures place _ downstream found'
    exact ⟨more ++ more', by rwa [List.append_assoc] at found''⟩

/-- A capture that keeps one more chunk. -/
theorem extends_set {kept : List String} {downstream : Option Nat}
    (found : board.outlets[place]? = some (.capture kept downstream)) (chunk : String) :
    board.Extends ⟨board.outlets.set place (.capture (kept ++ [chunk]) downstream)⟩ where
  room := by simp
  captures other kept' downstream' found' := by
    by_cases same : place = other
    · subst same
      cases found.symm.trans found'
      have inside : place < board.outlets.length := (List.getElem?_eq_some_iff.mp found).1
      exact ⟨[chunk], by simp [inside]⟩
    · refine ⟨[], ?_⟩
      rw [List.getElem?_set_ne same, List.append_nil]
      exact found'

/-- **Sending lets captures only grow.** -/
theorem extends_send (board : Board) (place : Nat) (piece : Piece) :
    board.Extends (board.send place piece).1 := by
  fun_induction Board.send board place piece with
  | case1 => exact .refl _
  | case2 _ _ _ _ _ found _ hypothesis => exact (extends_set found _).trans hypothesis
  | case3 _ _ _ _ _ found => exact extends_set found _
  | case4 _ _ _ found => exact extends_set found _
  | case5 => exact .refl _

theorem extends_append (board : Board) (later : List Outlet) :
    board.Extends ⟨board.outlets ++ later⟩ where
  room := by simp
  captures place kept downstream found := by
    have inside : place < board.outlets.length := (List.getElem?_eq_some_iff.mp found).1
    refine ⟨[], ?_⟩
    rw [List.getElem?_append_left inside, List.append_nil]
    exact found

/-- A row of captures stays one. -/
theorem Leads.extended (leads : board.Leads bound target place) (grows : board.Extends after) :
    after.Leads bound target place := by
  induction leads with
  | here => exact .here
  | onward found above backward _ hypothesis =>
    obtain ⟨more, found'⟩ := grows.captures _ _ _ found
    exact .onward found' above backward hypothesis

/-- **What is sent down a row of captures is kept by these, and sent to the outlet behind them.** -/
theorem Leads.send (leads : board.Leads bound target place) (grows : board.Extends after)
    (piece : Piece) :
    ∃ kept : Board, kept.outlets.take bound = after.outlets.take bound ∧
      after.send place piece = kept.send target piece := by
  induction leads generalizing after with
  | here => exact ⟨after, rfl, rfl⟩
  | @onward place earlier chunks found above backward leads hypothesis =>
    obtain ⟨more, found'⟩ := grows.captures _ _ _ found
    obtain ⟨kept, front, sent⟩ := hypothesis (grows.trans (extends_set found' piece.chunk))
    refine ⟨kept, front.trans ?_, ?_⟩
    · exact List.take_set_of_le above
    · rw [Board.send, found']
      simp only [backward, if_true]
      exact sent

theorem length_send (board : Board) (place : Nat) (piece : Piece) :
    (board.send place piece).1.outlets.length = board.outlets.length := by
  fun_induction Board.send board place piece with
  | case2 _ _ _ _ _ _ _ hypothesis => rw [hypothesis, List.length_set]
  | case3 => exact List.length_set
  | case4 => exact List.length_set
  | _ => rfl

/-- What is sent to a capture is kept there. -/
theorem capture_send {kept : List String} {downstream : Option Nat}
    (found : board.outlets[place]? = some (.capture kept downstream)) (piece : Piece) :
    (board.send place piece).1.outlets[place]? =
      some (.capture (kept ++ [piece.chunk]) downstream) := by
  obtain ⟨more, found'⟩ := (board.extends_send place piece).captures place kept downstream found
  have chunks := captured_send found piece
  rw [Board.chunks, found'] at chunks
  rw [found', show kept ++ more = kept ++ [piece.chunk] from chunks]

/-- A row of captures stands on the board, if the outlet behind it does. -/
theorem Leads.inside (leads : board.Leads bound target place)
    (inside : target < board.outlets.length) : place < board.outlets.length := by
  cases leads with
  | here => exact inside
  | onward found => exact (List.getElem?_eq_some_iff.mp found).1

/-- Sending to one of the first outlets leaves those behind them alone. -/
theorem send_append (board : Board) (later : List Outlet) (piece : Piece)
    (inside : place < board.outlets.length) :
    Board.send ⟨board.outlets ++ later⟩ place piece =
      (⟨(board.send place piece).1.outlets ++ later⟩, (board.send place piece).2) := by
  fun_induction Board.send board place piece with
  | case1 board place text line found =>
    rw [Board.send, List.getElem?_append_left inside, found]
  | case2 board place chunks earlier backward found kept hypothesis =>
    rw [Board.send, List.getElem?_append_left inside, found]
    simp only [backward, if_true, List.set_append_left _ _ inside]
    refine hypothesis ?_
    rw [List.length_set]
    exact backward.trans inside
  | case3 board place chunks earlier stuck found =>
    rw [Board.send, List.getElem?_append_left inside, found]
    simp only [stuck, if_false, List.set_append_left _ _ inside]
    rfl
  | case4 board place chunks found =>
    rw [Board.send, List.getElem?_append_left inside, found]
    simp only [List.set_append_left _ _ inside]
    rfl
  | case5 board place noChannels noCapture =>
    rw [Board.send, List.getElem?_append_left inside]
    split
    · next found => exact absurd found (noChannels _ _)
    · next found => exact absurd found (noCapture _ _)
    · rfl

end Boards

end Board

end LineBasic
