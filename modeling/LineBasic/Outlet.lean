/-
**Outlets for what a session writes.**

An outlet throws text away, hands it to channels that may be open or closed, or captures it and
passes it on to an outlet that was there before. The outlets of a host stand on a board; an
outlet passes on only to an earlier place of the board.

* `captured_send` — a capture keeps exactly what was sent to it, a line with its line feed.
-/

import LineBasic.Text.Lines

namespace LineBasic

open Text

/-- What is written: a text, or a line. -/
inductive Piece where
  | text (text : String)
  | line (text : String)
  deriving DecidableEq

/-- Where writing goes. -/
inductive Outlet where
  | discard
  | channels (text line : Bool)
  | capture (chunks : List String) (downstream : Option Nat)
  deriving DecidableEq

/-- The outlets of a host, in the order in which they were made. -/
structure Board where
  outlets : List Outlet

namespace Piece

/-- The characters of a piece; a line ends in a line feed. -/
def chunk : Piece → String
  | text body => body
  | line body => body ++ "\n"

end Piece

namespace Outlet

/-- What an outlet has captured, in the order in which it was written. -/
def chunks? : Outlet → Option (List String)
  | capture chunks _ => some chunks
  | _ => none

/-- The whole captured text. -/
def whole (chunks : List String) : List Char :=
  chunks.flatMap String.toList

/-- The captured text without the blanks around it. -/
def output (chunks : List String) : String :=
  String.ofList (trim (whole chunks))

/-- The lines of the captured text that are not blank, without the blanks around them. -/
def lines (chunks : List String) : List String :=
  (((pieces (trim (whole chunks))).map trim).filter (· ≠ [])).map String.ofList

/-- Whether an outlet with open or closed channels lets a piece through. -/
def lets (text line : Bool) : Piece → Bool
  | .text _ => text
  | .line _ => line

end Outlet

namespace Board

/-- A board without outlets. -/
def empty : Board :=
  ⟨[]⟩

/-- The board with one more outlet, and the place of it. -/
def add (board : Board) (outlet : Outlet) : Board × Nat :=
  (⟨board.outlets ++ [outlet]⟩, board.outlets.length)

/-- Send a piece to the outlet at a place; the channels that it comes through are listed. -/
def send (board : Board) (place : Nat) (piece : Piece) : Board × List (Nat × Piece) :=
  match board.outlets[place]? with
  | some (.channels text line) =>
    (board, if Outlet.lets text line piece then [(place, piece)] else [])
  | some (.capture chunks downstream) =>
    let kept : Board :=
      ⟨board.outlets.set place (.capture (chunks ++ [piece.chunk]) downstream)⟩
    match downstream with
    | some earlier => if earlier < place then kept.send earlier piece else (kept, [])
    | none => (kept, [])
  | _ => (board, [])
termination_by place

/-- Forget what the outlet at a place has captured. -/
def clear (board : Board) (place : Nat) : Board :=
  match board.outlets[place]? with
  | some (.capture _ downstream) => ⟨board.outlets.set place (.capture [] downstream)⟩
  | _ => board

/-- What the outlet at a place has captured. -/
def chunks (board : Board) (place : Nat) : List String :=
  (board.outlets[place]?.bind Outlet.chunks?).getD []

/-! ### What a capture keeps -/

/-- Sending to an earlier place leaves later outlets alone. -/
theorem outlet_send_of_later (board : Board) (place later : Nat) (piece : Piece)
    (above : place < later) :
    (board.send place piece).1.outlets[later]? = board.outlets[later]? := by
  fun_induction Board.send board place piece with
  | case1 => rfl
  | case2 =>
    next hypothesis =>
    rw [hypothesis (by omega), List.getElem?_set_ne (by omega)]
  | case3 =>
    rw [List.getElem?_set_ne (by omega)]
  | case4 =>
    rw [List.getElem?_set_ne (by omega)]
  | case5 => rfl

/-- A capture keeps exactly what was sent to it, a line with its line feed. -/
theorem captured_send {board : Board} {place : Nat} {kept : List String} {downstream : Option Nat}
    (found : board.outlets[place]? = some (.capture kept downstream)) (piece : Piece) :
    (board.send place piece).1.chunks place = kept ++ [piece.chunk] := by
  have inside : place < board.outlets.length := (List.getElem?_eq_some_iff.mp found).1
  rw [Board.send, found]
  simp only
  split
  · next earlier =>
    split
    · next before =>
      rw [chunks, outlet_send_of_later _ _ _ _ before]
      simp [inside, Outlet.chunks?]
    · simp [chunks, inside, Outlet.chunks?]
  · simp [chunks, inside, Outlet.chunks?]

end Board

end LineBasic
