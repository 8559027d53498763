/-
**Frames inside a border.**

A frame is drawn with a border of dashes around it. Every row is cut or filled up with spaces to
the width between the borders. A negative width cuts that many characters off the end of each row
and leaves no dashes.

* `fit_length` — a row between the borders has the width of the frame.
-/

namespace LineBasic.Screen

/-- A row that is cut to a width, and filled up to it. -/
def fit (columns : Int) (row : List Char) : List Char :=
  let kept := if columns < 0 then row.take (row.length - columns.natAbs) else row.take columns.toNat
  kept ++ List.replicate (columns.toNat - kept.length) ' '

/-- The line above and below a frame. -/
def border (columns : Int) : String :=
  "+" ++ String.ofList (List.replicate columns.toNat '-') ++ "+"

/-- The rows of a frame inside a border, each line with its line feed. -/
def bordered (columns : Int) (rows : List String) : String :=
  let body := rows.map fun row => "|" ++ String.ofList (fit columns row.toList) ++ "|"
  String.join ((border columns :: body ++ [border columns]).map (· ++ "\n"))

/-- A row between the borders has the width of the frame. -/
theorem fit_length {columns : Int} (wide : 0 ≤ columns) (row : List Char) :
    (fit columns row).length = columns.toNat := by
  have : ¬ columns < 0 := by omega
  simp only [fit, this, if_false, List.length_append, List.length_take, List.length_replicate]
  omega

end LineBasic.Screen
