/-
**The lines of a captured text.**

A line that is not blank carries ink. Blanks before and behind a text may reach over any number of
its lines, but they are dropped with no line that carries ink, and joined to none: they take
nothing from such a line that trimming it would not take. So the lines that a capture gives are
those of all that was sent to it, however that was divided into pieces.

* `Text.inkedLines` — the lines of a text that carry ink, without the blanks around them;
* `inkedLines_cons`, `inkedLines_concat` — a blank before or behind a text does not matter to them;
* `inkedLines_trim` — a text has the same lines with ink once it is trimmed;
* `Board.chunks_sendAll` — a capture keeps the chunks of all that is sent to it;
* `Board.lines_captured` — the lines that a capture gives.
-/

import LineBasic.Proofs.Page
import LineBasic.Proofs.Row

namespace LineBasic

/-! ### Lines that carry ink -/

namespace Text

/-- The lines of a text that are not blank, each without the blanks around it. -/
def inkedLines (text : List Char) : List (List Char) :=
  ((text.splitOn '\n').filter fun line => !line.all isBlank).map trim

section Ink

variable {c : Char} {blanks : List Char}

/-- The pieces of a text are what splitting it at its line feeds gives. -/
theorem pieces_eq_splitOn (text : List Char) : pieces text = text.splitOn '\n' := by
  induction text with
  | nil => rfl
  | cons c rest hypothesis =>
    rw [pieces, List.splitOn_cons_eq_if_modifyHead, hypothesis]
    by_cases feed : c = '\n'
    · rw [if_pos feed, if_pos (beq_iff_eq.mpr feed)]
    · rw [if_neg feed, if_neg fun same => feed (beq_iff_eq.mp same)]
      split
      · next none => exact absurd (hypothesis.trans none) (pieces_ne_nil rest)
      · next first others shape => rw [shape, List.modifyHead_cons]

theorem trim_cons (blank : isBlank c = true) (text : List Char) : trim (c :: text) = trim text := by
  rw [trim, trimStart, List.dropWhile_cons_of_pos blank]
  rfl

theorem trimEnd_concat (blank : isBlank c = true) (text : List Char) :
    trimEnd (text ++ [c]) = trimEnd text := by
  rw [trimEnd, List.reverse_concat, List.dropWhile_cons_of_pos blank]
  rfl

theorem trim_concat (blank : isBlank c = true) (text : List Char) :
    trim (text ++ [c]) = trim text := by
  unfold trim trimStart
  rw [List.dropWhile_append]
  split
  · next none =>
    rw [List.isEmpty_iff.mp none, List.dropWhile_cons_of_pos blank]
    rfl
  · exact trimEnd_concat blank _

/-- A blank before a text does not matter to its lines with ink. -/
theorem inkedLines_cons (blank : isBlank c = true) (text : List Char) :
    inkedLines (c :: text) = inkedLines text := by
  unfold inkedLines
  rw [List.splitOn_cons_eq_if_modifyHead]
  split
  · rfl
  · obtain ⟨first, others, shape⟩ : ∃ first others, text.splitOn '\n' = first :: others :=
      List.exists_cons_of_ne_nil (pieces_eq_splitOn text ▸ pieces_ne_nil text)
    rw [shape, List.modifyHead_cons, List.filter_cons, List.filter_cons, List.all_cons, blank,
      Bool.true_and]
    split
    · rw [List.map_cons, List.map_cons, trim_cons blank]
    · rfl

/-- A blank behind a text does not matter to its lines with ink. -/
theorem inkedLines_concat (blank : isBlank c = true) (text : List Char) :
    inkedLines (text ++ [c]) = inkedLines text := by
  obtain ⟨before, last, shape, ended, extended⟩ := Page.pieces_character text
  unfold inkedLines
  rw [← pieces_eq_splitOn, ← pieces_eq_splitOn, shape]
  by_cases feed : c = '\n'
  · rw [feed, ended, List.append_cons, List.filter_append]
    exact congrArg _ (List.append_nil _)
  · have same : (last ++ [c]).all isBlank = last.all isBlank := by
      rw [List.all_append, List.all_cons, List.all_nil, blank, Bool.and_self, Bool.and_true]
    rw [extended c feed, List.filter_append, List.filter_append, List.filter_singleton,
      List.filter_singleton, same, List.map_append, List.map_append]
    cases last.all isBlank with
    | true => rfl
    | false => exact congrArg (_ ++ [·]) (trim_concat blank last)

theorem inkedLines_append_left (areBlank : ∀ c ∈ blanks, isBlank c = true) (text : List Char) :
    inkedLines (blanks ++ text) = inkedLines text := by
  induction blanks with
  | nil => rfl
  | cons c rest hypothesis =>
    obtain ⟨blank, later⟩ := List.forall_mem_cons.mp areBlank
    rw [List.cons_append, inkedLines_cons blank, hypothesis later]

theorem inkedLines_append_right (areBlank : ∀ c ∈ blanks, isBlank c = true) (text : List Char) :
    inkedLines (text ++ blanks) = inkedLines text := by
  induction blanks generalizing text with
  | nil => rw [List.append_nil]
  | cons c rest hypothesis =>
    obtain ⟨blank, later⟩ := List.forall_mem_cons.mp areBlank
    rw [List.append_cons, hypothesis later, inkedLines_concat blank]

/-- **A text has the same lines with ink once it is trimmed.** -/
theorem inkedLines_trim (text : List Char) : inkedLines (trim text) = inkedLines text := by
  have start : inkedLines (trimStart text) = inkedLines text := by
    have areBlank : ∀ c ∈ text.takeWhile isBlank, isBlank c = true := fun _ member =>
      List.mem_takeWhile_imp member
    have parts : text.takeWhile isBlank ++ trimStart text = text :=
      List.takeWhile_append_dropWhile
    rw [← inkedLines_append_left areBlank, parts]
  have ending : ∀ kept, inkedLines (trimEnd kept) = inkedLines kept := by
    intro kept
    have areBlank : ∀ c ∈ (kept.reverse.takeWhile isBlank).reverse, isBlank c = true :=
      fun _ member => List.mem_takeWhile_imp (List.mem_reverse.mp member)
    have parts : trimEnd kept ++ (kept.reverse.takeWhile isBlank).reverse = kept := by
      rw [trimEnd, ← List.reverse_append, List.takeWhile_append_dropWhile, List.reverse_reverse]
    rw [← inkedLines_append_right areBlank, parts]
  exact (ending _).trans start

end Ink

end Text

/-! ### What a capture gives -/

/-- The lines of a capture are the lines with ink of all that it keeps. -/
theorem Outlet.lines_eq_inkedLines (chunks : List String) :
    Outlet.lines chunks = (Text.inkedLines (Outlet.whole chunks)).map String.ofList := by
  have kept : ((fun line : List Char => decide (line ≠ [])) ∘ Text.trim) =
      fun line => !line.all Text.isBlank := by
    funext line
    rw [Bool.eq_iff_iff]
    simp [Text.trim_eq_nil_iff]
  rw [← Text.inkedLines_trim, Outlet.lines, Text.inkedLines, Text.pieces_eq_splitOn,
    List.filter_map, kept]

namespace Board

/-- The board after pieces were sent to a place, one after the other. -/
def sendAll (place : Nat) (pieces : List Piece) (board : Board) : Board :=
  pieces.foldl (fun board piece => (board.send place piece).1) board

section Captured

variable {board : Board} {place : Nat} {kept : List String} {downstream : Option Nat}

/-- A capture keeps the chunks of all that is sent to it. -/
theorem chunks_sendAll (found : board.outlets[place]? = some (.capture kept downstream))
    (pieces : List Piece) :
    (board.sendAll place pieces).chunks place = kept ++ pieces.map Piece.chunk := by
  induction pieces generalizing board kept with
  | nil =>
    rw [List.map_nil, List.append_nil, sendAll, List.foldl_nil, Board.chunks, found]
    rfl
  | cons piece rest hypothesis =>
    have sent := hypothesis (capture_send found piece)
    rw [List.map_cons, List.append_cons]
    exact sent

/-- **Captured lines depend only on the captured text.** Whatever pieces are sent to a capture, its
lines are those of the whole text that carry ink, in order and without the blanks around them. The
blanks that its output is without concern none of these lines, and another division of the same
text gives the same lines. -/
theorem lines_captured (fresh : board.outlets[place]? = some (.capture [] downstream))
    (pieces : List Piece) :
    let text := pieces.flatMap fun piece => piece.chunk.toList
    let chunks := (board.sendAll place pieces).chunks place
    Outlet.lines chunks = (Text.inkedLines text).map String.ofList ∧
      Text.inkedLines (Outlet.output chunks).toList = Text.inkedLines text ∧
      ∀ others : List Piece, (others.flatMap fun piece => piece.chunk.toList) = text →
        Outlet.lines ((board.sendAll place others).chunks place) = Outlet.lines chunks := by
  intro text chunks
  have whole : ∀ pieces : List Piece,
      Outlet.whole ((board.sendAll place pieces).chunks place) =
        pieces.flatMap fun piece => piece.chunk.toList := by
    intro pieces
    rw [chunks_sendAll fresh, List.nil_append, Outlet.whole, List.flatMap_map]
  refine ⟨?_, ?_, fun others same => ?_⟩
  · rw [Outlet.lines_eq_inkedLines, whole]
  · rw [Outlet.output, String.toList_ofList, Text.inkedLines_trim, whole]
  · rw [Outlet.lines_eq_inkedLines, Outlet.lines_eq_inkedLines, whole, whole, same]

/-- Blanks of several alphabets before, between and behind two lines with ink, one of them sent in
two pieces. -/
theorem lines_captured_blanks :
    let board : Board := ⟨[.discard, .capture [] (some 0)]⟩
    let pieces : List Piece :=
      [.text " \n\u00a0", .text "A", .line "\x0cB\u2028", .line "\x1d", .line "\u2003C \n "]
    board.outlets[1]? = some (.capture [] (some 0)) ∧
      Outlet.lines ((board.sendAll 1 pieces).chunks 1) = ["A\x0cB", "C"] := by
  intro board pieces
  have fresh : board.outlets[1]? = some (.capture [] (some 0)) := rfl
  obtain ⟨lines, -, -⟩ := lines_captured fresh pieces
  refine ⟨fresh, lines.trans ?_⟩
  decide +kernel

end Captured

end Board

end LineBasic
