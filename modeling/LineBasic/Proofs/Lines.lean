/-
**Where the lines of a program stand.**

The numbers of a program are told apart, so a line is found under its number and its number is
found at its place, and nowhere else.

* `find?_of_mem` — a line of the program is found under its number;
* `mem_numbers_iff` — the line numbers are those under which a line is found;
* `numbers_at`, `find?_at`, `idxOf?_at` — a line between the lines before and after it;
* `foldl_insert_lines` — a program is what its lines make when they are stored one by one;
* `keepAll` — entries that are typed, of which those that say nothing delete a line.
-/

import LineBasic.Program
import Mathlib

namespace LineBasic

open Association

namespace Program

/-- A line of the program is found under its number. -/
theorem find?_of_mem {program : Program} {number : Int} {entry : Entry}
    (member : (number, entry) ∈ program.lines) : program.find? number = some entry :=
  (lookup_eq_some_iff program.apart).mpr member

/-- What is found under a number is a line of the program. -/
theorem mem_of_find? {program : Program} {number : Int} {entry : Entry}
    (found : program.find? number = some entry) : (number, entry) ∈ program.lines :=
  (lookup_eq_some_iff program.apart).mp found

/-- The line numbers are those under which a line is found. -/
theorem mem_numbers_iff {program : Program} {number : Int} :
    number ∈ program.numbers ↔ ∃ entry, program.find? number = some entry := by
  constructor
  · intro member
    obtain ⟨⟨_, entry⟩, inside, rfl⟩ := List.mem_map.mp member
    exact ⟨entry, find?_of_mem inside⟩
  · rintro ⟨entry, found⟩
    exact List.mem_map.mpr ⟨(number, entry), mem_of_find? found, rfl⟩

/-- A program has no lines exactly when it has no line numbers. -/
theorem isEmpty_iff_numbers (program : Program) :
    program.isEmpty = true ↔ program.numbers = [] := by
  unfold isEmpty numbers
  rw [List.isEmpty_iff, List.map_eq_nil_iff]

section Place

variable {program : Program} {before after : List (Int × Entry)} {line : Int × Entry}

/-- The number of a line stands at the place of the line. -/
theorem numbers_at (stored : program.lines = before ++ line :: after) :
    program.numbers[before.length]? = some line.1 := by
  unfold numbers
  rw [stored]
  simp

/-- The entry of a line is found under its number. -/
theorem find?_at (stored : program.lines = before ++ line :: after) :
    program.find? line.1 = some line.2 :=
  find?_of_mem (by rw [stored]; exact List.mem_append_right _ List.mem_cons_self)

/-- The number of a line is found at the place of the line. -/
theorem idxOf?_at (stored : program.lines = before ++ line :: after) :
    program.numbers.idxOf? line.1 = some before.length := by
  rw [List.idxOf?_eq_some_iff]
  have place := numbers_at stored
  obtain ⟨inside, value⟩ := List.getElem?_eq_some_iff.mp place
  refine ⟨inside, by simpa using value, fun earlier below => ?_⟩
  have apart := List.pairwise_iff_getElem.mp program.numbers_ascending earlier before.length
    (Nat.lt_trans below inside) inside below
  rw [value] at apart
  simpa using Int.ne_of_lt apart

end Place

/-! ### Storing line by line -/

/-- A line above all others comes last. -/
theorem put_last {number : Int} {entry : Entry} {lines : List (Int × Entry)}
    (above : ∀ line ∈ lines, line.1 < number) :
    put number entry lines = lines ++ [(number, entry)] := by
  induction lines with
  | nil => rfl
  | cons first later hypothesis =>
    have below : first.1 < number := above first List.mem_cons_self
    rw [put, if_neg (by omega), if_neg (by omega), List.cons_append]
    exact congrArg (first :: ·) (hypothesis fun line member =>
      above line (List.mem_cons_of_mem first member))

/-- Lines that ascend behind a program are put behind it. -/
theorem lines_foldl_insert {program : Program} {lines : List (Int × Entry)}
    (ascending : (program.lines ++ lines).Pairwise fun line later => line.1 < later.1) :
    (lines.foldl (fun program line => program.insert line.1 line.2) program).lines =
      program.lines ++ lines := by
  induction lines generalizing program with
  | nil => rw [List.foldl_nil, List.append_nil]
  | cons first later hypothesis =>
    have above : ∀ line ∈ program.lines, line.1 < first.1 := fun line member =>
      (List.pairwise_append.mp ascending).2.2 line member first List.mem_cons_self
    have last : (program.insert first.1 first.2).lines = program.lines ++ [first] := put_last above
    rw [List.append_cons, ← last] at ascending
    rw [List.foldl_cons, hypothesis ascending, last, ← List.append_cons]

/-- **A program is what its lines make** when they are stored one by one. -/
theorem foldl_insert_lines (program : Program) :
    program.lines.foldl (fun program line => program.insert line.1 line.2) empty = program :=
  eq_of_lines (lines_foldl_insert program.ascending)

/-! ### Typed entries -/

/-- The program after an entry is typed under a number; one that says nothing deletes the line. -/
def keep (program : Program) (number : Int) (entry : Entry) : Program :=
  match entry.statement with
  | .empty => program.erase number
  | _ => program.insert number entry

/-- The program after entries are typed one after the other. -/
def keepAll (program : Program) (typed : List (Int × Entry)) : Program :=
  typed.foldl (fun program line => program.keep line.1 line.2) program

theorem keep_filled (program : Program) (number : Int) {entry : Entry}
    (filled : entry.statement ≠ .empty) :
    program.keep number entry = program.insert number entry := by
  unfold keep
  split
  · next empty => exact absurd empty filled
  · rfl

/-- Entries that all say something are stored one by one. -/
theorem keepAll_filled {typed : List (Int × Entry)}
    (filled : ∀ line ∈ typed, line.2.statement ≠ .empty) (program : Program) :
    program.keepAll typed =
      typed.foldl (fun program line => program.insert line.1 line.2) program :=
  List.foldl_ext _ _ _ fun program line member =>
    program.keep_filled line.1 (filled line member)

end Program

end LineBasic
