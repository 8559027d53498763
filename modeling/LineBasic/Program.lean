/-
**The stored program.**

A program is a map from line numbers to entries, kept in ascending order of the numbers. An entry
keeps the line as it was typed beside its statement; the listing shows the typed text, with its
own number in front.

* `find?_insert`, `find?_erase` — the last entry under a number is the one found;
* `ext` — two programs with the same entries are the same program;
* `numbers_ascending` — the line numbers ascend strictly.
-/

import LineBasic.Association
import LineBasic.Syntax.Node
import LineBasic.Text.Blank
import LineBasic.Text.Digit

namespace LineBasic

open Text Association

/-- A stored line: the text as it was typed, and its statement. -/
structure Entry where
  source : String
  statement : Node
  deriving Inhabited

namespace Entry

/-- The typed text without the line number that starts it and the blanks after the number. -/
def body (entry : Entry) : String :=
  match trim entry.source.toList with
  | [] => ""
  | c :: rest =>
    if isDecimal c then String.ofList (trimStart (rest.dropWhile isDecimal))
    else String.ofList (c :: rest)

end Entry

/-- A map from line numbers to entries, in ascending order. It is the sorted view of a store that
keeps the lines in the order in which they came in (`Store.view`): that order is never seen, as
whoever goes over the lines sorts the numbers first (`Session.goesBy_of_view`). -/
structure Program where
  lines : List (Int × Entry)
  ascending : lines.Pairwise fun line later => line.1 < later.1

namespace Program

/-- The program without lines. -/
def empty : Program :=
  ⟨[], .nil⟩

/-- Whether there is no line. -/
def isEmpty (program : Program) : Bool :=
  program.lines.isEmpty

/-- The line numbers in ascending order. -/
def numbers (program : Program) : List Int :=
  program.lines.map Prod.fst

/-- The entry under a number. -/
def find? (program : Program) (number : Int) : Option Entry :=
  program.lines.lookup number

/-- The lines with an entry put in its place, instead of an older one under its number. -/
def put (number : Int) (entry : Entry) : List (Int × Entry) → List (Int × Entry)
  | [] => [(number, entry)]
  | line :: later =>
    if number < line.1 then (number, entry) :: line :: later
    else if number = line.1 then (number, entry) :: later
    else line :: put number entry later

/-- What `put` holds is the new line or an old one. -/
theorem mem_put {number : Int} {entry : Entry} {lines : List (Int × Entry)} {line : Int × Entry}
    (member : line ∈ put number entry lines) : line = (number, entry) ∨ line ∈ lines := by
  induction lines with
  | nil => simpa [put] using member
  | cons first later hypothesis =>
    rw [put] at member
    split at member
    · simpa using member
    · split at member
      · rcases List.mem_cons.mp member with same | old
        · exact .inl same
        · exact .inr (List.mem_cons_of_mem _ old)
      · rcases List.mem_cons.mp member with same | old
        · exact .inr (by simp [same])
        · exact (hypothesis old).imp id (List.mem_cons_of_mem _)

/-- Putting an entry in its place keeps the order. -/
theorem ascending_put (number : Int) (entry : Entry) {lines : List (Int × Entry)}
    (ascending : lines.Pairwise fun line later => line.1 < later.1) :
    (put number entry lines).Pairwise fun line later => line.1 < later.1 := by
  induction lines with
  | nil => simp [put]
  | cons first later hypothesis =>
    obtain ⟨above, rest⟩ := List.pairwise_cons.mp ascending
    rw [put]
    split
    · next before =>
      refine List.pairwise_cons.mpr ⟨fun line member => ?_, ascending⟩
      rcases List.mem_cons.mp member with same | old
      · simpa [same] using before
      · exact Int.lt_trans before (above line old)
    · split
      · next same => exact List.pairwise_cons.mpr ⟨fun line member => by
          simpa [same] using above line member, rest⟩
      · next notBefore different =>
        refine List.pairwise_cons.mpr ⟨fun line member => ?_, hypothesis rest⟩
        rcases mem_put member with same | old
        · rw [same]
          simp only
          omega
        · exact above line old

/-- The program with a line stored, instead of an older one under its number. -/
def insert (program : Program) (number : Int) (entry : Entry) : Program :=
  ⟨put number entry program.lines, ascending_put number entry program.ascending⟩

/-- The program without the line of a number. -/
def erase (program : Program) (number : Int) : Program :=
  ⟨program.lines.filter fun line => line.1 != number, program.ascending.filter _⟩

/-- Whether a number lies within bounds that may be missing. -/
def within (first last : Option Int) (number : Int) : Bool :=
  first.all (· ≤ number) && last.all (number ≤ ·)

/-- The lines within bounds, each with its number before its text. -/
def listing (program : Program) (first last : Option Int) : List String :=
  (program.lines.filter fun line => within first last line.1).map fun line =>
    toString line.1 ++ " " ++ line.2.body

/-! ### Laws of the map -/

/-- What is found after an entry is put in its place. -/
theorem lookup_put (number other : Int) (entry : Entry) (lines : List (Int × Entry))
    (ascending : lines.Pairwise fun line later => line.1 < later.1) :
    (put number entry lines).lookup other =
      if other = number then some entry else lines.lookup other := by
  induction lines with
  | nil => simp [put, lookup_cons]
  | cons first later hypothesis =>
    obtain ⟨_, rest⟩ := List.pairwise_cons.mp ascending
    rw [put]
    split
    · rw [lookup_cons]
    · split
      · next same =>
        rw [lookup_cons, lookup_cons, ← same]
        split <;> rfl
      · next different =>
        rw [lookup_cons, lookup_cons, hypothesis rest]
        by_cases same : other = first.1
        · have : ¬ first.1 = number := fun equal => different equal.symm
          simp [same, this]
        · simp [same]

/-- After a line is stored its entry is found under its number, and nothing else has changed. -/
theorem find?_insert (program : Program) (number other : Int) (entry : Entry) :
    (program.insert number entry).find? other =
      if other = number then some entry else program.find? other :=
  lookup_put number other entry program.lines program.ascending

/-- After a line is erased nothing is found under its number, and nothing else has changed. -/
theorem find?_erase (program : Program) (number other : Int) :
    (program.erase number).find? other = if other = number then none else program.find? other :=
  lookup_filter number other program.lines

/-- The line numbers ascend strictly. -/
theorem numbers_ascending (program : Program) : program.numbers.Pairwise (· < ·) :=
  List.pairwise_map.mpr program.ascending

/-- The numbers of the lines differ. -/
theorem apart (program : Program) :
    program.lines.Pairwise fun line other => line.1 ≠ other.1 :=
  program.ascending.imp Int.ne_of_lt

theorem eq_of_lines {program other : Program} (same : program.lines = other.lines) :
    program = other := by
  obtain ⟨lines, ascending⟩ := program
  cases same
  rfl

/-- Two programs with the same entries are the same program. -/
theorem ext {program other : Program} (same : ∀ number, program.find? number = other.find? number) :
    program = other := by
  have nodup : ∀ program : Program, program.lines.Nodup := fun program =>
    program.apart.imp fun differ equal => differ (congrArg Prod.fst equal)
  have alike : program.lines.Perm other.lines := by
    refine (List.perm_ext_iff_of_nodup (nodup program) (nodup other)).mpr fun line => ?_
    rw [← lookup_eq_some_iff program.apart, ← lookup_eq_some_iff other.apart]
    exact iff_of_eq (congrArg (· = some line.2) (same line.1))
  -- in ascending order there is only one list of the same lines
  exact eq_of_lines (alike.eq_of_pairwise (fun line later _ _ before after => by omega)
    program.ascending other.ascending)

end Program

end LineBasic
