/-
**A listing is typed again.**

A line of a listing is the number of a stored line and its text without the number that it was
typed with. It is read as the stored line was, if that one had its number written as an integer.
Typed into a fresh session, a listing stores the program that it lists.

* `Entry.IsLine.relisted` — the line of a listing is read as the line that it lists;
* `Rehearsal.typeLines_listing` — a listing that is typed again;
* `Sitting.listing_retyped` — whatever was called before, a listing re-enters as its program.
-/

import LineBasic.Proofs.Grammar.Extent
import LineBasic.Proofs.Latest
import LineBasic.Proofs.Sitting
import LineBasic.Proofs.Spelling.Column

namespace LineBasic

open Text Lexer

/-! ### A line with a number in front -/

/-- What a line with a number in front is read as. -/
theorem Parser.numbered_of_line {value : Value} {column : Nat} {others : List Token}
    {number : Int} {statement : Node}
    (parsed : line (⟨.number value, column⟩ :: others) = .ok (.programLine number statement)) :
    toLineNumber value = .ok number ∧ (atEnd others = true → statement = .empty) := by
  have going : atEnd (⟨.number value, column⟩ :: others) = false := rfl
  have ahead : numberAhead? (⟨.number value, column⟩ :: others) = some (value, others) := rfl
  unfold line at parsed
  rw [going, ahead] at parsed
  simp only [Bool.false_eq_true, if_false] at parsed
  rcases isNumber : toLineNumber value with reason | n
  · rw [isNumber] at parsed
    cases parsed
  · rw [isNumber] at parsed
    simp only at parsed
    split at parsed
    · cases parsed
      exact ⟨rfl, fun _ => rfl⟩
    · next more =>
      rcases found : Parser.statement others with reason | ⟨node, rest⟩
      · rw [found] at parsed
        cases parsed
      · rw [found] at parsed
        cases parsed
        exact ⟨rfl, fun ended => absurd ended more⟩

/-- An integer is the line number that it stands for. -/
theorem Parser.eq_of_toLineNumber {n number : Int}
    (isNumber : toLineNumber (.number (.int n)) = .ok number) : number = n := by
  simp only [toLineNumber] at isNumber
  split at isNumber
  · cases isNumber
  · exact (Except.ok.inj isNumber).symm

/-! ### A line of a listing -/

/-- A line whose number, if it has one, is written as an integer. -/
def HasInteger (line : String) : Prop :=
  ∀ read number statement, tokens line = .ok read →
    Parser.line read = .ok (.programLine number statement) →
    ∃ n column others, read = ⟨.number (.number (.int n)), column⟩ :: others

namespace Entry

/-- The line of a listing for an entry under a number. -/
def row (number : Int) (entry : Entry) : String :=
  toString number ++ " " ++ entry.body

/-- The entry that the line of a listing is stored as. -/
def relisted (number : Int) (entry : Entry) : Entry where
  source := entry.row number
  statement := entry.statement

theorem toList_row (n : Nat) (entry : Entry) :
    (entry.row n).toList = Nat.toDigits 10 n ++ ' ' :: entry.body.toList := by
  have digits : (toString (n : Int)).toList = Nat.toDigits 10 n := String.toList_ofList
  rw [row, String.toList_append, String.toList_append, digits, List.append_assoc]
  rfl

/-- The text of an entry is what stands behind the digits in front, without blanks. -/
theorem body_of_digits {entry : Entry} {digits after : List Char}
    (shape : trim entry.source.toList = digits ++ after) (areDigits : AreDigits digits)
    (ended : ∀ c, after.head? = some c → isDecimal c = false) :
    entry.body.toList = trimStart after := by
  have decimal : ∀ c ∈ digits, isDecimal c = true := by
    intro c member
    rw [isDecimal, digitValue?_ascii (areDigits.2 c member)]
    rfl
  have left := (takeWhile_ended decimal ended).2
  rcases digits with _ | ⟨c, others⟩
  · exact absurd rfl areDigits.1
  · have first : isDecimal c = true := decimal c List.mem_cons_self
    rw [List.cons_append, List.dropWhile_cons_of_pos first] at left
    unfold body
    rw [shape, List.cons_append]
    simp only
    rw [if_pos first, left, String.toList_ofList]

/-- A text that can stand behind the number of a line: it is there, and trimmed. -/
structure Stands (entry : Entry) : Prop where
  filled : entry.body.toList ≠ []
  first : ∀ c, entry.body.toList.head? = some c → isBlank c = false
  last : ∀ c, entry.body.toList.getLast? = some c → isBlank c = false

section Row

variable {n : Nat} {entry : Entry}

theorem Stands.trim_row (stands : entry.Stands) :
    trim (entry.row n).toList = (entry.row n).toList := by
  rw [toList_row]
  refine trim_inked (fun c first => ?_) fun c ends => stands.last c ?_
  · rw [List.head?_append_of_ne_nil _ Nat.toDigits_ne_nil] at first
    exact not_isBlank_of_isDigit (isDigit_of_mem_toDigits (List.mem_of_head? first))
  · rw [List.getLast?_append, List.getLast?_cons_of_ne_nil stands.filled] at ends
    rwa [List.getLast?_eq_some_getLast stands.filled] at ends ⊢

/-- The line of a listing is read as its number, and what its text is read as. -/
theorem Stands.tokens_row (stands : entry.Stands) (short : n < 10 ^ digitLimit) {column : Nat}
    {others : List Token} (scanned : scan column entry.body.toList = .ok others) :
    ∃ others', tokens (entry.row n) = .ok (⟨.number (.number (.int n)), 0⟩ :: others') ∧
      others'.map Token.lexeme = others.map Token.lexeme := by
  obtain ⟨c, tail, spelled, inked, reads⟩ :=
    lexemeAt_written (.integer short) (apart_space _ entry.body.toList)
  have plain : Lexeme.number (.number (.int n)) ≠ .keyword "REM" := nofun
  have again := scan_lexeme inked plain (reads 0)
  have space : isBlank ' ' = true := rfl
  rw [scan_blank space] at again
  obtain ⟨others', isRead, same⟩ := scan_columns scanned _
  rw [isRead] at again
  refine ⟨others', ?_, same⟩
  rw [tokens, stands.trim_row, toList_row, spelled]
  exact again

/-- The text of the line of a listing is the text that it lists. -/
theorem Stands.body_row (stands : entry.Stands) : (entry.relisted n).body = entry.body := by
  have areDigits : AreDigits (Nat.toDigits 10 n) :=
    ⟨Nat.toDigits_ne_nil, fun c => isDigit_of_mem_toDigits⟩
  have shape : trim (entry.relisted n).source.toList =
      Nat.toDigits 10 n ++ ' ' :: entry.body.toList := by
    rw [← toList_row]
    exact stands.trim_row
  have ended : ∀ c, (' ' :: entry.body.toList).head? = some c → isDecimal c = false := by
    rintro c ⟨⟩
    decide
  have behind := body_of_digits shape areDigits ended
  refine String.toList_inj.mp ?_
  obtain ⟨c, rest, start⟩ := List.exists_cons_of_ne_nil stands.filled
  have inked : isBlank c = false := stands.first c (by rw [start]; rfl)
  rw [behind, start, trimStart, List.dropWhile_cons_of_pos rfl,
    List.dropWhile_cons_of_neg (by rw [inked]; decide)]

end Row

/-- A stored line whose number is an integer is read as that number and its text. -/
theorem IsLine.stands {number : Int} {entry : Entry} (isLine : entry.IsLine number)
    (integer : HasInteger entry.source) :
    entry.Stands ∧ ∃ (n column : Nat) (others : List Token), number = n ∧ n < 10 ^ digitLimit ∧
      tokens entry.source = .ok (⟨.number (.number (.int n)), column⟩ :: others) ∧
      ∃ column', scan column' entry.body.toList = .ok others := by
  obtain ⟨read, isRead, parsed⟩ := isLine.reads
  obtain ⟨n, column, others, rfl⟩ := integer read number entry.statement isRead parsed
  obtain ⟨isNumber, ends⟩ := Parser.numbered_of_line parsed
  obtain ⟨digits, after, column', shape, areDigits, ended, ⟨_, writes⟩, scanned⟩ :=
    opening_of_tokens isRead
  cases writes with
  | @integer n short =>
  have behind := body_of_digits shape areDigits ended
  obtain ⟨column'', skipped⟩ := scan_trimStart column' after
  rw [skipped, ← behind] at scanned
  refine ⟨⟨?_, ?_, ?_⟩, n, column, others, Parser.eq_of_toLineNumber isNumber, short, isRead,
    column'', scanned⟩
  · intro empty
    rw [empty, scan] at scanned
    cases scanned
    exact isLine.filled (ends rfl)
  · intro c first
    obtain ⟨rest, start⟩ := List.head?_eq_some_iff.mp first
    exact head_dropWhile isBlank after c rest (behind.symm.trans start)
  · refine fun c last => last_of_trimmed (trim_trim entry.source.toList) c ?_
    obtain ⟨front, split⟩ := List.dropWhile_suffix (l := after) isBlank
    rw [shape, ← split, ← trimStart, ← behind, ← List.append_assoc, List.getLast?_append, last]
    rfl

/-- **The line of a listing is read as the line that it lists**, and listed as it is. -/
theorem IsLine.relisted {number : Int} {entry : Entry} (isLine : entry.IsLine number)
    (integer : HasInteger entry.source) :
    (entry.relisted number).IsLine number ∧ (entry.relisted number).body = entry.body := by
  obtain ⟨stands, n, column, others, rfl, short, isRead, column', scanned⟩ :=
    isLine.stands integer
  obtain ⟨read, isRead', parsed⟩ := isLine.reads
  cases isRead.symm.trans isRead'
  obtain ⟨others', isRead', same⟩ := stands.tokens_row short scanned
  refine ⟨⟨isLine.positive, isLine.filled, _, isRead', ?_⟩, stands.body_row⟩
  refine Parser.line_congr (fun token member => (native_of_tokens isRead token member).1) ?_ parsed
  rw [List.map_cons, List.map_cons, same]

end Entry

/-! ### A listing -/

namespace Program

/-- The program that the listing of a program is stored as. -/
def relisted (program : Program) : Program where
  lines := program.lines.map fun line => (line.1, line.2.relisted line.1)
  ascending := List.pairwise_map.mpr program.ascending

/-- Each line of a program was typed with an integer in front. -/
def HasIntegers (program : Program) : Prop :=
  ∀ line ∈ program.lines, line.2.IsLine line.1 ∧ HasInteger line.2.source

variable {program : Program}

theorem listing_all (program : Program) :
    program.listing none none = program.lines.map fun line => line.2.row line.1 := by
  have all : (program.lines.filter fun line => within none none line.1) = program.lines :=
    List.filter_eq_self.mpr fun _ _ => rfl
  rw [listing, all]
  rfl

theorem numbers_relisted (program : Program) : program.relisted.numbers = program.numbers := by
  unfold numbers relisted
  rw [List.map_map]
  rfl

/-- What is found in the listing of a program is what is found in the program, as it is listed. -/
theorem find?_relisted (program : Program) (number : Int) :
    program.relisted.find? number = (program.find? number).map (Entry.relisted number) := by
  unfold find? relisted
  simp only
  induction program.lines with
  | nil => rfl
  | cons first later hypothesis =>
    rw [List.map_cons, Association.lookup_cons, Association.lookup_cons]
    split
    · next same =>
      rw [same]
      rfl
    · exact hypothesis

/-- The listing of a listing is the listing. -/
theorem HasIntegers.listing_relisted (integers : program.HasIntegers) :
    program.relisted.listing none none = program.listing none none := by
  rw [listing_all, listing_all, relisted, List.map_map]
  refine List.map_congr_left fun line member => ?_
  obtain ⟨isLine, integer⟩ := integers line member
  have same := (isLine.relisted integer).2
  simp only [Function.comp_apply, Entry.row, same]

end Program

namespace Rehearsal

/-- **A listing that is typed again** stores the program that it lists. -/
theorem typeLines_listing (host : Rehearsal) {program : Program}
    (integers : program.HasIntegers) :
    host.typeLines .fresh (program.listing none none) =
      ({ host with notes := (program.numbers.map Note.stored).reverse ++ host.notes },
        { Session.fresh with program := program.relisted }, none) := by
  have rows : program.listing none none =
      program.relisted.lines.map fun line => line.2.source := by
    rw [Program.listing_all, Program.relisted, List.map_map]
    rfl
  have areLines : ∀ line ∈ program.relisted.lines, line.2.IsLine line.1 := by
    intro line member
    obtain ⟨stored, inside, rfl⟩ := List.mem_map.mp member
    obtain ⟨isLine, integer⟩ := integers stored inside
    exact (isLine.relisted integer).1
  have typed := host.typeLines_numbered fun line member => (areLines line member).reads
  have notes : (program.relisted.lines.map fun line => line.2.note line.1) =
      program.numbers.map Note.stored := by
    rw [← Program.numbers_relisted, Program.numbers, List.map_map]
    exact List.map_congr_left fun line member => Entry.note_filled (areLines line member).filled _
  rw [rows, typed, notes, Program.keepAll_filled fun line member => (areLines line member).filled,
    Program.foldl_insert_lines]

end Rehearsal

/-! ### Listings of sittings -/

/-- A call that types no line whose number is written with a point. -/
def Call.WritesInteger : Call → Prop
  | .line text => HasInteger text
  | _ => True

/-- **A listing re-enters as the same program**: nothing is reported, the same numbers hold the same
statements, and the listing is the same again. -/
theorem Sitting.listing_retyped {sitting : Sitting} (reached : Reached Call.WritesInteger sitting)
    (host : Rehearsal) :
    ∃ notes again, host.typeLines .fresh (sitting.session.program.listing none none) =
        ({ host with notes }, again, none) ∧
      again.program.numbers = sitting.session.program.numbers ∧
      (∀ number, (again.program.find? number).map Entry.statement =
        (sitting.session.program.find? number).map Entry.statement) ∧
      again.program.listing none none = sitting.session.program.listing none none := by
  have orderly := orderly_of_reached reached
  have integers : sitting.session.program.HasIntegers := by
    intro line member
    obtain ⟨integer, isLine⟩ :=
      orderly.kept.stored line.1 line.2 (Program.find?_of_mem member)
    exact ⟨isLine, integer⟩
  refine ⟨_, _, host.typeLines_listing integers, Program.numbers_relisted _, fun number => ?_,
    integers.listing_relisted⟩
  simp only [Program.find?_relisted, Option.map_map]
  rfl

/-- A line is typed with zeros in front of its number and nothing behind it. -/
theorem Sitting.listing_retyped_zeros :
    ∃ session : Session, Reached Call.WritesInteger ⟨session, []⟩ ∧
      session.program.listing none none = ["10 NEXT A"] ∧
      ∃ notes again, (Rehearsal.unwired []).typeLines .fresh ["10 NEXT A"] =
          ({ Rehearsal.unwired [] with notes }, again, none) ∧
        again.program.numbers = [10] ∧ again.program.listing none none = ["10 NEXT A"] := by
  have isRead : tokens "0010NEXT A" = .ok [⟨.number (.int 10), 0⟩, ⟨.keyword "NEXT", 4⟩,
      ⟨.identifier "A", 9⟩, ⟨.endOfLine, 10⟩] := by
    cbv
  have parsed : Parser.line [⟨.number (.int 10), 0⟩, ⟨.keyword "NEXT", 4⟩, ⟨.identifier "A", 9⟩,
      ⟨.endOfLine, 10⟩] = .ok (.programLine 10 (.next (some "A"))) := by
    cbv
  have isLine : Entry.IsLine 10 ⟨"0010NEXT A", .next (some "A")⟩ :=
    ⟨by decide, by rintro ⟨⟩, _, isRead, parsed⟩
  have permitted : Call.WritesInteger (.line "0010NEXT A") := by
    intro read number statement isRead' _
    cases isRead.symm.trans isRead'
    exact ⟨10, 0, _, rfl⟩
  have stored := (Reached.start : Reached Call.WritesInteger start).stored (by rintro _ ⟨⟩) isLine
    permitted
  have rows : (Session.fresh.program.insert 10 ⟨"0010NEXT A", .next (some "A")⟩).listing
      none none = ["10 NEXT A"] := by
    cbv
  obtain ⟨notes, again, typed, numbers, _, listed⟩ := listing_retyped stored (Rehearsal.unwired [])
  simp only at typed
  rw [rows] at typed
  exact ⟨_, stored, rows, notes, again, typed, numbers, listed.trans rows⟩

end LineBasic
