/-
**What a listing shows of a line.**

A listing shows a stored line without the decimal digits in front of its text and the blanks behind
them. Where the number of the line is written as an integer, these digits are all of it, and what is
shown is the text from its second token on. Of a number that is written with a point, what is shown
starts at the point.

* `scan_opens_at` — the first token of a text, and where the others are read;
* `listing_at` — the listing of one line;
* `listed_behind_number` — the column from which the text of a line is listed;
* `point_listed` — the second token is not always where the listed text starts.
-/

import LineBasic.Proofs.Listing
import LineBasic.Proofs.Spelling.Stray

namespace LineBasic

open Text Lexer

/-! ### The first two tokens of a line -/

section Opening

variable {column : Nat} {text : List Char} {first : Token} {others : List Token}

/-- Blanks in front of a text only move the columns. -/
theorem scan_behind_blanks (column : Nat) (text : List Char) :
    scan column text = scan (column + (text.takeWhile isBlank).length) (trimStart text) := by
  induction text generalizing column with
  | nil => rfl
  | cons c rest hypothesis =>
    by_cases blank : isBlank c = true
    · rw [scan_blank blank, hypothesis, trimStart, trimStart, List.dropWhile_cons_of_pos blank,
        List.takeWhile_cons_of_pos blank, List.length_cons, Nat.add_right_comm, Nat.add_assoc]
    · rw [trimStart, List.dropWhile_cons_of_neg blank, List.takeWhile_cons_of_neg blank]
      rfl

/-- **The first token of a text** stands at its first character that is no blank. -/
theorem column_of_scan (scanned : scan column text = .ok (first :: others)) :
    first.column = column + (text.takeWhile isBlank).length := by
  rw [scan_behind_blanks] at scanned
  generalize column + (text.takeWhile isBlank).length = place at scanned ⊢
  rcases shape : trimStart text with _ | ⟨c, tail⟩
  · rw [shape, scan] at scanned
    cases scanned
    rfl
  · rw [shape] at scanned
    have inked := head_dropWhile isBlank text c tail shape
    rcases reads : lexemeAt place c tail with ⟨error | lexeme, after⟩
    · rw [scan_unread inked reads] at scanned
      cases scanned
    · by_cases opens : lexeme = .keyword "REM"
      · subst opens
        rw [scan_remark inked reads] at scanned
        cases scanned
        rfl
      · rw [scan_lexeme inked opens reads] at scanned
        rcases found : scan (place + (tail.length + 1 - after.length)) after with error | tokens
        · rw [found] at scanned
          cases scanned
        · rw [found] at scanned
          cases scanned
          rfl

/-- The others are read behind the longest stretch at the front. -/
theorem scan_opens_at {c : Char} {tail : List Char} (inked : isBlank c = false)
    (plain : first.lexeme ≠ .keyword "REM")
    (scanned : scan column (c :: tail) = .ok (first :: others)) :
    ∃ span after, c :: tail = span ++ after ∧ Leads after span first.lexeme ∧
      scan (column + span.length) after = .ok others := by
  rcases reads : lexemeAt column c tail with ⟨error | lexeme, after⟩
  · rw [scan_unread inked reads] at scanned
    cases scanned
  · obtain ⟨span, shape, leads, _⟩ := leads_of_lexemeAt reads
    have long : tail.length + 1 - after.length = span.length := by
      have total := congrArg List.length shape
      rw [List.length_cons, List.length_append] at total
      omega
    by_cases opens : lexeme = .keyword "REM"
    · subst opens
      rw [scan_remark inked reads] at scanned
      cases scanned
      exact absurd rfl plain
    · rw [scan_lexeme inked opens reads, long] at scanned
      rcases found : scan (column + span.length) after with error | tokens
      · rw [found] at scanned
        cases scanned
      · rw [found] at scanned
        cases scanned
        exact ⟨span, after, shape, leads, found⟩

/-- A line of a program starts with its number, and something stands behind it. -/
theorem opening_of_line {line : String} {read : List Token} {number : Int} {statement : Node}
    (isRead : tokens line = .ok read)
    (parsed : Parser.line read = .ok (.programLine number statement))
    (filled : statement ≠ .empty) :
    ∃ value column second others, read = ⟨.number value, column⟩ :: second :: others ∧
      Parser.toLineNumber value = .ok number ∧ second.lexeme.isEnd = false := by
  have native : Parser.Native read := fun token member => (native_of_tokens isRead token member).1
  have starts : ∃ value column others, read = ⟨.number value, column⟩ :: others := by
    obtain ⟨taken, rest, rfl, derives⟩ := Parser.line_sound native parsed
    generalize spelled : taken.map Token.lexeme = words at derives
    cases derives with
    | bareNumber => exact absurd rfl filled
    | immediate derives => cases derives
    | numbered =>
      obtain ⟨⟨lexeme, column⟩, others, rfl, rfl, _⟩ := List.map_eq_cons_iff.mp spelled
      exact ⟨_, column, others ++ rest, rfl⟩
  obtain ⟨value, column, others, rfl⟩ := starts
  obtain ⟨isNumber, ends⟩ := Parser.numbered_of_line parsed
  rcases others with _ | ⟨second, others⟩
  · exact absurd (ends rfl) filled
  · refine ⟨value, column, second, others, rfl, isNumber, ?_⟩
    by_contra isEnd
    exact filled (ends (show second.lexeme.isEnd = true by simpa using isEnd))

end Opening

/-! ### The listing of one line -/

/-- The listing of the line under a number. -/
theorem Program.listing_at {program : Program} {number : Int} {entry : Entry}
    (found : program.find? number = some entry) :
    program.listing (some number) (some number) = [entry.row number] := by
  obtain ⟨shown, ascending, holds, listed⟩ := program.listing_ascending (some number) (some number)
  have only : ∀ line ∈ shown, line = (number, entry) := by
    intro line member
    obtain ⟨isFound, below, above⟩ := (holds line.1 line.2).mp member
    have same : line.1 = number := Int.le_antisymm (above number rfl) (below number rfl)
    rw [same, found] at isFound
    exact Prod.ext same (Option.some.inj isFound).symm
  have there : (number, entry) ∈ shown := (holds number entry).mpr
    ⟨found, by rintro _ ⟨⟩; exact Int.le_refl _, by rintro _ ⟨⟩; exact Int.le_refl _⟩
  rw [listed]
  rcases shown with _ | ⟨line, _ | ⟨later, others⟩⟩
  · cases there
  · rw [only line List.mem_cons_self]
    rfl
  · have above := (List.pairwise_cons.mp ascending).1 later List.mem_cons_self
    rw [only line List.mem_cons_self, only later (List.mem_cons_of_mem _ List.mem_cons_self)]
      at above
    exact absurd above (Int.lt_irrefl _)

/-- **The column from which the text of a line is listed:** that of its second token where its
number is an integer, that of the point where its number has one. -/
inductive ListedFrom (text : List Char) (first second : Token) : Nat → Prop
  | integer {n : Int} {digits blanks : List Char} (isInteger : first.lexeme = .number (.int n))
      (areDigits : AreDigits digits) (areBlank : ∀ c ∈ blanks, isBlank c = true)
      (spelled : text.take second.column = digits ++ blanks) :
      ListedFrom text first second second.column
  | point {whole fraction behind : List Char} (areDigits : AreDigits whole)
      (areDigits' : ∀ c ∈ fraction, isDigit c = true)
      (isReal : first.lexeme = .number (.real (Numeral.toFloat ⟨false, whole, fraction, 0⟩)))
      (spelled : text = whole ++ '.' :: (fraction ++ behind))
      (before : whole.length < second.column) : ListedFrom text first second whole.length

/-- What is listed of a line, from the way in which its first token is spelled. -/
theorem Entry.body_listed {entry : Entry} {value : Value} {column : Nat} {second : Token}
    {others : List Token}
    (isRead : tokens entry.source = .ok (⟨.number value, column⟩ :: second :: others)) :
    ∃ k, ListedFrom (trim entry.source.toList) ⟨.number value, column⟩ second k ∧
      entry.body = String.ofList ((trim entry.source.toList).drop k) := by
  unfold tokens at isRead
  rcases shape : trim entry.source.toList with _ | ⟨c, tail⟩
  · rw [shape, scan] at isRead
    cases isRead
  · rw [shape] at isRead
    obtain ⟨span, after, split, leads, scanned⟩ :=
      scan_opens_at (head_of_trim shape) (by rintro ⟨⟩) isRead
    have place := column_of_scan scanned
    rw [Nat.zero_add] at scanned place
    have parts : after = after.takeWhile isBlank ++ trimStart after :=
      List.takeWhile_append_dropWhile.symm
    rw [split] at shape ⊢
    have ended := leads.ended
    have denotes := leads.denotes
    generalize spells : Lexeme.number value = lexeme at denotes
    cases denotes with
    | integer areDigits =>
      cases spells
      have apart : ∀ d, after.head? = some d → isDecimal d = false := by
        intro d next
        refine not_isDecimal_of_scan scanned next ?_
        simpa using fun digit => ended d next (extends_digit areDigits digit)
      have long : second.column = (span ++ after.takeWhile isBlank).length := by
        rw [place, List.length_append]
      have divided : span ++ after = (span ++ after.takeWhile isBlank) ++ trimStart after := by
        rw [List.append_assoc, ← parts]
      have areBlank : ∀ d ∈ after.takeWhile isBlank, isBlank d = true :=
        fun d member => List.all_eq_true.mp List.all_takeWhile d member
      refine ⟨second.column, .integer rfl areDigits areBlank ?_, ?_⟩
      · rw [divided, long, List.take_left]
      · rw [divided, long, List.drop_left, ← body_of_digits shape areDigits apart,
          String.ofList_toList]
    | @real whole fraction x areDigits areDigits' isValue =>
      cases spells
      rw [real?_of_digits areDigits areDigits'] at isValue
      cases isValue
      have divided : (whole ++ '.' :: fraction) ++ after = whole ++ '.' :: (fraction ++ after) := by
        rw [List.append_assoc, List.cons_append]
      have apart : ∀ d, ('.' :: (fraction ++ after)).head? = some d → isDecimal d = false := by
        rintro d ⟨⟩
        decide
      have before : whole.length < second.column := by
        rw [place, List.length_append, List.length_cons]
        omega
      rw [divided] at shape ⊢
      refine ⟨whole.length, .point areDigits areDigits' rfl rfl before, ?_⟩
      have listed := body_of_digits shape areDigits apart
      rw [trimStart, List.dropWhile_cons_of_neg (by decide)] at listed
      rw [List.drop_left, ← listed, String.ofList_toList]
    | _ => cases spells

/-- **What a listing shows of a line that is stored:** its number, a space, and its text from the
column that its number tells. -/
theorem Session.listed_behind_number (session : Session) {line : String} {read : List Token}
    {number : Int} {statement : Node} (isRead : tokens line = .ok read)
    (parsed : Parser.line read = .ok (.programLine number statement))
    (filled : statement ≠ .empty) :
    ∃ first second others k, read = first :: second :: others ∧ second.lexeme.isEnd = false ∧
      ListedFrom (trim line.toList) first second k ∧
      (session.step (.ofLine line)).1.program.listing (some number) (some number) =
        [toString number ++ " " ++ String.ofList ((trim line.toList).drop k)] := by
  obtain ⟨value, column, second, others, rfl, _, goesOn⟩ := opening_of_line isRead parsed filled
  let entry : Entry := ⟨line, statement⟩
  have isLine : entry.IsLine number :=
    ⟨positive_of_line isRead parsed, filled, _, isRead, parsed⟩
  have isSource : tokens entry.source = .ok (⟨.number value, column⟩ :: second :: others) := isRead
  obtain ⟨k, starts, body⟩ := Entry.body_listed isSource
  have found : (session.program.insert number entry).find? number = some entry := by
    rw [Program.find?_insert, if_pos rfl]
  refine ⟨_, second, others, k, rfl, goesOn, starts, ?_⟩
  have stepped := session.step_ofLine isLine
  rw [show entry.source = line from rfl] at stepped body
  rw [stepped, Program.listing_at found, Entry.row, body]

/-- Blanks stand around a number with zeros in front. -/
theorem Session.listed_behind_number_zeros :
    ∃ first second others k, [⟨.number (.int 10), 0⟩, ⟨.keyword "NEXT", 6⟩,
          ⟨.identifier "A", 11⟩, ⟨.endOfLine, 12⟩] = first :: second :: others ∧
      second.lexeme.isEnd = false ∧ ListedFrom (trim " 0010  NEXT A".toList) first second k ∧
      (Session.fresh.step (.ofLine " 0010  NEXT A")).1.program.listing (some 10) (some 10) =
        [toString (10 : Int) ++ " " ++ String.ofList ((trim " 0010  NEXT A".toList).drop k)] := by
  have isRead : tokens " 0010  NEXT A" = .ok [⟨.number (.int 10), 0⟩, ⟨.keyword "NEXT", 6⟩,
      ⟨.identifier "A", 11⟩, ⟨.endOfLine, 12⟩] := by
    cbv
  have parsed : Parser.line [⟨.number (.int 10), 0⟩, ⟨.keyword "NEXT", 6⟩, ⟨.identifier "A", 11⟩,
      ⟨.endOfLine, 12⟩] = .ok (.programLine 10 (.next (some "A"))) := by
    cbv
  exact Session.fresh.listed_behind_number isRead parsed (by rintro ⟨⟩)

/-- **A point of a line number is listed** as if it belonged to the text of the line: what is shown
does not always start at the second token. -/
theorem Session.point_listed :
    ¬ ∀ (session : Session) (line : String) (read : List Token) (number : Int) (statement : Node),
      tokens line = .ok read → Parser.line read = .ok (.programLine number statement) →
      statement ≠ .empty → ∃ first second others, read = first :: second :: others ∧
        (session.step (.ofLine line)).1.program.listing (some number) (some number) =
          [toString number ++ " " ++ String.ofList ((trim line.toList).drop second.column)] := by
  intro claim
  have isRead : tokens "10. NEXT" =
      .ok [⟨.number (.real (Numeral.toFloat ⟨false, ['1', '0'], [], 0⟩)), 0⟩,
        ⟨.keyword "NEXT", 4⟩, ⟨.endOfLine, 8⟩] := by
    decide +kernel
  have isNumber : Parser.toLineNumber
      (.real (Numeral.toFloat ⟨false, ['1', '0'], [], 0⟩)) = .ok 10 := by
    decide +kernel
  generalize Numeral.toFloat ⟨false, ['1', '0'], [], 0⟩ = ten at isRead isNumber
  have parsed : Parser.line [⟨.number (.real ten), 0⟩, ⟨.keyword "NEXT", 4⟩, ⟨.endOfLine, 8⟩] =
      .ok (.programLine 10 (.next none)) := by
    have body : Parser.statement [⟨.keyword "NEXT", 4⟩, ⟨.endOfLine, 8⟩] =
        .ok (.next none, [⟨.endOfLine, 8⟩]) := by
      cbv
    simp only [Parser.line, Parser.numberAhead?, isNumber, body, Parser.atEnd, Lexeme.isEnd,
      Bool.false_eq_true, if_false, Except.map]
  have isLine : Entry.IsLine 10 ⟨"10. NEXT", .next none⟩ :=
    ⟨by decide, by rintro ⟨⟩, _, isRead, parsed⟩
  obtain ⟨first, second, others, same, listed⟩ :=
    claim .fresh "10. NEXT" _ 10 _ isRead parsed (by rintro ⟨⟩)
  cases same
  have found : (Session.fresh.program.insert 10 ⟨"10. NEXT", .next none⟩).find? 10 =
      some ⟨"10. NEXT", .next none⟩ := by
    rw [Program.find?_insert, if_pos rfl]
  rw [Session.fresh.step_ofLine isLine, Program.listing_at found] at listed
  revert listed
  decide +kernel

end LineBasic
