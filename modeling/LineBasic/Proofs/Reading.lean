/-
**Reading a typed line.**

A line that is typed says nothing, cannot be read, deletes or stores a line of the program, or is a
statement to execute. A line of a program is stored under its number, with its text as it was
typed and with the statement that its text is read as.

* `Session.readsLine` — what reading a typed line comes to;
* `Session.step_numbered` — a line with a number goes to the program;
* `Session.step_ofLine` — a line with a number and a statement is stored;
* `numbered?` — the number and the entry of a typed line.
-/

import LineBasic.Proofs.Grammar.Unparse
import LineBasic.Proofs.Lines
import LineBasic.Proofs.Spelling.Line
import LineBasic.Session.Activity

namespace LineBasic

namespace Session

/-- What reading a typed line can come to. -/
inductive ReadsLine (session : Session) (activity : Activity) (line : String) :
    Session × Move → Prop where
  | blank : ReadsLine session activity line (session, .finished)
  | refused (cause : Cause) :
      ReadsLine session activity line (session, .next (activity.failing cause) [])
  | unreadable (fault : Fault) : ReadsLine session activity line (session, .fault fault)
  | erased {read : List Token} {number : Int} (isRead : tokens line = .ok read)
      (parsed : Parser.line read = .ok (.programLine number .empty)) :
      ReadsLine session activity line
        ({ session with program := session.program.erase number },
          .next (activity.inStage .completed) [.note (.deleted number)])
  | stored {read : List Token} {number : Int} {statement : Node}
      (isRead : tokens line = .ok read)
      (parsed : Parser.line read = .ok (.programLine number statement))
      (filled : statement ≠ .empty) :
      ReadsLine session activity line
        ({ session with program := session.program.insert number ⟨line, statement⟩ },
          .next (activity.inStage .completed) [.note (.stored number)])
  | stated {read : List Token} {statement : Node} (isRead : tokens line = .ok read)
      (parsed : Parser.line read = .ok statement)
      (unnumbered : ∀ number body, statement ≠ .programLine number body) :
      ReadsLine session activity line
        (session, .next (activity.inStage (.execute statement)) [])

/-- An entry that has a statement is stored. -/
theorem store_filled (session : Session) (number : Int) (entry : Entry)
    (filled : entry.statement ≠ .empty) :
    session.store number entry.source entry.statement =
      ({ session with program := session.program.insert number entry }, .stored number) := by
  unfold store
  split
  · next empty => exact absurd empty filled
  · rfl

/-- **Reading a typed line comes to one of the cases of `ReadsLine`.** -/
theorem readsLine (session : Session) (activity : Activity) (line : String) :
    session.ReadsLine activity line (session.readLine activity line) := by
  unfold readLine
  split
  · exact .blank
  · split
    · exact .refused _
    · exact .unreadable _
    · next read isRead =>
      split
      · exact .refused _
      · next number statement parsed =>
        by_cases filled : statement = .empty
        · subst filled
          exact .erased isRead parsed
        · have stores := session.store_filled number ⟨line, statement⟩ filled
          simp only at stores
          rw [stores]
          exact .stored isRead parsed filled
      · next statement unnumbered parsed => exact .stated isRead parsed unnumbered

end Session

/-! ### Lines of a program -/

/-- A stored line is what its text is read as. -/
structure Entry.IsLine (number : Int) (entry : Entry) : Prop where
  positive : 1 ≤ number
  filled : entry.statement ≠ .empty
  reads : ∃ read, tokens entry.source = .ok read ∧
    Parser.line read = .ok (.programLine number entry.statement)

/-- The number of a line that is read is positive. -/
theorem positive_of_line {line : String} {read : List Token} {number : Int} {statement : Node}
    (isRead : tokens line = .ok read)
    (parsed : Parser.line read = .ok (.programLine number statement)) : 1 ≤ number := by
  have native : Parser.Native read := fun token member => (native_of_tokens isRead token member).1
  obtain ⟨taken, rest, _, derives⟩ := Parser.line_sound native parsed
  cases Parser.wellFormed_of_line derives with
  | statement isStatement => cases isStatement
  | numbered positive _ => exact positive
  | bareNumber positive => exact positive

/-- An entry is what its text is read as, under a number; it may say nothing. -/
def Entry.IsRead (number : Int) (entry : Entry) : Prop :=
  ∃ read, tokens entry.source = .ok read ∧
    Parser.line read = .ok (.programLine number entry.statement)

/-- Nothing but blanks is read as nothing. -/
theorem inked_of_line {line : String} {read : List Token} (isRead : tokens line = .ok read)
    (filled : Parser.line read ≠ .ok .empty) : Text.isBlankLine line = false := by
  by_contra blank
  have all : line.toList.all Text.isBlank = true := Bool.not_eq_false _ ▸ blank
  have empty : Text.trim line.toList = [] :=
    (Text.trim_eq_nil_iff _).mpr (List.all_eq_true.mp all)
  rw [tokens, empty, Lexer.scan] at isRead
  cases isRead
  exact filled rfl

/-- Nothing but blanks is read as no number. -/
theorem Entry.IsRead.inked {number : Int} {entry : Entry} (isRead : entry.IsRead number) :
    Text.isBlankLine entry.source = false := by
  obtain ⟨read, isRead, parsed⟩ := isRead
  refine inked_of_line isRead ?_
  rw [parsed]
  rintro ⟨⟩

/-- **A line with a number goes to the program** when it is typed: it is stored, or deletes the
line under its number. -/
theorem Session.step_numbered (session : Session) {number : Int} {entry : Entry}
    (isRead : entry.IsRead number) :
    session.step (.ofLine entry.source) =
      ((session.store number entry.source entry.statement).1,
        .next ((Activity.ofLine entry.source).inStage .completed)
          [.note (session.store number entry.source entry.statement).2]) := by
  have inked := isRead.inked
  obtain ⟨read, isRead, parsed⟩ := isRead
  show session.readLine (.ofLine entry.source) entry.source = _
  unfold readLine
  rw [inked, isRead]
  simp only [Bool.false_eq_true, if_false, parsed]

/-- **A line of a program is stored** when it is typed. -/
theorem Session.step_ofLine (session : Session) {number : Int} {entry : Entry}
    (isLine : entry.IsLine number) :
    session.step (.ofLine entry.source) =
      ({ session with program := session.program.insert number entry },
        .next ((Activity.ofLine entry.source).inStage .completed) [.note (.stored number)]) := by
  rw [session.step_numbered isLine.reads, session.store_filled number entry isLine.filled]

/-- The number of a line with a number, and its entry. -/
def numbered? (line : String) : Option (Int × Entry) :=
  match tokens line with
  | .error _ => none
  | .ok read =>
    match Parser.line read with
    | .ok (.programLine number statement) => some (number, ⟨line, statement⟩)
    | _ => none

theorem isRead_of_numbered? {line : String} {typed : Int × Entry}
    (isTyped : numbered? line = some typed) :
    typed.2.source = line ∧ typed.2.IsRead typed.1 := by
  unfold numbered? at isTyped
  split at isTyped
  · cases isTyped
  · next read isRead =>
    split at isTyped
    · next number statement parsed =>
      cases isTyped
      exact ⟨rfl, read, isRead, parsed⟩
    · cases isTyped

/-- The note of an entry that is typed under a number. -/
def Entry.note (number : Int) (entry : Entry) : Note :=
  match entry.statement with
  | .empty => .deleted number
  | _ => .stored number

theorem Entry.note_filled {entry : Entry} (filled : entry.statement ≠ .empty) (number : Int) :
    entry.note number = .stored number := by
  unfold note
  split
  · next empty => exact absurd empty filled
  · rfl

theorem Session.store_keep (session : Session) (number : Int) (entry : Entry) :
    session.store number entry.source entry.statement =
      ({ session with program := session.program.keep number entry }, entry.note number) := by
  obtain ⟨source, statement⟩ := entry
  cases statement <;> rfl

end LineBasic
