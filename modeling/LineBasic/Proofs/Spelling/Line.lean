/-
**How a line is written.**

A line is written lexeme by lexeme: a space may stand before each, and has to where the lexeme
before would go on; a remark holds its trimmed text bare. A line written like this has the tokens
it was written for, and the tokens of every line can be written like this.

* `tokens_spelled` — a written line is read as the words it was written for;
* `spelled_of_tokens` — what was read from a line can be written.
-/

import LineBasic.Proofs.Grammar.Phrase
import LineBasic.Proofs.Spelling.Denote

namespace LineBasic

open Text Lexer

/-- **The ways to write some words on a line.** -/
inductive Spells : List Lexeme → List Char → Prop where
  | none : Spells [] []
  | remark {text : List Char} (inked : text ≠ []) (trimmed : trim text = text) :
      Spells [.keyword "REM", .string (String.ofList text)] ('R' :: 'E' :: 'M' :: ' ' :: text)
  | spaced {lexeme : Lexeme} {words : List Lexeme} {text others : List Char}
      (writes : Written lexeme text) (plain : lexeme ≠ .keyword "REM") (more : words ≠ [])
      (behind : Spells words others) : Spells (lexeme :: words) (text ++ ' ' :: others)
  | touching {lexeme : Lexeme} {words : List Lexeme} {text others : List Char}
      (writes : Written lexeme text) (plain : lexeme = .keyword "REM" → words = [])
      (apart : Apart lexeme others) (behind : Spells words others) :
      Spells (lexeme :: words) (text ++ others)

/-- Some words can be written on a line. -/
def Spellable (words : List Lexeme) : Prop :=
  ∃ text, Spells words text

/-- A lexeme can be written. -/
def Writable (lexeme : Lexeme) : Prop :=
  ∃ text, Written lexeme text

/-! ### What can be written -/

theorem spellable_nil : Spellable [] :=
  ⟨[], .none⟩

/-- **Words that can be written can be written with single spaces between them.** -/
theorem Spellable.cons {lexeme : Lexeme} {words : List Lexeme} (writable : Writable lexeme)
    (plain : lexeme ≠ .keyword "REM") (behind : Spellable words) : Spellable (lexeme :: words) := by
  obtain ⟨text, writes⟩ := writable
  obtain ⟨others, spells⟩ := behind
  cases words with
  | nil =>
    cases spells
    exact ⟨_, .touching writes (fun _ => rfl) (apart_nil lexeme) .none⟩
  | cons next words => exact ⟨_, .spaced writes plain (List.cons_ne_nil _ _) spells⟩

/-- The first of some words, unless it opens a remark, can be written, and so can the others. -/
theorem Spellable.uncons {lexeme : Lexeme} {words : List Lexeme}
    (spellable : Spellable (lexeme :: words)) (plain : lexeme ≠ .keyword "REM") :
    Writable lexeme ∧ Spellable words := by
  obtain ⟨text, spells⟩ := spellable
  cases spells with
  | remark inked trimmed => exact absurd rfl plain
  | spaced writes plain more behind => exact ⟨⟨_, writes⟩, _, behind⟩
  | touching writes plain apart behind => exact ⟨⟨_, writes⟩, _, behind⟩

/-! ### Written lines are read back -/

/-- A text with no blank at its ends is trimmed. -/
theorem trim_inked {text : List Char} (first : ∀ c, text.head? = some c → isBlank c = false)
    (last : ∀ c, text.getLast? = some c → isBlank c = false) : trim text = text := by
  obtain ⟨start, finish⟩ := dropWhile_ends first last
  rw [trim, trimStart, start, trimEnd, finish]

theorem spells_head {words : List Lexeme} {text : List Char} (spells : Spells words text) :
    ∀ c, text.head? = some c → isBlank c = false := by
  intro c first
  cases spells with
  | none => cases first
  | remark inked trimmed =>
    cases first
    rfl
  | spaced writes plain more behind =>
    obtain ⟨d, tail, rfl, inked, _⟩ := lexemeAt_written writes (apart_nil _)
    cases first
    exact inked
  | touching writes plain apart behind =>
    obtain ⟨d, tail, rfl, inked, _⟩ := lexemeAt_written writes (apart_nil _)
    cases first
    exact inked

/-- A trimmed text does not end with a blank. -/
theorem last_of_trimmed {text : List Char} (trimmed : trim text = text) :
    ∀ c, text.getLast? = some c → isBlank c = false := by
  intro c last
  rw [← trimmed, trim, trimEnd, List.getLast?_reverse] at last
  obtain ⟨rest, shape⟩ := List.head?_eq_some_iff.mp last
  exact head_dropWhile isBlank _ c rest shape

/-- Words are not written as nothing. -/
theorem spells_ne_nil {words : List Lexeme} {text : List Char} (spells : Spells words text)
    (more : words ≠ []) : text ≠ [] := by
  cases spells with
  | none => exact absurd rfl more
  | remark inked trimmed => exact List.cons_ne_nil _ _
  | spaced writes plain more behind => simp
  | touching writes plain apart behind =>
    obtain ⟨d, ends, inked⟩ := writes.last
    rintro empty
    rw [(List.append_eq_nil_iff.mp empty).1] at ends
    cases ends

theorem spells_last {words : List Lexeme} {text : List Char} (spells : Spells words text) :
    ∀ c, text.getLast? = some c → isBlank c = false := by
  induction spells with
  | none => nofun
  | @remark text inked trimmed =>
    intro c last
    have behind : ('R' :: 'E' :: 'M' :: ' ' :: text).getLast? = text.getLast? := by
      cases text with
      | nil => exact absurd rfl inked
      | cons d rest => simp
    rw [behind] at last
    exact last_of_trimmed trimmed c last
  | @spaced lexeme words text others writes plain more behind hypothesis =>
    intro c last
    have filled := spells_ne_nil behind more
    have behind : (' ' :: others).getLast? = some (others.getLast filled) := by
      rw [List.getLast?_cons_of_ne_nil filled, List.getLast?_eq_some_getLast filled]
    rw [List.getLast?_append, behind] at last
    cases last
    exact hypothesis _ (List.getLast?_eq_some_getLast filled)
  | @touching lexeme words text others writes plain apart behind hypothesis =>
    intro c last
    obtain ⟨d, ends, inked⟩ := writes.last
    rw [List.getLast?_append, ends] at last
    cases found : others.getLast? with
    | none =>
      rw [found] at last
      cases last
      exact inked
    | some e =>
      rw [found] at last
      cases last
      exact hypothesis _ found

/-- A written line is its own trimmed form. -/
theorem trim_spelled {words : List Lexeme} {text : List Char} (spells : Spells words text) :
    trim text = text :=
  trim_inked (spells_head spells) (spells_last spells)

/-- The tokens that are read from a lexeme, and from what stands behind it. -/
theorem scan_lexeme {column : Nat} {c : Char} {tail rest : List Char} {lexeme : Lexeme}
    (inked : isBlank c = false) (plain : lexeme ≠ .keyword "REM")
    (reads : lexemeAt column c tail = (.ok lexeme, rest)) :
    scan column (c :: tail) =
      (scan (column + (tail.length + 1 - rest.length)) rest).map fun tokens =>
        ⟨lexeme, column⟩ :: tokens := by
  rw [scan, if_neg (by rw [inked]; decide)]
  split
  · next shape =>
    rw [reads] at shape
    cases shape
  · next shape =>
    rw [reads] at shape
    cases shape
    simp only
    rw [if_neg plain]
    cases scan (column + (tail.length + 1 - rest.length)) rest <;> rfl

/-- The tokens that are read from the word that opens a remark. -/
theorem scan_remark {column : Nat} {c : Char} {tail rest : List Char}
    (inked : isBlank c = false)
    (reads : lexemeAt column c tail = (.ok (.keyword "REM"), rest)) :
    scan column (c :: tail) =
      .ok (⟨.keyword "REM", column⟩ ::
        remark (column + (tail.length + 1 - rest.length)) rest) := by
  rw [scan, if_neg (by rw [inked]; decide)]
  split
  · next shape =>
    rw [reads] at shape
    cases shape
  · next shape =>
    rw [reads] at shape
    cases shape
    rfl

theorem written_remark : Written (.keyword "REM") ['R', 'E', 'M'] :=
  .keyword (isWord_of_all (by decide)) (by decide)

/-- **A written line is scanned as the words it was written for.** -/
theorem scan_spelled {words : List Lexeme} {text : List Char} (spells : Spells words text) :
    ∀ column, ∃ tokens, scan column text = .ok tokens ∧
      tokens.map Token.lexeme = words ++ [.endOfLine] := by
  induction spells with
  | none => exact fun column => ⟨_, by rw [scan], rfl⟩
  | @remark text inked trimmed =>
    intro column
    obtain ⟨c, tail, shape, notBlank, reads⟩ :=
      lexemeAt_written written_remark (apart_space _ text)
    cases shape
    have behind : trim (' ' :: text) = text := by
      have start : trimStart (' ' :: text) = trimStart text := List.dropWhile_cons_of_pos rfl
      rw [trim, start]
      exact trimmed
    refine ⟨_, scan_remark notBlank (reads column), ?_⟩
    rw [List.map_cons, remark, behind, if_neg (by simpa using inked)]
    rfl
  | @spaced lexeme words text others writes plain more behind hypothesis =>
    intro column
    obtain ⟨c, tail, rfl, inked, reads⟩ := lexemeAt_written writes (apart_space lexeme others)
    have scanned := scan_lexeme inked plain (reads column)
    have space : isBlank ' ' = true := rfl
    rw [scan_blank space] at scanned
    obtain ⟨tokens, found, same⟩ := hypothesis _
    rw [found] at scanned
    exact ⟨_, scanned, by simp [same]⟩
  | @touching lexeme words text others writes plain apart behind hypothesis =>
    intro column
    obtain ⟨c, tail, rfl, inked, reads⟩ := lexemeAt_written writes apart
    by_cases opens : lexeme = .keyword "REM"
    · subst opens
      have last := plain rfl
      subst last
      cases behind
      refine ⟨_, scan_remark inked (reads column), ?_⟩
      simp [remark, trim, trimStart, trimEnd]
    · have scanned := scan_lexeme inked opens (reads column)
      obtain ⟨tokens, found, same⟩ :=
        hypothesis (column + ((tail ++ others).length + 1 - others.length))
      rw [found] at scanned
      exact ⟨_, scanned, by simp [same]⟩

/-- **A written line is read as the words it was written for.** -/
theorem tokens_spelled {words : List Lexeme} {text : List Char} (spells : Spells words text) :
    ∃ read, tokens (String.ofList text) = .ok read ∧
      read.map Token.lexeme = words ++ [.endOfLine] := by
  unfold tokens
  rw [String.toList_ofList, trim_spelled spells]
  exact scan_spelled spells 0

/-! ### What was read can be written -/

theorem spellable_of_scan {column : Nat} {text : List Char} {read : List Token}
    (scanned : scan column text = .ok read) :
    ∃ words, read.map Token.lexeme = words ++ [.endOfLine] ∧ Spellable words := by
  fun_induction scan column text generalizing read
  case case1 =>
    cases scanned
    exact ⟨[], rfl, spellable_nil⟩
  case case2 hypothesis => exact hypothesis scanned
  case case3 => cases scanned
  case case4 after next reads shorter =>
    cases scanned
    unfold remark
    by_cases empty : (trim after).isEmpty = true
    · rw [if_pos empty]
      exact ⟨[.keyword "REM"], rfl, _, .touching written_remark (fun _ => rfl) (apart_nil _) .none⟩
    · rw [if_neg empty]
      exact ⟨_, rfl, _, .remark (by simpa using empty) (trim_trim after)⟩
  case case5 lexeme after reads shorter next opens tokens found hypothesis =>
    cases scanned
    obtain ⟨words, same, spellable⟩ := hypothesis found
    refine ⟨lexeme :: words, by simp [same], ?_⟩
    exact spellable.cons (written_of_lexemeAt reads) opens
  case case6 => cases scanned

/-- **What was read from a line can be written.** -/
theorem spelled_of_tokens {line : String} {read : List Token} (isRead : tokens line = .ok read) :
    ∃ words, read.map Token.lexeme = words ++ [.endOfLine] ∧ Spellable words :=
  spellable_of_scan isRead

/-- A lexeme of a written line is the text of a remark or can be written by itself. -/
theorem Spells.writable {words : List Lexeme} {text : List Char} (spells : Spells words text) :
    ∀ lexeme ∈ words, Writable lexeme ∨ ∃ remark, lexeme = .string remark := by
  induction spells with
  | none => nofun
  | remark inked trimmed =>
    rw [List.forall_mem_cons, List.forall_mem_singleton]
    exact ⟨.inl ⟨_, written_remark⟩, .inr ⟨_, rfl⟩⟩
  | spaced writes plain more behind hypothesis =>
    exact List.forall_mem_cons.mpr ⟨.inl ⟨_, writes⟩, hypothesis⟩
  | touching writes plain apart behind hypothesis =>
    exact List.forall_mem_cons.mpr ⟨.inl ⟨_, writes⟩, hypothesis⟩

/-- The lexemes of a line are of the kinds that lines spell, and its numbers are no texts. -/
theorem native_of_tokens {line : String} {read : List Token} (isRead : tokens line = .ok read) :
    ∀ token ∈ read, (∀ kind text, token.lexeme = .foreign kind text → kind ∉ Parser.nativeKinds) ∧
      ∀ text, token.lexeme ≠ .number (.text text) := by
  intro token member
  obtain ⟨words, shape, text, spells⟩ := spelled_of_tokens isRead
  have found : token.lexeme ∈ words ++ [.endOfLine] := shape ▸ List.mem_map_of_mem member
  rcases List.mem_append.mp found with within | last
  · rcases spells.writable _ within with ⟨spelling, writes⟩ | ⟨remark, same⟩
    · constructor
      · intro kind text same
        rw [same] at writes
        cases writes
      · intro text same
        rw [same] at writes
        cases writes
    · rw [same]
      exact ⟨nofun, nofun⟩
  · rw [List.mem_singleton.mp last]
    exact ⟨nofun, nofun⟩

end LineBasic
