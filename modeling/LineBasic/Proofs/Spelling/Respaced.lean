/-
**Lines that are spaced anew.**

The lexemes of a line may be set apart by any blanks, also where none stood between them, blanks may
be put around the line, and the letters of its words may change their case: the same lexemes are
read, and the line is parsed as before. A blank goes on with no stretch, so each stretch is read
again by itself. A text that is never closed and a remark hold what stands behind them, but they
only stand at the end.

* `stretches` — the stretches of a text, cut at the columns of its tokens;
* `stretches_of_tokens` — they are what the tokens stand on;
* `Respaced` — the ways to space stretches anew;
* `Laid.rescanned` — what is read from stretches that are spaced anew;
* `tokens_respaced` — spacing and case do not matter.
-/

import LineBasic.Proofs.Grammar.Within
import LineBasic.Proofs.Spelling.Span
import LineBasic.Proofs.Spelling.Stray

namespace LineBasic

open Text Lexer

/-! ### Texts that start and end with ink -/

/-- A text that starts and ends with ink. -/
structure Inked (text : List Char) : Prop where
  filled : text ≠ []
  first : ∀ c, text.head? = some c → isBlank c = false
  last : ∀ c, text.getLast? = some c → isBlank c = false

section Inked

variable {text others : List Char}

theorem Inked.trimEnd_append (inked : Inked text) {gap : List Char}
    (blank : ∀ c ∈ gap, isBlank c = true) : trimEnd (text ++ gap) = text := by
  have kept : ∀ c, text.reverse.head? = some c → isBlank c = false := by
    rw [List.head?_reverse]
    exact inked.last
  have left := (takeWhile_ended (fun c member => blank c (List.mem_reverse.mp member)) kept).2
  rw [trimEnd, List.reverse_append, left, List.reverse_reverse]

/-- Blanks around a text are trimmed away. -/
theorem Inked.trim_around (inked : Inked text) {front back : List Char}
    (blank : ∀ c ∈ front ++ back, isBlank c = true) : trim (front ++ text ++ back) = text := by
  rw [List.forall_mem_append] at blank
  have kept : ∀ c, (text ++ back).head? = some c → isBlank c = false := by
    rw [List.head?_append_of_ne_nil _ inked.filled]
    exact inked.first
  have left := (takeWhile_ended blank.1 kept).2
  rw [List.append_assoc, trim, trimStart, left, inked.trimEnd_append blank.2]

/-- Two texts with something between them start as the one and end as the other. -/
theorem Inked.append (inked : Inked text) (inked' : Inked others) (between : List Char) :
    Inked (text ++ (between ++ others)) where
  filled nothing := inked.filled (List.append_eq_nil_iff.mp nothing).1
  first := by
    rw [List.head?_append_of_ne_nil _ inked.filled]
    exact inked.first
  last := by
    rw [← List.append_assoc, List.getLast?_append_of_ne_nil _ inked'.filled]
    exact inked'.last

end Inked

/-! ### The stretches of a text -/

/-- The stretches of a text, cut at the columns of its tokens: each runs to the column of the next
token, without the blanks at its end. -/
def stretches (text : List Char) : List Token → List Stretch
  | token :: next :: others =>
    ⟨token, trimEnd ((text.take next.column).drop token.column)⟩ :: stretches text (next :: others)
  | _ => []

section Stretches

variable {text : List Char} {column : Nat} {first : Stretch} {others : List Stretch}

/-- What is laid behind the first stretch. -/
theorem Placed.tail (placed : Placed text column (first :: others)) :
    Placed text first.finish others where
  stands stretch member :=
    ⟨(List.pairwise_cons.mp placed.ordered).1 stretch member,
      (placed.stands stretch (List.mem_cons_of_mem _ member)).2⟩
  ordered := (List.pairwise_cons.mp placed.ordered).2
  covers place c behind found inked := by
    have starts := (placed.stands first List.mem_cons_self).1
    have onward : column ≤ place :=
      starts.trans ((Nat.le_add_right _ _).trans behind)
    obtain ⟨stretch, member, holds⟩ := placed.covers place c onward found inked
    rcases List.mem_cons.mp member with rfl | isIn
    · exact absurd holds.2 (Nat.not_lt_of_le behind)
    · exact ⟨stretch, isIn, holds⟩
  longest stretch member := placed.longest stretch (List.mem_cons_of_mem _ member)

/-- Nothing but blanks stands between a stretch and what comes next. -/
theorem Placed.gap (placed : Placed text column (first :: others)) {bound : Nat}
    (behind : first.finish ≤ bound) (before : ∀ stretch ∈ others, bound ≤ stretch.token.column) :
    ∃ gap, (text.take bound).drop first.token.column = first.spelling ++ gap ∧
      ∀ c ∈ gap, isBlank c = true := by
  obtain ⟨_, _, after, shape⟩ := placed.stands first List.mem_cons_self
  have long : first.spelling.length ≤ bound - first.token.column := by
    unfold Stretch.finish at behind
    omega
  refine ⟨(text.take bound).drop first.finish, ?_, fun c member => ?_⟩
  · rw [List.drop_take, ← shape, List.take_append, List.take_of_length_le long, Stretch.finish,
      List.drop_take, ← List.drop_drop, ← shape, List.drop_left, Nat.sub_sub]
  · obtain ⟨offset, found⟩ := List.mem_iff_getElem?.mp member
    rw [List.getElem?_drop, List.getElem?_take] at found
    split at found
    · next inside =>
      by_contra inked
      obtain ⟨stretch, isIn, within⟩ :=
        placed.tail.covers _ c (Nat.le_add_right _ _) found (by simpa using inked)
      exact absurd (before stretch isIn) (by omega)
    · cases found

/-- A stretch is what stands up to the next one, without the blanks at its end. -/
theorem Placed.cut (placed : Placed text column (first :: others)) (inked : Inked first.spelling)
    {bound : Nat} (behind : first.finish ≤ bound)
    (before : ∀ stretch ∈ others, bound ≤ stretch.token.column) :
    trimEnd ((text.take bound).drop first.token.column) = first.spelling := by
  obtain ⟨gap, shape, blank⟩ := placed.gap behind before
  rw [shape, inked.trimEnd_append blank]

/-- **The stretches that tokens stand on** are cut at the columns of the tokens. -/
theorem Placed.stretches_eq {placements : List Stretch} (placed : Placed text column placements)
    (inked : ∀ stretch ∈ placements, Inked stretch.spelling) (ending : Lexeme) :
    stretches text (placements.map Stretch.token ++ [⟨ending, text.length⟩]) = placements := by
  induction placements generalizing column with
  | nil => rfl
  | cons first others hypothesis =>
    have onward := hypothesis placed.tail fun stretch member =>
      inked stretch (List.mem_cons_of_mem _ member)
    have filled := inked first List.mem_cons_self
    cases others with
    | nil =>
      have cut := placed.cut filled (placed.inside List.mem_cons_self).2 (List.forall_mem_nil _)
      exact congrArg (fun spelling => [Stretch.mk first.token spelling]) cut
    | cons second others =>
      have ordered := List.pairwise_cons.mp placed.ordered
      have next := List.pairwise_cons.mp ordered.2
      have cut := placed.cut filled (ordered.1 second List.mem_cons_self)
        (List.forall_mem_cons.mpr ⟨Nat.le_refl _, fun stretch member =>
          (Nat.le_add_right _ _).trans (next.1 stretch member)⟩)
      exact congrArg₂ (fun spelling more => Stretch.mk first.token spelling :: more) cut onward

/-- The stretches of a trimmed text start and end with ink. -/
theorem Laid.inked (trimmed : trim text = text) {lexemes : List Stretch} {remark : Option Stretch}
    (laid : Laid text column lexemes remark) :
    ∀ stretch ∈ lexemes ++ remark.toList, Inked stretch.spelling := by
  intro stretch member
  obtain ⟨_, filled, after, shape⟩ := laid.placed.stands stretch member
  rcases List.mem_append.mp member with isLexeme | isRemark
  · have denotes := laid.denotes stretch isLexeme
    have behind : text.drop stretch.finish = after := drop_behind shape.symm
    rw [behind] at denotes
    refine ⟨filled, fun c starts => ?_, fun c ends => ?_⟩
    · obtain ⟨rest, split⟩ := List.head?_eq_some_iff.mp starts
      exact (denotes.start split).1
    · by_cases isLast : after = []
      · -- What runs to the end of a trimmed text ends as the text does.
        rw [isLast, List.append_nil] at shape
        obtain ⟨front, split⟩ := shape ▸ List.drop_suffix stretch.token.column text
        refine last_of_trimmed trimmed c ?_
        rw [← split, List.getLast?_append, ends]
        rfl
      · exact denotes.finish isLast ends
  · obtain ⟨opening, _, _, same, _⟩ := laid.remarked stretch (Option.mem_toList.mp isRemark)
    refine ⟨filled, fun c starts => ?_, ?_⟩
    · obtain ⟨rest, split⟩ := List.head?_eq_some_iff.mp starts
      exact head_of_trim (same.symm.trans split)
    · rw [same]
      exact last_of_trimmed (trim_trim _)

end Stretches

/-! ### Words in another case -/

/-- A test that does not tell the ASCII characters from their capitals tells no character from its
capital. -/
theorem test_asciiCapital (test : Char → Bool)
    (ascii : ∀ n < 128, test (asciiCapital (Char.ofNat n)) = test (Char.ofNat n)) (c : Char) :
    test (asciiCapital c) = test c := by
  by_cases below : c.toNat < 128
  · exact @forall_below 128 (fun c => test (asciiCapital c) = test c) ascii c below
  · have wide : ¬ c ≤ 'z' := fun low => below (by
      have : c.toNat ≤ 122 := low
      omega)
    have same : asciiCapital c = c := by simp [asciiCapital, wide]
    rw [same]

section Case

variable {after spelling spelling' : List Char} {lexeme : Lexeme}

/-- A character of a text in another case is told from others as the one in its place. -/
theorem test_recased (test : Char → Bool)
    (ascii : ∀ n < 128, test (asciiCapital (Char.ofNat n)) = test (Char.ofNat n)) {c d : Char}
    (same : asciiCapital c = asciiCapital d) : test c = test d := by
  rw [← test_asciiCapital test ascii c, same, test_asciiCapital test ascii d]

/-- A typed word is one in any case. -/
theorem IsTypedWord.recased (isWord : IsTypedWord spelling)
    (same : spelling'.map asciiCapital = spelling.map asciiCapital) : IsTypedWord spelling' := by
  obtain ⟨first, body, closing, rfl, letter, are, closed⟩ := isWord
  obtain ⟨first', tail', rfl, isFirst, isTail⟩ := List.map_eq_cons_iff.mp same
  rw [List.map_append] at isTail
  obtain ⟨body', closing', rfl, isBody, isClosing⟩ := List.map_eq_append_iff.mp isTail
  refine ⟨first', body', closing', rfl, ?_, fun c member => ?_, ?_⟩
  · rw [test_recased isLetter (by decide +kernel) isFirst]
    exact letter
  · have found := List.mem_map_of_mem (f := asciiCapital) member
    rw [isBody] at found
    obtain ⟨d, isIn, capital⟩ := List.mem_map.mp found
    rw [test_recased isWordCharacter (by decide +kernel) capital.symm]
    exact are d isIn
  · rcases closed with rfl | rfl
    · exact .inl (List.map_eq_nil_iff.mp isClosing)
    · obtain ⟨c, rfl, capital⟩ := List.map_eq_singleton_iff.mp isClosing
      have dollar : (c == '$') = ('$' == '$') :=
        test_recased (· == '$') (by decide +kernel) capital
      exact .inr (by rw [beq_iff_eq.mp (dollar.trans (beq_self_eq_true _))])

theorem capitals_recased (same : spelling'.map asciiCapital = spelling.map asciiCapital) :
    capitals spelling' = capitals spelling :=
  congrArg String.ofList same

/-- A text in another case starts and ends with ink if it did. -/
theorem Inked.recased (inked : Inked spelling)
    (same : spelling'.map asciiCapital = spelling.map asciiCapital) : Inked spelling' where
  filled nothing := by
    rw [nothing] at same
    exact inked.filled (List.map_eq_nil_iff.mp same.symm)
  first c starts := by
    have found := congrArg List.head? same
    rw [List.head?_map, List.head?_map, starts] at found
    obtain ⟨d, isFirst, capital⟩ := Option.map_eq_some_iff.mp found.symm
    rw [test_recased isBlank (by decide +kernel) capital.symm]
    exact inked.first d isFirst
  last c ends := by
    have found := congrArg List.getLast? same
    rw [List.getLast?_map, List.getLast?_map, ends] at found
    obtain ⟨d, isLast, capital⟩ := Option.map_eq_some_iff.mp found.symm
    rw [test_recased isBlank (by decide +kernel) capital.symm]
    exact inked.last d isLast

end Case

/-! ### Stretches that are spaced anew -/

/-- A word of the language, or a name. -/
def Lexeme.isWord : Lexeme → Bool
  | .keyword _ => true
  | .identifier _ => true
  | _ => false

/-- **The ways to spell a stretch anew:** the ASCII letters of a word may change their case, and
every other stretch stays as it is. -/
inductive Recased (stretch : Stretch) : List Char → Prop
  | kept : Recased stretch stretch.spelling
  | word {spelling : List Char} (isWord : stretch.token.lexeme.isWord = true)
      (same : spelling.map asciiCapital = stretch.spelling.map asciiCapital) :
      Recased stretch spelling

/-- **The ways to space stretches anew:** at least one blank between each and the next. -/
inductive Respaced : List Stretch → List Char → Prop
  | none : Respaced [] []
  | last {stretch : Stretch} {spelling : List Char} (recased : Recased stretch spelling) :
      Respaced [stretch] spelling
  | apart {stretch next : Stretch} {stretches : List Stretch} {spelling blanks others : List Char}
      (recased : Recased stretch spelling) (filled : blanks ≠ [])
      (blank : ∀ c ∈ blanks, isBlank c = true) (behind : Respaced (next :: stretches) others) :
      Respaced (stretch :: next :: stretches) (spelling ++ (blanks ++ others))

section Recased

variable {stretch : Stretch} {spelling after : List Char}

theorem Recased.inked (recased : Recased stretch spelling) (inked : Inked stretch.spelling) :
    Inked spelling := by
  cases recased with
  | kept => exact inked
  | word isWord same => exact inked.recased same

/-- A stretch that is spelled anew denotes the same lexeme. -/
theorem Recased.denotes (recased : Recased stretch spelling)
    (denotes : Denotes after stretch.spelling stretch.token.lexeme) :
    Denotes after spelling stretch.token.lexeme := by
  cases recased with
  | kept => exact denotes
  | word isWord same =>
    generalize stretch.token.lexeme = lexeme at isWord denotes
    generalize stretch.spelling = span at same denotes
    cases denotes with
    | keyword isTyped known =>
      rw [← capitals_recased same] at known ⊢
      exact .keyword (isTyped.recased same) known
    | identifier isTyped unknown =>
      rw [← capitals_recased same] at unknown ⊢
      exact .identifier (isTyped.recased same) unknown
    | _ => cases isWord

/-- Numbers are not spelled anew. -/
theorem Recased.short (recased : Recased stretch spelling)
    (short : Short stretch.spelling stretch.token.lexeme) :
    Short spelling stretch.token.lexeme := by
  cases recased with
  | kept => exact short
  | word isWord same =>
    intro n isInt
    rw [isInt] at isWord
    cases isWord

/-- Stretches that start and end with ink do so when they are spaced anew. -/
theorem Respaced.inked {stretches : List Stretch} {text : List Char}
    (respaced : Respaced stretches text) (inked : ∀ stretch ∈ stretches, Inked stretch.spelling)
    (more : stretches ≠ []) : Inked text := by
  induction respaced with
  | none => exact absurd rfl more
  | last recased => exact recased.inked (inked _ List.mem_cons_self)
  | apart recased filled blank behind hypothesis =>
    rw [List.forall_mem_cons] at inked
    exact (recased.inked inked.1).append (hypothesis inked.2 (List.cons_ne_nil _ _)) _

/-- Blanks around stretches that are spaced anew are trimmed away. -/
theorem Respaced.trim_around {stretches : List Stretch} {text front back : List Char}
    (respaced : Respaced stretches text) (inked : ∀ stretch ∈ stretches, Inked stretch.spelling)
    (blank : ∀ c ∈ front ++ back, isBlank c = true) : trim (front ++ text ++ back) = text := by
  by_cases more : stretches = []
  · subst more
    cases respaced
    rw [List.append_nil]
    exact (trim_eq_nil_iff _).mpr blank
  · exact (respaced.inked inked more).trim_around blank

end Recased

/-! ### What is read from stretches that are spaced anew -/

section Reading

variable {span after : List Char} {lexeme : Lexeme} {lexemes : List Lexeme}

/-- No stretch goes on with a blank. -/
theorem not_extends_blank {d : Char} (blank : isBlank d = true) : ¬ Extends span d := by
  rintro ⟨lexeme, denotes⟩
  have inked := (denotes [' ']).finish (List.cons_ne_nil _ _) (c := d) List.getLast?_concat
  rw [blank] at inked
  cases inked

/-- **A stretch in front of a blank, or of the end, is read by itself.** -/
theorem reads_apart (denotes : Denotes after span lexeme) (short : Short span lexeme)
    (apart : ∀ d, after.head? = some d → isBlank d = true) :
    ∃ c tail, span = c :: tail ∧ isBlank c = false ∧
      ∀ column, lexemeAt column c (tail ++ after) = (.ok lexeme, after) := by
  have leads := leads_of_ended denotes fun d first => not_extends_blank (apart d first)
  obtain ⟨c, tail, rfl⟩ := List.exists_cons_of_ne_nil denotes.ne_nil
  exact ⟨c, tail, rfl, (denotes.start rfl).1, leads.reads short (List.cons_append ..).symm⟩

/-- The tokens that are read from a stretch by itself, and from what stands behind it. -/
theorem scan_apart (denotes : Denotes after span lexeme) (short : Short span lexeme)
    (apart : ∀ d, after.head? = some d → isBlank d = true) (plain : lexeme ≠ .keyword "REM")
    (behind : ∀ column, ∃ read, scan column after = .ok read ∧
      read.map Token.lexeme = lexemes) (column : Nat) :
    ∃ read, scan column (span ++ after) = .ok read ∧
      read.map Token.lexeme = lexeme :: lexemes := by
  obtain ⟨c, tail, rfl, inked, reads⟩ := reads_apart denotes short apart
  have scanned := scan_lexeme inked plain (reads column)
  obtain ⟨others, found, same⟩ := behind (column + ((tail ++ after).length + 1 - after.length))
  rw [found] at scanned
  exact ⟨_, scanned, congrArg (lexeme :: ·) same⟩

/-- The tokens that are read from the word `REM` by itself, and from its remark. -/
theorem scan_apart_remark (denotes : Denotes after span lexeme) (opens : lexeme = .keyword "REM")
    (apart : ∀ d, after.head? = some d → isBlank d = true)
    (behind : ∀ column, (remark column after).map Token.lexeme = lexemes) (column : Nat) :
    ∃ read, scan column (span ++ after) = .ok read ∧
      read.map Token.lexeme = lexeme :: lexemes := by
  subst opens
  obtain ⟨c, tail, rfl, inked, reads⟩ := reads_apart denotes (by rintro _ ⟨⟩) apart
  exact ⟨_, scan_remark inked (reads column), congrArg (Lexeme.keyword "REM" :: ·) (behind _)⟩

theorem scan_end (column : Nat) :
    ∃ read, scan column [] = .ok read ∧ read.map Token.lexeme = [.endOfLine] :=
  ⟨_, by rw [scan], rfl⟩

/-- Blanks only move the columns. -/
theorem scan_blanks {blanks : List Char} (blank : ∀ c ∈ blanks, isBlank c = true) (column : Nat)
    (text : List Char) : scan column (blanks ++ text) = scan (column + blanks.length) text := by
  induction blanks generalizing column with
  | nil => rfl
  | cons c others hypothesis =>
    rw [List.forall_mem_cons] at blank
    rw [List.cons_append, scan_blank blank.1, hypothesis blank.2, List.length_cons]
    congr 1
    omega

/-- What stands behind the word `REM` is its remark. -/
theorem lexemes_remark (inked : Inked span) {blanks : List Char}
    (blank : ∀ c ∈ blanks, isBlank c = true) (column : Nat) :
    (remark column (blanks ++ span)).map Token.lexeme =
      [.string (String.ofList span), .endOfLine] := by
  have body : trim (blanks ++ span) = span := by
    have around : trim (blanks ++ span ++ []) = span := inked.trim_around (by simpa using blank)
    rwa [List.append_nil] at around
  rw [remark, body, if_neg (by simpa using inked.filled)]
  rfl

/-- A stretch denotes its lexeme at the end of a text, too. -/
theorem Denotes.atEnd (denotes : Denotes after span lexeme) : Denotes [] span lexeme := by
  by_cases isLast : after = []
  · exact isLast ▸ denotes
  · exact denotes.anywhere isLast []

/-- Blanks that are not missing start with one. -/
theorem head_of_blanks {blanks : List Char} (filled : blanks ≠ [])
    (blank : ∀ c ∈ blanks, isBlank c = true) (text : List Char) :
    ∀ d, (blanks ++ text).head? = some d → isBlank d = true := by
  intro d first
  rw [List.head?_append_of_ne_nil _ filled] at first
  exact blank d (List.mem_of_head? first)

end Reading

section Rescan

variable {text : List Char} {column : Nat} {first second : Stretch} {lexemes : List Stretch}
  {remark : Option Stretch}

/-- What is laid behind the first lexeme. -/
theorem Laid.tail (laid : Laid text column (first :: second :: lexemes) remark) :
    Laid text first.finish (second :: lexemes) remark where
  placed := laid.placed.tail
  denotes stretch member := laid.denotes stretch (List.mem_cons_of_mem _ member)
  opens := (List.pairwise_cons.mp laid.opens).2
  remarked stretch isRemark := by
    obtain ⟨opening, last, holds⟩ := laid.remarked stretch isRemark
    exact ⟨opening, last, holds⟩

/-- A lexeme that something stands behind denotes the same in front of anything. -/
theorem Laid.anywhere (laid : Laid text column (first :: lexemes) remark)
    (more : lexemes ++ remark.toList ≠ []) (after : List Char) :
    Denotes after first.spelling first.token.lexeme := by
  obtain ⟨second, others, shape⟩ := List.exists_cons_of_ne_nil more
  have placed : Placed text first.finish (second :: others) := shape ▸ laid.placed.tail
  refine (laid.denotes first List.mem_cons_self).anywhere (fun ended => ?_) after
  have inside := placed.inside List.mem_cons_self
  have onward := (placed.stands second List.mem_cons_self).1
  have short := List.drop_eq_nil_iff.mp ended
  omega

/-- **What is read from stretches that are spaced anew** is what they stand for. -/
theorem Laid.rescanned (trimmed : trim text = text) (laid : Laid text column lexemes remark)
    (short : ∀ stretch ∈ lexemes, Short stretch.spelling stretch.token.lexeme)
    {respaced : List Char} (anew : Respaced (lexemes ++ remark.toList) respaced) (column' : Nat) :
    ∃ read, scan column' respaced = .ok read ∧ read.map Token.lexeme =
      (lexemes ++ remark.toList).map (·.token.lexeme) ++ [.endOfLine] := by
  have inked := laid.inked trimmed
  induction lexemes generalizing column column' respaced with
  | nil =>
    cases remark with
    | none =>
      cases anew
      exact scan_end column'
    | some stretch =>
      obtain ⟨_, last, _⟩ := laid.remarked stretch rfl
      cases last
  | cons first lexemes hypothesis =>
    rw [List.forall_mem_cons] at short
    have denotes := laid.denotes first List.mem_cons_self
    cases lexemes with
    | nil =>
      cases remark with
      | none =>
        cases anew with
        | last recased =>
          have atEnd := recased.denotes denotes.atEnd
          rw [← List.append_nil respaced]
          by_cases opens : first.token.lexeme = .keyword "REM"
          · exact scan_apart_remark atEnd opens (by rintro _ ⟨⟩) (fun _ => rfl) column'
          · exact scan_apart atEnd (recased.short short.1) (by rintro _ ⟨⟩) opens scan_end column'
      | some stretch =>
        obtain ⟨_, ⟨⟩, opens, _, isText⟩ := laid.remarked stretch rfl
        cases anew with
        | apart recased filled blank behind =>
          cases behind with
          | last untouched =>
            cases untouched with
            | kept =>
              refine scan_apart_remark (recased.denotes (laid.anywhere (List.cons_ne_nil _ _) _))
                opens (head_of_blanks filled blank _) (fun column => ?_) column'
              rw [lexemes_remark (inked stretch (by simp)) blank, ← isText]
              rfl
            | word isWord same =>
              rw [isText] at isWord
              cases isWord
    | cons second lexemes =>
      cases anew with
      | apart recased filled blank behind =>
        have plain := (List.pairwise_cons.mp laid.opens).1 second List.mem_cons_self
        refine scan_apart (recased.denotes (laid.anywhere (List.cons_ne_nil _ _) _))
          (recased.short short.1) (head_of_blanks filled blank _) plain (fun column => ?_) column'
        rw [scan_blanks blank]
        exact hypothesis laid.tail short.2 behind _ fun stretch member =>
          inked stretch (List.mem_cons_of_mem _ member)

end Rescan

/-! ### Spacing and case do not matter -/

/-- Tokens with the same lexemes, each with one end of the line behind them, are parsed alike. -/
theorem Parser.line_alike {read read' : List Token} {words : List Stretch} {column : Nat}
    (inside : ∀ stretch ∈ words, stretch.token.lexeme.isEnd = false)
    (isRead : read = words.map Stretch.token ++ [⟨.endOfLine, column⟩])
    (same : read'.map Token.lexeme = read.map Token.lexeme) :
    Parser.line read' = Parser.line read := by
  subst isRead
  rw [List.map_append] at same
  obtain ⟨words', tail', rfl, sameWords, sameEnd⟩ := List.map_eq_append_iff.mp same
  obtain ⟨ending, rfl, isEnd⟩ := List.map_eq_singleton_iff.mp sameEnd
  have inside' : ∀ token ∈ words.map Stretch.token, token.lexeme.isEnd = false :=
    List.forall_mem_map.mpr inside
  have ended : Parser.atEnd [ending] = true := congrArg Lexeme.isEnd isEnd
  exact ((Tracked.line_agrees [⟨.endOfLine, column⟩] [ending] inside' sameWords.symm rfl ended).2
    isEnd.symm).symm

/-- The stretches of a line that is read are its lexemes and its remark. -/
theorem stretches_of_tokens {line : String} {read : List Token} (isRead : tokens line = .ok read) :
    ∃ lexemes remark, stretches (trim line.toList) read = lexemes ++ remark.toList ∧
      Laid (trim line.toList) 0 lexemes remark ∧
      read = (lexemes ++ remark.toList).map Stretch.token ++
        [⟨.endOfLine, (trim line.toList).length⟩] ∧
      ∀ stretch ∈ lexemes, Short stretch.spelling stretch.token.lexeme := by
  have trimmed := trim_trim line.toList
  obtain ⟨lexemes, remark, laid, same, short⟩ :=
    laid_short_of_scan trimmed rfl (Nat.zero_le _) isRead
  refine ⟨lexemes, remark, ?_, laid, same, short⟩
  rw [same, laid.placed.stretches_eq (laid.inked trimmed)]

/-- **Spacing and case do not matter.** The tokens of a line stand on its lexemes and its remark. Put
at least one blank between each of these and the next, also where none stood, any blanks around the
line, and the letters of its words in any case: the same lexemes are read, and the line is parsed to
the same tree or refused for the same reason. -/
theorem tokens_respaced {line : String} {read : List Token} (isRead : tokens line = .ok read) :
    ∃ lexemes remark, Laid (trim line.toList) 0 lexemes remark ∧
      stretches (trim line.toList) read = lexemes ++ remark.toList ∧
      ∀ front text back, (∀ c ∈ front ++ back, isBlank c = true) →
        Respaced (lexemes ++ remark.toList) text →
          ∃ read', tokens (String.ofList (front ++ text ++ back)) = .ok read' ∧
            read'.map Token.lexeme = read.map Token.lexeme ∧
            Parser.line read' = Parser.line read := by
  have trimmed := trim_trim line.toList
  obtain ⟨lexemes, remark, shape, laid, isLaid, short⟩ := stretches_of_tokens isRead
  refine ⟨lexemes, remark, laid, shape, fun front text back blank respaced => ?_⟩
  obtain ⟨read', scanned, same⟩ := laid.rescanned trimmed short respaced 0
  have sameLexemes : read'.map Token.lexeme = read.map Token.lexeme := by
    simp [same, isLaid, Function.comp_def]
  refine ⟨read', ?_, sameLexemes, Parser.line_alike laid.noEnd isLaid sameLexemes⟩
  rw [tokens, String.toList_ofList, respaced.trim_around (laid.inked trimmed) blank, scanned]

/-- A number, a name, a text and a remark that touch one another, set apart in other cases. -/
theorem tokens_respaced_touching :
    ∃ read, tokens "\t10 A$ =\n\"x y\" rEm \"Ab ! " = .ok read ∧
      read.map Token.lexeme = [.number (.int 10), .identifier "A$", .operator "=", .string "x y",
        .keyword "REM", .string "\"Ab !", .endOfLine] ∧
      Parser.line read = Parser.line [⟨.number (.int 10), 0⟩, ⟨.identifier "A$", 2⟩,
        ⟨.operator "=", 4⟩, ⟨.string "x y", 5⟩, ⟨.keyword "REM", 10⟩, ⟨.string "\"Ab !", 13⟩,
        ⟨.endOfLine, 18⟩] := by
  have isRead : tokens "10a$=\"x y\"Rem\"Ab !" = .ok [⟨.number (.int 10), 0⟩,
      ⟨.identifier "A$", 2⟩, ⟨.operator "=", 4⟩, ⟨.string "x y", 5⟩, ⟨.keyword "REM", 10⟩,
      ⟨.string "\"Ab !", 13⟩, ⟨.endOfLine, 18⟩] := by
    cbv
  have cut : stretches (trim "10a$=\"x y\"Rem\"Ab !".toList) [⟨.number (.int 10), 0⟩,
      ⟨.identifier "A$", 2⟩, ⟨.operator "=", 4⟩, ⟨.string "x y", 5⟩, ⟨.keyword "REM", 10⟩,
      ⟨.string "\"Ab !", 13⟩, ⟨.endOfLine, 18⟩] =
        [⟨⟨.number (.int 10), 0⟩, ['1', '0']⟩, ⟨⟨.identifier "A$", 2⟩, ['a', '$']⟩,
          ⟨⟨.operator "=", 4⟩, ['=']⟩, ⟨⟨.string "x y", 5⟩, ['"', 'x', ' ', 'y', '"']⟩,
          ⟨⟨.keyword "REM", 10⟩, ['R', 'e', 'm']⟩,
          ⟨⟨.string "\"Ab !", 13⟩, ['"', 'A', 'b', ' ', '!']⟩] := by
    cbv
  have single : ∀ c, isBlank c = true → ∀ d ∈ [c], isBlank d = true :=
    fun c blank => List.forall_mem_singleton.mpr blank
  have anew : Respaced (stretches (trim "10a$=\"x y\"Rem\"Ab !".toList) [⟨.number (.int 10), 0⟩,
      ⟨.identifier "A$", 2⟩, ⟨.operator "=", 4⟩, ⟨.string "x y", 5⟩, ⟨.keyword "REM", 10⟩,
      ⟨.string "\"Ab !", 13⟩, ⟨.endOfLine, 18⟩])
        (['1', '0'] ++ ([' '] ++ (['A', '$'] ++ ([' '] ++ (['='] ++ (['\n'] ++
          (['"', 'x', ' ', 'y', '"'] ++ ([' '] ++ (['r', 'E', 'm'] ++ ([' '] ++
            ['"', 'A', 'b', ' ', '!'])))))))))) := by
    rw [cut]
    refine .apart .kept (by decide) (single ' ' rfl) ?_
    refine .apart (.word rfl (by decide)) (by decide) (single ' ' rfl) ?_
    refine .apart .kept (by decide) (single '\n' rfl) ?_
    refine .apart .kept (by decide) (single ' ' rfl) ?_
    exact .apart (.word rfl (by decide)) (by decide) (single ' ' rfl) (.last .kept)
  have blank : ∀ c ∈ ['\t'] ++ [' '], isBlank c = true :=
    List.forall_mem_append.mpr ⟨single '\t' rfl, single ' ' rfl⟩
  obtain ⟨lexemes, remark, _, shape, spaced⟩ := tokens_respaced isRead
  obtain ⟨read, found, same, parsed⟩ := spaced ['\t'] _ [' '] blank (shape ▸ anew)
  exact ⟨read, found, same, parsed⟩

end LineBasic
