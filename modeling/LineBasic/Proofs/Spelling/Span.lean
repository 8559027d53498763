/-
**Where the tokens of a line stand.**

The tokens of a line stand on stretches of the trimmed line, one behind the other, and between
them is nothing but blanks. Each stretch denotes its lexeme and could not be longer. What stands
behind the word `REM` is one text.

* `Placed` — tokens on stretches of a text;
* `Laid` — the lexemes of a text and the text of its remark;
* `laid_of_scan` — where the tokens of a text stand;
* `laid_of_tokens` — the tokens of a line and the line itself.
-/

import LineBasic.Proofs.Spelling.Line

namespace LineBasic

open Text Lexer

/-! ### Where the tokens of a text stand -/

/-- A token of a line, and the stretch of the line that it stands on. -/
structure Stretch where
  token : Token
  spelling : List Char

/-- The column behind a stretch. -/
def Stretch.finish (stretch : Stretch) : Nat :=
  stretch.token.column + stretch.spelling.length

/-- Tokens stand on stretches of a text, one behind the other from a column on: nothing but blanks
is left between them, and no stretch could be longer. -/
structure Placed (text : List Char) (column : Nat) (stretches : List Stretch) : Prop where
  stands : ∀ stretch ∈ stretches, column ≤ stretch.token.column ∧ stretch.spelling ≠ [] ∧
    stretch.spelling <+: text.drop stretch.token.column
  ordered : stretches.Pairwise fun stretch later => stretch.finish ≤ later.token.column
  covers : ∀ place c, column ≤ place → text[place]? = some c → isBlank c = false →
    ∃ stretch ∈ stretches, stretch.token.column ≤ place ∧ place < stretch.finish
  longest : ∀ stretch ∈ stretches, ∀ longer after lexeme,
    text.drop stretch.token.column = longer ++ after → Denotes after longer lexeme →
      longer.length ≤ stretch.spelling.length

/-- **The tokens of a text** from a column on: stretches that denote their lexemes and, behind the
word `REM`, the text of a remark. -/
structure Laid (text : List Char) (column : Nat) (lexemes : List Stretch)
    (remark : Option Stretch) : Prop where
  placed : Placed text column (lexemes ++ remark.toList)
  denotes : ∀ stretch ∈ lexemes,
    Denotes (text.drop stretch.finish) stretch.spelling stretch.token.lexeme
  opens : lexemes.Pairwise fun stretch _ => stretch.token.lexeme ≠ .keyword "REM"
  remarked : ∀ stretch, remark = some stretch → ∃ opening, lexemes.getLast? = some opening ∧
    opening.token.lexeme = .keyword "REM" ∧
    stretch.spelling = trim (text.drop opening.finish) ∧
    stretch.token.lexeme = .string (String.ofList stretch.spelling)

section Laid

variable {text after : List Char} {column : Nat}

/-- What stands behind a stretch. -/
theorem drop_behind {front : List Char} (shape : text.drop column = front ++ after) :
    text.drop (column + front.length) = after := by
  rw [← List.drop_drop, shape, List.drop_left]

theorem inside_of_drop {front : List Char} (shape : text.drop column = front ++ after)
    (inside : column ≤ text.length) : column + front.length ≤ text.length := by
  have total := congrArg List.length shape
  rw [List.length_drop, List.length_append] at total
  omega

namespace Placed

variable {stretches : List Stretch}

theorem nil (ended : text.length ≤ column) : Placed text column [] where
  stands := nofun
  ordered := .nil
  covers place c behind found _ := by
    rw [List.getElem?_eq_none (Nat.le_trans ended behind)] at found
    cases found
  longest := nofun

/-- Blanks in front of the first token are left out. -/
theorem skip {blanks : List Char} (shape : text.drop column = blanks ++ after)
    (blank : ∀ c ∈ blanks, isBlank c = true)
    (placed : Placed text (column + blanks.length) stretches) : Placed text column stretches where
  stands stretch member := by
    obtain ⟨behind, filled⟩ := placed.stands stretch member
    exact ⟨Nat.le_trans (Nat.le_add_right _ _) behind, filled⟩
  ordered := placed.ordered
  covers place c behind found inked := by
    by_cases skipped : place < column + blanks.length
    · obtain ⟨offset, rfl⟩ := Nat.exists_eq_add_of_le behind
      rw [← List.getElem?_drop, shape, List.getElem?_append_left (by omega)] at found
      rw [blank c (List.mem_of_getElem? found)] at inked
      cases inked
    · exact placed.covers place c (Nat.le_of_not_lt skipped) found inked
  longest := placed.longest

/-- The first token stands in front of the others. -/
theorem cons {spelling : List Char} (shape : text.drop column = spelling ++ after)
    (filled : spelling ≠ [])
    (longest : ∀ longer after' lexeme, spelling ++ after = longer ++ after' →
      Denotes after' longer lexeme → longer.length ≤ spelling.length)
    (placed : Placed text (column + spelling.length) stretches) (lexeme : Lexeme) :
    Placed text column (⟨⟨lexeme, column⟩, spelling⟩ :: stretches) where
  stands := by
    refine List.forall_mem_cons.mpr ⟨⟨Nat.le_refl _, filled, after, shape.symm⟩, ?_⟩
    intro stretch member
    obtain ⟨behind, filled⟩ := placed.stands stretch member
    exact ⟨Nat.le_trans (Nat.le_add_right _ _) behind, filled⟩
  ordered := List.pairwise_cons.mpr
    ⟨fun stretch member => (placed.stands stretch member).1, placed.ordered⟩
  covers place c behind found inked := by
    by_cases inside : place < column + spelling.length
    · exact ⟨_, List.mem_cons_self, behind, inside⟩
    · obtain ⟨stretch, member, holds⟩ :=
        placed.covers place c (Nat.le_of_not_lt inside) found inked
      exact ⟨stretch, List.mem_cons_of_mem _ member, holds⟩
  longest := by
    refine List.forall_mem_cons.mpr ⟨?_, placed.longest⟩
    intro longer after' lexeme' same
    exact longest longer after' lexeme' (shape.symm.trans same)

/-- Nothing but blanks is left. -/
theorem blank {blanks : List Char} (shape : text.drop column = blanks)
    (blank : ∀ c ∈ blanks, isBlank c = true) : Placed text column [] := by
  rw [← List.append_nil blanks] at shape
  exact skip shape blank (nil (List.drop_eq_nil_iff.mp (drop_behind shape)))

/-- A token that runs to the end of the text. -/
theorem toEnd {spelling : List Char} (shape : text.drop column = spelling)
    (filled : spelling ≠ []) (lexeme : Lexeme) :
    Placed text column [⟨⟨lexeme, column⟩, spelling⟩] := by
  rw [← List.append_nil spelling] at shape
  refine cons shape filled (fun longer after' _ same _ => ?_)
    (nil (List.drop_eq_nil_iff.mp (drop_behind shape))) lexeme
  have total := congrArg List.length same
  rw [List.append_nil, List.length_append] at total
  omega

end Placed

/-- The first lexeme is laid in front of what is laid behind it. -/
theorem Laid.cons {spelling : List Char} {lexeme : Lexeme} {lexemes : List Stretch}
    {remark : Option Stretch} (shape : text.drop column = spelling ++ after)
    (denotes : Denotes after spelling lexeme) (plain : lexeme ≠ .keyword "REM")
    (longest : ∀ longer after' lexeme, spelling ++ after = longer ++ after' →
      Denotes after' longer lexeme → longer.length ≤ spelling.length)
    (laid : Laid text (column + spelling.length) lexemes remark) :
    Laid text column (⟨⟨lexeme, column⟩, spelling⟩ :: lexemes) remark where
  placed := Placed.cons shape denotes.ne_nil longest laid.placed lexeme
  denotes := by
    refine List.forall_mem_cons.mpr ⟨?_, laid.denotes⟩
    exact (congrArg (Denotes · spelling lexeme) (drop_behind shape)).mpr denotes
  opens := List.pairwise_cons.mpr ⟨fun _ _ => plain, laid.opens⟩
  remarked stretch isRemark := by
    obtain ⟨opening, last, holds⟩ := laid.remarked stretch isRemark
    refine ⟨opening, ?_, holds⟩
    rw [List.getLast?_cons, last]
    rfl

/-- The end of a trimmed text has blanks only in front. -/
theorem trim_suffix (trimmed : trim text = text) (ends : after <:+ text) :
    trim after = trimStart after := by
  have start : trimStart (trimStart after) = trimStart after := dropWhile_dropWhile isBlank after
  have inked : trim (trimStart after) = trimStart after := by
    refine trim_inked (fun c first => ?_) fun c last => last_of_trimmed trimmed c ?_
    · obtain ⟨rest, shape⟩ := List.head?_eq_some_iff.mp first
      exact head_dropWhile isBlank after c rest shape
    · obtain ⟨front, split⟩ := (List.dropWhile_suffix isBlank).trans ends
      rw [← split, List.getLast?_append, ← trimStart, last]
      rfl
  rwa [trim, start, ← trim] at inked

/-- What stands behind the word `REM` is one text that runs to the end, if it is not blank. -/
theorem laid_remark (trimmed : trim text = text) {spelling : List Char}
    (shape : text.drop column = spelling ++ after)
    (denotes : Denotes after spelling (.keyword "REM"))
    (longest : ∀ longer after' lexeme, spelling ++ after = longer ++ after' →
      Denotes after' longer lexeme → longer.length ≤ spelling.length) :
    ∃ remark, Laid text column [⟨⟨.keyword "REM", column⟩, spelling⟩] remark ∧
      Lexer.remark (column + spelling.length) after = remark.toList.map Stretch.token ++
        [⟨.endOfLine, column + spelling.length + after.length⟩] := by
  have behind := drop_behind shape
  have denotes' : ∀ stretch ∈ [(⟨⟨.keyword "REM", column⟩, spelling⟩ : Stretch)],
      Denotes (text.drop stretch.finish) stretch.spelling stretch.token.lexeme := by
    refine List.forall_mem_singleton.mpr ?_
    exact (congrArg (Denotes · spelling _) behind).mpr denotes
  have body : trim after = trimStart after :=
    trim_suffix trimmed (behind ▸ List.drop_suffix _ text)
  have parts : after = after.takeWhile isBlank ++ trimStart after :=
    List.takeWhile_append_dropWhile.symm
  have blank : ∀ c ∈ after.takeWhile isBlank, isBlank c = true :=
    fun c member => List.all_eq_true.mp List.all_takeWhile c member
  have skipped := behind.trans parts
  unfold Lexer.remark
  by_cases empty : trim after = []
  · have blanks := (trim_eq_nil_iff after).mp empty
    refine ⟨none, ⟨Placed.cons shape denotes.ne_nil longest (Placed.blank behind blanks) _,
      denotes', List.pairwise_singleton .., nofun⟩, ?_⟩
    simp [empty]
  · have start : after.length - (trimStart after).length = (after.takeWhile isBlank).length := by
      have total := congrArg List.length parts
      rw [List.length_append] at total
      omega
    have toEnd := Placed.toEnd ((drop_behind skipped).trans body.symm) empty
      (.string (String.ofList (trim after)))
    refine ⟨some _, ⟨Placed.cons shape denotes.ne_nil longest (Placed.skip skipped blank toEnd) _,
      denotes', List.pairwise_singleton .., ?_⟩, ?_⟩
    · rintro stretch ⟨⟩
      exact ⟨_, rfl, rfl, congrArg trim behind.symm, rfl⟩
    · simp [empty, start]

/-- Where the tokens of a text stand; its integers have no more digits than they may be written
with. -/
theorem laid_short_of_scan (trimmed : trim text = text) {rest : List Char} {read : List Token}
    (shape : text.drop column = rest) (inside : column ≤ text.length)
    (scanned : scan column rest = .ok read) :
    ∃ lexemes remark, Laid text column lexemes remark ∧
      read = (lexemes ++ remark.toList).map Stretch.token ++ [⟨.endOfLine, text.length⟩] ∧
        ∀ stretch ∈ lexemes, ∀ n, stretch.token.lexeme = .number (.int n) →
          stretch.spelling.length ≤ digitLimit := by
  fun_induction scan column rest generalizing read
  case case1 column =>
    cases scanned
    have ended := List.drop_eq_nil_iff.mp shape
    refine ⟨[], none, ⟨Placed.nil ended, List.forall_mem_nil _, .nil, by rintro _ ⟨⟩⟩, ?_,
      List.forall_mem_nil _⟩
    rw [Nat.le_antisymm inside ended]
    rfl
  case case2 column c rest blank hypothesis =>
    have shape' : text.drop column = [c] ++ rest := shape
    obtain ⟨lexemes, remark, laid, same, short⟩ := hypothesis (drop_behind shape')
      (inside_of_drop shape' inside) scanned
    have blanks : ∀ d ∈ [c], isBlank d = true := List.forall_mem_singleton.mpr blank
    exact ⟨lexemes, remark, ⟨Placed.skip shape' blanks laid.placed, laid.denotes, laid.opens,
      laid.remarked⟩, same, short⟩
  case case3 => cases scanned
  case case4 column c rest notBlank after next reads shorter =>
    cases scanned
    obtain ⟨front, split, long, denotes, longest⟩ := front_of_lexemeAt reads
    have shape' := shape.trans split
    obtain ⟨remark, laid, same⟩ := laid_remark trimmed shape' denotes longest
    have finish : next + after.length = text.length := by
      have total := congrArg List.length shape'
      rw [List.length_drop, List.length_append] at total
      omega
    have behind : next = column + front.length := congrArg (column + ·) long
    refine ⟨_, remark, laid, ?_, List.forall_mem_singleton.mpr (by rintro _ ⟨⟩)⟩
    rw [behind, same, ← behind, finish]
    rfl
  case case5 column c rest notBlank lexeme after reads shorter next opens tokens found hypothesis =>
    cases scanned
    obtain ⟨front, split, long, denotes, longest⟩ := front_of_lexemeAt reads
    have shape' := shape.trans split
    have behind : next = column + front.length := congrArg (column + ·) long
    obtain ⟨lexemes, remark, laid, same, short⟩ := hypothesis (behind ▸ drop_behind shape')
      (behind ▸ inside_of_drop shape' inside) found
    rw [behind] at laid
    exact ⟨_, remark, laid.cons shape' denotes opens longest, congrArg (_ :: ·) same,
      List.forall_mem_cons.mpr ⟨length_of_lexemeAt reads split, short⟩⟩
  case case6 => cases scanned

/-- **Where the tokens of a text stand.** -/
theorem laid_of_scan (trimmed : trim text = text) {rest : List Char} {read : List Token}
    (shape : text.drop column = rest) (inside : column ≤ text.length)
    (scanned : scan column rest = .ok read) :
    ∃ lexemes remark, Laid text column lexemes remark ∧
      read = (lexemes ++ remark.toList).map Stretch.token ++ [⟨.endOfLine, text.length⟩] := by
  obtain ⟨lexemes, remark, laid, same, -⟩ := laid_short_of_scan trimmed shape inside scanned
  exact ⟨lexemes, remark, laid, same⟩

section Tokens

variable {lexemes : List Stretch} {remark : Option Stretch}

theorem Laid.noEnd (laid : Laid text column lexemes remark) :
    ∀ stretch ∈ lexemes ++ remark.toList, stretch.token.lexeme.isEnd = false := by
  intro stretch member
  rcases List.mem_append.mp member with isLexeme | isRemark
  · exact (laid.denotes stretch isLexeme).noEnd
  · obtain ⟨_, _, _, _, string⟩ := laid.remarked stretch (Option.mem_toList.mp isRemark)
    rw [string]
    rfl

/-- A stretch lies inside its text. -/
theorem Placed.inside {stretches : List Stretch} (placed : Placed text column stretches)
    {stretch : Stretch} (member : stretch ∈ stretches) :
    stretch.token.column < stretch.finish ∧ stretch.finish ≤ text.length := by
  obtain ⟨_, filled, before⟩ := placed.stands stretch member
  have long : 0 < stretch.spelling.length := List.length_pos_of_ne_nil filled
  have short := before.length_le
  rw [List.length_drop] at short
  unfold Stretch.finish
  omega

/-- The columns of the tokens ascend strictly, up to the end of the text. -/
theorem Placed.ascending {stretches : List Stretch} (placed : Placed text column stretches)
    (ending : Lexeme) : List.Pairwise (fun token later : Token => token.column < later.column)
      (stretches.map Stretch.token ++ [⟨ending, text.length⟩]) := by
  refine List.pairwise_append.mpr ⟨?_, List.pairwise_singleton .., ?_⟩
  · refine List.pairwise_map.mpr (placed.ordered.imp_of_mem fun member _ before => ?_)
    exact Nat.lt_of_lt_of_le (placed.inside member).1 before
  · intro token member last isLast
    obtain ⟨stretch, isIn, rfl⟩ := List.mem_map.mp member
    rw [List.mem_singleton.mp isLast]
    exact Nat.lt_of_lt_of_le (placed.inside isIn).1 (placed.inside isIn).2

end Tokens

end Laid

/-- **The tokens of a line neither lose nor invent anything.** They end with the one end of the line,
at the length of the trimmed line; their columns ascend strictly; each of the others stands on a
stretch of the line that denotes it and could not be longer; and between the stretches is nothing
but blanks. -/
theorem laid_of_tokens {line : String} {read : List Token} (isRead : tokens line = .ok read) :
    ∃ lexemes remark,
      read = (lexemes ++ remark.toList).map Stretch.token ++
        [⟨.endOfLine, (trim line.toList).length⟩] ∧
      (∀ stretch ∈ lexemes ++ remark.toList, stretch.token.lexeme.isEnd = false) ∧
      read.Pairwise (fun token later => token.column < later.column) ∧
      Laid (trim line.toList) 0 lexemes remark := by
  obtain ⟨lexemes, remark, laid, same⟩ :=
    laid_of_scan (trim_trim line.toList) rfl (Nat.zero_le _) isRead
  exact ⟨lexemes, remark, same, laid.noEnd, same ▸ laid.placed.ascending .endOfLine, laid⟩

/-- An operator of two characters, a text between quotes, and a remark behind two blanks that
holds a quote. -/
theorem laid_of_tokens_remark :
    ∃ lexemes remark,
      [⟨.number (.int 10), 0⟩, ⟨.identifier "A$", 2⟩, ⟨.operator "<=", 4⟩, ⟨.string "B", 6⟩,
          ⟨.punctuation ":", 9⟩, ⟨.keyword "REM", 10⟩, ⟨.string "X \"Y", 15⟩, ⟨.endOfLine, 19⟩] =
        (lexemes ++ remark.toList).map Stretch.token ++ [⟨.endOfLine, 19⟩] ∧
      Laid (trim " 10a$<=\"B\":Rem  X \"Y ".toList) 0 lexemes remark := by
  have isRead : tokens " 10a$<=\"B\":Rem  X \"Y " = .ok [⟨.number (.int 10), 0⟩,
      ⟨.identifier "A$", 2⟩, ⟨.operator "<=", 4⟩, ⟨.string "B", 6⟩, ⟨.punctuation ":", 9⟩,
      ⟨.keyword "REM", 10⟩, ⟨.string "X \"Y", 15⟩, ⟨.endOfLine, 19⟩] := by
    cbv
  have long : (trim " 10a$<=\"B\":Rem  X \"Y ".toList).length = 19 := by
    cbv
  obtain ⟨lexemes, remark, same, _, _, laid⟩ := laid_of_tokens isRead
  rw [long] at same
  exact ⟨lexemes, remark, same, laid⟩

end LineBasic
