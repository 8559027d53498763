/-
**Lines are written and read back.**

The tree of a line holds nothing but what was read from the line, so its words can be written.
Written with spaces where words would run together, they are read as the same tree again.

* `Line.spellable` — the words of the tree of a line that was read can be written;
* `line_spelled` — a line is read as its tree, however it is written;
* `line_round_trip` — the tree of a line can be written, and every way of writing it is read as
  that tree.
-/

import LineBasic.Proofs.Grammar.Unparse
import LineBasic.Proofs.Spelling.Line

namespace LineBasic

open Text Lexer LineBasic.Parser

/-! ### Line numbers can be written -/

section LineNumbers

open Float.Model (UnpackedFloat Format)

/-- A finite float has a mantissa and an exponent of bounded size. -/
theorem unpacked_lt {bits : BitVec Format.binary64.numBits} {sign : UnpackedFloat.Sign}
    {mantissa : Nat} {exponent : Int} {positive : 0 < mantissa}
    (finite : UnpackedFloat.unpack Format.binary64 bits = .finite sign mantissa exponent positive) :
    mantissa < 2 ^ 53 ∧ exponent < 2 ^ 11 := by
  have small : (UnpackedFloat.unpackExponent bits).toNat < 2 ^ 11 := BitVec.isLt _
  unfold UnpackedFloat.unpack at finite
  simp only at finite
  split at finite
  · split at finite <;> cases finite
  · split at finite
    · split at finite
      · cases finite
      · cases finite
        have below : (UnpackedFloat.unpackMantissa bits).toNat < 2 ^ 52 := BitVec.isLt _
        constructor <;> omega
    · cases finite
      have below : (1#1 ++ UnpackedFloat.unpackMantissa bits).toNat < 2 ^ (1 + 52) := BitVec.isLt _
      constructor <;> omega

theorem apply_le (sign : UnpackedFloat.Sign) (n : Nat) : sign.apply n ≤ n := by
  cases sign with
  | positive => exact Int.le_refl _
  | negative =>
    show -(n : Int) ≤ n
    omega

theorem scaled_lt {mantissa places : Nat} (small : mantissa < 2 ^ 53) (few : places < 2 ^ 11) :
    mantissa * 2 ^ places < 10 ^ digitLimit := by
  have within : 53 + places < digitLimit := by
    unfold digitLimit
    omega
  calc mantissa * 2 ^ places ≤ 2 ^ 53 * 2 ^ places := Nat.mul_le_mul_right _ (Nat.le_of_lt small)
    _ = 2 ^ (53 + places) := (Nat.pow_add 2 53 places).symm
    _ < 2 ^ digitLimit := Nat.pow_lt_pow_right (by decide) within
    _ ≤ 10 ^ digitLimit := Nat.pow_le_pow_left (by decide) _

/-- A whole float has no more digits than an integer may be written with. -/
theorem wholeValue_lt {x : Float} {n : Int} (whole : Number.wholeValue? x = some n) :
    n < ((10 ^ digitLimit : Nat) : Int) := by
  have below : ∀ (sign : UnpackedFloat.Sign) {value : Nat}, value < 10 ^ digitLimit →
      sign.apply value < ((10 ^ digitLimit : Nat) : Int) := fun sign value small =>
    Int.lt_of_le_of_lt (apply_le sign value) (Int.ofNat_lt.mpr small)
  unfold Number.wholeValue? at whole
  split at whole
  · cases whole
    exact Int.ofNat_lt.mpr (Nat.pow_pos (by decide))
  · next sign mantissa exponent positive finite =>
    obtain ⟨small, few⟩ := unpacked_lt finite
    split at whole
    · cases whole
      exact below sign (scaled_lt small (Int.ofNat_lt.mp few))
    · split at whole
      · cases whole
        have unscaled : mantissa < 10 ^ digitLimit := by
          simpa using scaled_lt small (show 0 < 2 ^ 11 by decide)
        exact below sign (Nat.lt_of_le_of_lt (Nat.div_le_self _ _) unscaled)
      · cases whole
  · cases whole

end LineNumbers

/-! ### What stands on a line that was read -/

/-- The lexemes from some place of a line to its end, in a line that was read. -/
def Remains (lexemes : List Lexeme) : Prop :=
  ∃ words, lexemes = words ++ [.endOfLine] ∧ Spellable words

/-- A lexeme within a line that opens no remark. -/
def Lexeme.IsPlain (lexeme : Lexeme) : Prop :=
  lexeme ≠ .keyword "REM" ∧ lexeme ≠ .endOfLine

theorem Remains.uncons {lexeme : Lexeme} {lexemes : List Lexeme}
    (remains : Remains (lexeme :: lexemes)) (plain : lexeme.IsPlain) :
    Writable lexeme ∧ Remains lexemes := by
  obtain ⟨words, shape, spellable⟩ := remains
  cases words with
  | nil =>
    cases shape
    exact absurd rfl plain.2
  | cons first words =>
    cases shape
    obtain ⟨writable, behind⟩ := spellable.uncons plain.1
    exact ⟨writable, words, rfl, behind⟩

/-- The lexemes of a stretch can be written, and what stands behind it remains. -/
theorem Remains.split {stretch rest : List Lexeme} (remains : Remains (stretch ++ rest))
    (plain : ∀ lexeme ∈ stretch, lexeme.IsPlain) :
    (∀ lexeme ∈ stretch, Writable lexeme) ∧ Remains rest := by
  induction stretch with
  | nil => exact ⟨nofun, remains⟩
  | cons lexeme stretch hypothesis =>
    obtain ⟨writable, behind⟩ := remains.uncons (plain lexeme List.mem_cons_self)
    obtain ⟨others, left⟩ :=
      hypothesis behind fun other member => plain other (List.mem_cons_of_mem lexeme member)
    exact ⟨List.forall_mem_cons.mpr ⟨writable, others⟩, left⟩

theorem Spellable.append {stretch words : List Lexeme} (behind : Spellable words)
    (plain : ∀ lexeme ∈ stretch, lexeme.IsPlain) (writable : ∀ lexeme ∈ stretch, Writable lexeme) :
    Spellable (stretch ++ words) := by
  induction stretch with
  | nil => exact behind
  | cons lexeme stretch hypothesis =>
    refine (hypothesis ?_ ?_).cons (writable lexeme List.mem_cons_self)
      (plain lexeme List.mem_cons_self).1
    · exact fun other member => plain other (List.mem_cons_of_mem lexeme member)
    · exact fun other member => writable other (List.mem_cons_of_mem lexeme member)

/-! ### Words that the tree adds -/

theorem writable_keyword {word : String} (known : word ∈ keywords) : Writable (.keyword word) := by
  have capitals : keywords.all (fun word => word != "" &&
      word.toList.all fun c => isLetter c && asciiCapital c == c) = true := by
    decide +kernel
  have spelled := List.all_eq_true.mp capitals word known
  simp only [Bool.and_eq_true, bne_iff_ne] at spelled
  cases shape : word.toList with
  | nil => exact absurd (String.toList_eq_nil_iff.mp shape) spelled.1
  | cons first rest =>
    have same : String.ofList (first :: rest) = word := by rw [← shape, String.ofList_toList]
    have isWord : IsWord (first :: rest) := isWord_of_all (shape ▸ spelled.2)
    rw [← same]
    exact ⟨_, .keyword isWord (by rw [same]; exact List.contains_iff_mem.mpr known)⟩

/-- The line number that a number stands for can be written. -/
theorem writable_lineNumber {value : Value} {number : Int} (writable : Writable (.number value))
    (isNumber : toLineNumber value = .ok number) : Writable (.number (.int number)) := by
  have positive : 1 ≤ number := one_le_of_toLineNumber isNumber
  unfold toLineNumber at isNumber
  split at isNumber
  · cases isNumber
  · split at isNumber
    · cases isNumber
    · cases isNumber
      exact writable
  · next x =>
    cases whole : Number.wholeValue? x with
    | none =>
      rw [whole] at isNumber
      cases isNumber
    | some n =>
      rw [whole] at isNumber
      simp only at isNumber
      split at isNumber
      · cases isNumber
      · cases isNumber
        have below := wholeValue_lt whole
        obtain ⟨size, rfl⟩ := Int.eq_ofNat_of_zero_le (by omega : 0 ≤ number)
        exact ⟨_, .integer (Int.ofNat_lt.mp below)⟩

/-! ### Expressions -/

theorem Parser.Phrase.arePlain {level : Nat} {phrase : List Lexeme} {node : Node}
    (derives : Phrase level phrase node) : ∀ lexeme ∈ phrase, lexeme.IsPlain := by
  induction derives with
  | number value => simp [Lexeme.IsPlain]
  | string text => simp [Lexeme.IsPlain]
  | named name => simp [Lexeme.IsPlain]
  | parenthesised inner hypothesis =>
    simpa [Lexeme.IsPlain, or_imp, forall_and] using hypothesis
  | negated operand hypothesis =>
    simpa [Lexeme.IsPlain, or_imp, forall_and] using hypothesis
  | tighter inner hypothesis => exact hypothesis
  | joined ahead member behind hypothesis hypothesis' =>
    rw [List.forall_mem_append, List.forall_mem_cons]
    exact ⟨hypothesis, by simp [Lexeme.IsPlain], hypothesis'⟩

theorem writable_bracketed {bare : Bool} {words : List Lexeme}
    (writable : ∀ lexeme ∈ words, Writable lexeme) :
    ∀ lexeme ∈ Node.bracketed bare words, Writable lexeme := by
  cases bare with
  | true => exact writable
  | false =>
    have opening : Writable (.punctuation "(") := ⟨_, .mark (by decide)⟩
    have closing : Writable (.punctuation ")") := ⟨_, .mark (by decide)⟩
    simp only [Node.bracketed, Bool.false_eq_true, if_false]
    rw [List.forall_mem_cons, List.forall_mem_append, List.forall_mem_singleton]
    exact ⟨opening, writable, closing⟩

/-- The words of an expression that was read can be written. -/
theorem Parser.Phrase.writable {level : Nat} {phrase : List Lexeme} {node : Node}
    (derives : Phrase level phrase node) (writable : ∀ lexeme ∈ phrase, Writable lexeme) :
    ∀ lexeme ∈ node.phrase, Writable lexeme := by
  induction derives with
  | number value => exact writable
  | string text => exact writable
  | named name => exact writable
  | parenthesised inner hypothesis =>
    rw [List.forall_mem_cons, List.forall_mem_append] at writable
    exact hypothesis writable.2.1
  | negated operand hypothesis =>
    rw [List.forall_mem_cons] at writable
    rw [Node.phrase, List.forall_mem_cons]
    exact ⟨writable.1, writable_bracketed (hypothesis writable.2)⟩
  | tighter inner hypothesis => exact hypothesis writable
  | joined ahead member behind hypothesis hypothesis' =>
    rw [List.forall_mem_append, List.forall_mem_cons] at writable
    obtain ⟨first, operator, second⟩ := writable
    rw [Node.phrase, List.forall_mem_append, List.forall_mem_cons]
    exact ⟨writable_bracketed (hypothesis first), operator, writable_bracketed (hypothesis' second)⟩

/-- An expression of a line can be written before whatever can be written. -/
theorem Parser.Phrase.spellable {level : Nat} {phrase rest : List Lexeme} {node : Node}
    (derives : Phrase level phrase node) (remains : Remains (phrase ++ rest)) :
    Remains rest ∧ ∀ words, Spellable words → Spellable (node.phrase ++ words) := by
  obtain ⟨writable, behind⟩ := remains.split derives.arePlain
  refine ⟨behind, fun words spellable => spellable.append ?_ (derives.writable writable)⟩
  exact (phrase_derives derives.isExpression).arePlain

/-! ### Statements and lines -/

theorem isPlain_keyword {word : String} (other : word ≠ "REM") : (Lexeme.keyword word).IsPlain :=
  ⟨fun same => other (Lexeme.keyword.inj same), nofun⟩

/-- Behind a word that opens no remark the line remains. -/
theorem Remains.keyword {word : String} {lexemes : List Lexeme}
    (remains : Remains (.keyword word :: lexemes)) (other : word ≠ "REM") : Remains lexemes :=
  (remains.uncons (isPlain_keyword other)).2

theorem isPlain_number (value : Value) : (Lexeme.number value).IsPlain :=
  ⟨nofun, nofun⟩

theorem isPlain_string (text : String) : (Lexeme.string text).IsPlain :=
  ⟨nofun, nofun⟩

theorem isPlain_identifier (name : String) : (Lexeme.identifier name).IsPlain :=
  ⟨nofun, nofun⟩

theorem isPlain_operator (symbol : String) : (Lexeme.operator symbol).IsPlain :=
  ⟨nofun, nofun⟩

theorem isPlain_punctuation (mark : String) : (Lexeme.punctuation mark).IsPlain :=
  ⟨nofun, nofun⟩

/-- A word of the language can be written before whatever can be written. -/
theorem Spellable.keyword {word : String} {words : List Lexeme} (behind : Spellable words)
    (known : word ∈ keywords) (other : word ≠ "REM") : Spellable (.keyword word :: words) :=
  behind.cons (writable_keyword known) (isPlain_keyword other).1

theorem Parser.Items.spellable {words rest : List Lexeme} {items : List Node}
    {separators : List String} (derives : Items words items separators)
    (remains : Remains (words ++ rest)) : Spellable (Node.printed items separators) := by
  induction derives generalizing rest with
  | none => exact spellable_nil
  | @last phrase item derives =>
    have whole := (derives.spellable remains).2 [] spellable_nil
    rwa [List.append_nil] at whole
  | more derives separates others hypothesis =>
    rw [List.append_assoc] at remains
    obtain ⟨behind, whole⟩ := derives.spellable remains
    obtain ⟨writable, left⟩ := behind.uncons (isPlain_punctuation _)
    exact whole _ ((hypothesis left).cons writable nofun)

/-- A text of a line with a comma behind it can be written. -/
theorem writable_gapped {text : String} (writable : Writable (.string text)) :
    Writable (.string (text ++ ",")) := by
  obtain ⟨spelling, written⟩ := writable
  cases written with
  | @string body plain =>
    have joined : String.ofList body ++ "," = String.ofList (body ++ [',']) := by
      rw [String.ofList_append]
    rw [joined]
    exact ⟨_, .string (by simpa using plain)⟩

theorem Parser.Prompt.spellable {words rest others : List Lexeme} {prompt : String}
    (asks : Prompt words prompt) (remains : Remains (words ++ rest)) (behind : Spellable others) :
    Remains rest ∧
      Spellable ((if prompt = "" then [] else [.string prompt, .punctuation ";"]) ++ others) := by
  have asked : Writable (.string prompt) →
      Spellable ((if prompt = "" then [] else [.string prompt, .punctuation ";"]) ++ others) := by
    intro writable
    split
    · exact behind
    · exact (behind.cons ⟨_, .mark (by decide)⟩ nofun).cons writable nofun
  cases asks with
  | none => exact ⟨remains, behind⟩
  | alone text =>
    obtain ⟨writable, left⟩ := remains.uncons (isPlain_string _)
    exact ⟨left, asked writable⟩
  | closed =>
    obtain ⟨writable, left⟩ := remains.uncons (isPlain_string _)
    exact ⟨(left.uncons (isPlain_punctuation _)).2, asked writable⟩
  | gapped =>
    obtain ⟨writable, left⟩ := remains.uncons (isPlain_string _)
    exact ⟨(left.uncons (isPlain_punctuation _)).2, asked (writable_gapped writable)⟩

theorem Parser.Range.spellable {words rest : List Lexeme} {first last : Option Int}
    (range : Range words first last) (remains : Remains (words ++ rest)) :
    Spellable (Node.rangeWords first last) := by
  have minus : Writable (.operator "-") := ⟨_, .single (by decide)⟩
  cases range with
  | all => exact spellable_nil
  | one isNumber =>
    have writable := (remains.uncons (isPlain_number _)).1
    exact spellable_nil.cons (writable_lineNumber writable isNumber) nofun
  | above isNumber =>
    have writable := (remains.uncons (isPlain_number _)).1
    exact spellable_nil.cons (writable_lineNumber writable isNumber) nofun
  | between isNumber isNumber' =>
    obtain ⟨writable, behind⟩ := remains.uncons (isPlain_number _)
    have writable' := ((behind.uncons (isPlain_operator _)).2.uncons (isPlain_number _)).1
    have ends := spellable_nil.cons (writable_lineNumber writable' isNumber') nofun
    exact (ends.cons minus nofun).cons (writable_lineNumber writable isNumber) nofun
  | below isNumber =>
    have writable := ((remains.uncons (isPlain_operator _)).2.uncons (isPlain_number _)).1
    exact (spellable_nil.cons (writable_lineNumber writable isNumber) nofun).cons minus nofun

/-- The text of a remark on a line can be written behind it. -/
theorem spellable_remark {text : String} {rest : List Lexeme}
    (remains : Remains (.keyword "REM" :: .string text :: rest)) :
    Spellable [.keyword "REM", .string text] := by
  obtain ⟨words, shape, spelling, spells⟩ := remains
  match words, shape with
  | [first], shape => cases shape
  | first :: second :: words, shape =>
    cases shape
    cases spells with
    | remark inked trimmed => exact ⟨_, .remark inked trimmed⟩
    | spaced writes plain more behind => exact absurd rfl plain
    | touching writes plain apart behind => cases plain rfl

/-- The word that opens a remark can be written alone. -/
theorem spellable_opening : Spellable [.keyword "REM"] :=
  ⟨_, .touching written_remark (fun _ => rfl) (apart_nil _) .none⟩

theorem spellable_assign {phrase rest : List Lexeme} {name : String} {value : Node}
    (derives : Phrase 3 phrase value)
    (remains : Remains (.identifier name :: .operator "=" :: (phrase ++ rest))) :
    Spellable (Node.assign name value).words := by
  obtain ⟨writable, behind⟩ := remains.uncons (isPlain_identifier name)
  obtain ⟨equals, behind⟩ := behind.uncons (isPlain_operator "=")
  have whole := (derives.spellable behind).2 [] spellable_nil
  rw [List.append_nil] at whole
  exact ((whole.cons equals nofun).cons writable nofun).keyword (by decide) (by decide)

/-- A condition can be written if its statement can. -/
theorem spellable_if {phrase rest : List Lexeme} {condition statement : Node}
    (derives : Phrase 3 phrase condition)
    (remains : Remains (.keyword "IF" :: (phrase ++ .keyword "THEN" :: rest)))
    (guarded : Remains rest → Spellable statement.words) :
    Spellable (Node.ifThen condition statement).words := by
  obtain ⟨behind, whole⟩ := derives.spellable (remains.keyword (by decide))
  have then' : Spellable (.keyword "THEN" :: statement.words) :=
    (guarded (behind.keyword (by decide))).keyword (by decide) (by decide)
  exact (whole _ then').keyword (by decide) (by decide)

/-- A loop can be written if its step can. -/
theorem spellable_for {phrase phrase' rest : List Lexeme} {name : String}
    {start limit step : Node} (derives : Phrase 3 phrase start) (derives' : Phrase 3 phrase' limit)
    (remains : Remains (.keyword "FOR" :: .identifier name :: .operator "=" ::
      (phrase ++ .keyword "TO" :: (phrase' ++ rest))))
    (steps : Remains rest → Spellable step.phrase) :
    Spellable (Node.forLoop name start limit step).words := by
  obtain ⟨writable, behind⟩ := (remains.keyword (by decide)).uncons (isPlain_identifier name)
  obtain ⟨equals, behind⟩ := behind.uncons (isPlain_operator "=")
  obtain ⟨behind, first⟩ := derives.spellable behind
  obtain ⟨behind, second⟩ := derives'.spellable (behind.keyword (by decide))
  have stepped : Spellable (.keyword "STEP" :: step.phrase) :=
    (steps behind).keyword (by decide) (by decide)
  have limited : Spellable (.keyword "TO" :: (limit.phrase ++ .keyword "STEP" :: step.phrase)) :=
    (second _ stepped).keyword (by decide) (by decide)
  exact (((first _ limited).cons equals nofun).cons writable nofun).keyword (by decide) (by decide)

/-- **The words of a statement that was read can be written.** -/
theorem Parser.Sentence.spellable {words rest : List Lexeme} {node : Node}
    (derives : Sentence words node) (remains : Remains (words ++ rest)) :
    Spellable node.words := by
  induction derives generalizing rest with
  | print items =>
    have behind := remains.keyword (by decide)
    exact (items.spellable behind).keyword (by decide) (by decide)
  | assign name derives => exact spellable_assign derives remains
  | letAssign name derives => exact spellable_assign derives (remains.keyword (by decide))
  | input asks name =>
    simp only [List.cons_append, List.append_assoc] at remains
    have behind := remains.keyword (by decide)
    have writable := ((asks.spellable behind spellable_nil).1.uncons (isPlain_identifier _)).1
    have last := spellable_nil.cons writable nofun
    exact (asks.spellable behind last).2.keyword (by decide) (by decide)
  | ifLine derives isNumber =>
    simp only [List.cons_append, List.append_assoc] at remains
    refine spellable_if derives remains fun left => ?_
    have writable := (left.uncons (isPlain_number _)).1
    exact (spellable_nil.cons (writable_lineNumber writable isNumber) nofun).keyword
      (by decide) (by decide)
  | ifThen derives guarded hypothesis =>
    simp only [List.cons_append, List.append_assoc] at remains
    exact spellable_if derives remains hypothesis
  | goto isNumber =>
    have behind := remains.keyword (by decide)
    have writable := (behind.uncons (isPlain_number _)).1
    exact (spellable_nil.cons (writable_lineNumber writable isNumber) nofun).keyword
      (by decide) (by decide)
  | forLoop name derives derives' =>
    simp only [List.cons_append, List.append_assoc] at remains
    have few : 1 < 10 ^ digitLimit := Nat.one_lt_pow (by decide) (by decide)
    have step : Spellable Node.unitStep.phrase := spellable_nil.cons ⟨_, .integer few⟩ nofun
    exact spellable_for derives derives' remains fun _ => step
  | forStep name derives derives' derives'' =>
    simp only [List.cons_append, List.append_assoc] at remains
    refine spellable_for derives derives' remains fun left => ?_
    have whole := (derives''.spellable (left.keyword (by decide))).2 [] spellable_nil
    rwa [List.append_nil] at whole
  | next => exact spellable_nil.keyword (by decide) (by decide)
  | nextNamed name =>
    have behind := remains.keyword (by decide)
    have writable := (behind.uncons (isPlain_identifier _)).1
    exact (spellable_nil.cons writable nofun).keyword (by decide) (by decide)
  | remark => exact spellable_opening
  | remarkText text =>
    rw [Node.words]
    split
    · exact spellable_opening
    · exact spellable_remark remains
  | list range =>
    have behind := remains.keyword (by decide)
    exact (range.spellable behind).keyword (by decide) (by decide)
  | stop => exact spellable_nil.keyword (by decide) (by decide)
  | run => exact spellable_nil.keyword (by decide) (by decide)
  | new => exact spellable_nil.keyword (by decide) (by decide)
  | home => exact spellable_nil.keyword (by decide) (by decide)

/-- The words of a line that was read can be written. -/
theorem Parser.Line.spellable {words rest : List Lexeme} {node : Node} (derives : Line words node)
    (remains : Remains (words ++ rest)) : Spellable node.words := by
  cases derives with
  | empty => exact spellable_nil
  | bareNumber isNumber =>
    have writable := (remains.uncons (isPlain_number _)).1
    exact spellable_nil.cons (writable_lineNumber writable isNumber) nofun
  | numbered isNumber derives =>
    obtain ⟨writable, behind⟩ := remains.uncons (isPlain_number _)
    exact (derives.spellable behind).cons (writable_lineNumber writable isNumber) nofun
  | immediate derives => exact derives.spellable remains

/-! ### The round trip -/

/-- **A line is read as its tree, however it is written.** -/
theorem line_spelled {words : List Lexeme} {node : Node} {text : String}
    (derives : Line words node) (spells : Spells words text.toList) :
    ∃ read, tokens text = .ok read ∧ Parser.line read = .ok node := by
  obtain ⟨read, isRead, same⟩ := tokens_spelled spells
  rw [String.ofList_toList] at isRead
  obtain ⟨taken, last, rfl, isWords, isLast⟩ := List.map_eq_append_iff.mp same
  refine ⟨_, isRead, line_complete (isWords ▸ derives) ?_⟩
  cases last with
  | nil => cases isLast
  | cons token others =>
    have first : token.lexeme = .endOfLine := (List.cons.inj isLast).1
    rw [atEnd, first]
    rfl

/-- **The texts that a tree is written as.** -/
def Node.Unparsed (node : Node) (text : String) : Prop :=
  Spells node.words text.toList

/-- **The tree of a line can be written as text, and each text it is written as is read as that
tree.** -/
theorem line_round_trip {line : String} {read : List Token} {node : Node}
    (isRead : tokens line = .ok read) (parsed : Parser.line read = .ok node) :
    (∃ text, node.Unparsed text) ∧
      ∀ text, node.Unparsed text →
        ∃ again, tokens text = .ok again ∧ Parser.line again = .ok node := by
  have native : Native read := fun token member => (native_of_tokens isRead token member).1
  obtain ⟨taken, rest, shape, derives⟩ := line_sound native parsed
  constructor
  · have remains : Remains (read.map Token.lexeme) := spelled_of_tokens isRead
    rw [shape, List.map_append] at remains
    obtain ⟨text, spells⟩ := derives.spellable remains
    exact ⟨String.ofList text, by rwa [Node.Unparsed, String.toList_ofList]⟩
  · intro text unparsed
    exact line_spelled (line_words (wellFormed_of_line derives)) unparsed

/-- A sum under a minus sign is read, written and read again. -/
theorem line_round_trip_print :
    ∃ read node, tokens "10 PRINT -(1+2)*A;" = .ok read ∧ Parser.line read = .ok node ∧
      (∃ text, node.Unparsed text) ∧
        ∀ text, node.Unparsed text →
          ∃ again, tokens text = .ok again ∧ Parser.line again = .ok node := by
  have isRead : tokens "10 PRINT -(1+2)*A;" = .ok
      [⟨.number (.int 10), 0⟩, ⟨.keyword "PRINT", 3⟩, ⟨.operator "-", 9⟩, ⟨.punctuation "(", 10⟩,
        ⟨.number (.int 1), 11⟩, ⟨.operator "+", 12⟩, ⟨.number (.int 2), 13⟩,
        ⟨.punctuation ")", 14⟩, ⟨.operator "*", 15⟩, ⟨.identifier "A", 16⟩,
        ⟨.punctuation ";", 17⟩, ⟨.endOfLine, 18⟩] := by
    cbv
  have parsed : Parser.line
      [⟨.number (.int 10), 0⟩, ⟨.keyword "PRINT", 3⟩, ⟨.operator "-", 9⟩, ⟨.punctuation "(", 10⟩,
        ⟨.number (.int 1), 11⟩, ⟨.operator "+", 12⟩, ⟨.number (.int 2), 13⟩,
        ⟨.punctuation ")", 14⟩, ⟨.operator "*", 15⟩, ⟨.identifier "A", 16⟩,
        ⟨.punctuation ";", 17⟩, ⟨.endOfLine, 18⟩] =
      .ok (.programLine 10 (.print [.binary "*" (.unary "-" (.binary "+" (.number (.int 1))
        (.number (.int 2)))) (.named "A")] [";"])) := by
    cbv
  exact ⟨_, _, isRead, parsed, line_round_trip isRead parsed⟩

end LineBasic
