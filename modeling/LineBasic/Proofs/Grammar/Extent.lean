/-
**How far a line is read.**

A line is read as far as the grammar goes on with what comes next, and the rest is ignored. A
number goes on with a `LIST` and with its minus sign even if it is no line number, and some lines
have nothing ignored behind them: those without words, bare line numbers, and those that end in a
`PRINT` or in one of its separators.

* `Continues`, `NeedsEnd` — where the grammar goes on, and where it has to end;
* `claims_iff` — what a line claims is what it goes on with, or all that comes where it has to end;
* `line_iff` — the lines that are read, and their trees;
* `line_congr` — the tree of a line does not depend on the columns of its tokens.
-/

import LineBasic.Proofs.Grammar.Sentence

namespace LineBasic.Parser

open Node (operatorsAt)

/-! ### Where the grammar goes on -/

/-- Whether a lexeme is a number, of whatever value. -/
def IsNumber (next : Lexeme) : Prop :=
  ∃ value, next = .number value

/-- Whether a line that ends in some lexeme goes on with any number. -/
def TakesNumber (last : Lexeme) : Prop :=
  last = .keyword "LIST" ∨ last = .operator "-"

/-- Whether the grammar goes on with a lexeme behind some words. -/
def Continues (words : List Lexeme) (next : Lexeme) : Prop :=
  (∃ others node, Line (words ++ next :: others) node) ∨
    (IsNumber next ∧ ∃ last, words.getLast? = some last ∧ TakesNumber last)

/-- Whether a line that ends in some lexeme goes on with an item of a `PRINT`. -/
def TakesItem (last : Lexeme) : Prop :=
  last = .keyword "PRINT" ∨ Separates last

/-- Whether nothing may be left behind some words. -/
def NeedsEnd (words : List Lexeme) : Prop :=
  words = [] ∨ (∃ value, words = [.number value]) ∨
    ∃ last, words.getLast? = some last ∧ TakesItem last

/-! ### Phrases -/

/-- A number is a phrase of every level. -/
theorem Phrase.atom (level : Nat) (value : Value) :
    Phrase level [.number value] (.number value) := by
  induction level with
  | zero => exact .number value
  | succ level hypothesis => exact hypothesis.tighter

/-- A phrase goes on with the operators of its level and of those that bind more tightly. -/
theorem Phrase.continued {level : Nat} {phrase : List Lexeme} {node : Node}
    (derives : Phrase level phrase node) {other : Nat} (within : other ≤ level) {symbol : String}
    (member : symbol ∈ operatorsAt other) (value : Value) :
    ∃ node', Phrase level (phrase ++ [.operator symbol, .number value]) node' := by
  have loosest : other = 0 → False := by
    rintro rfl
    cases member
  induction derives with
  | number => exact (loosest (Nat.le_zero.mp within)).elim
  | string => exact (loosest (Nat.le_zero.mp within)).elim
  | named => exact (loosest (Nat.le_zero.mp within)).elim
  | parenthesised => exact (loosest (Nat.le_zero.mp within)).elim
  | negated => exact (loosest (Nat.le_zero.mp within)).elim
  | @tighter level phrase node inner hypothesis =>
    rcases Nat.le_succ_iff.mp within with below | rfl
    · obtain ⟨node', derives⟩ := hypothesis below
      exact ⟨node', derives.tighter⟩
    · exact ⟨_, inner.tighter.joined member (.atom level value)⟩
  | @joined level symbol' first second left right ahead member' behind _ hypothesis =>
    rcases Nat.le_succ_iff.mp within with below | rfl
    · obtain ⟨node', derives⟩ := hypothesis below
      rw [List.append_assoc, List.cons_append]
      exact ⟨_, ahead.joined member' derives⟩
    · exact ⟨_, (ahead.joined member' behind).joined member (.atom level value)⟩

/-- An expression goes on with every operator. -/
theorem Phrase.joins {phrase : List Lexeme} {node : Node} (derives : Phrase 3 phrase node)
    {next : Lexeme} (joins : Joins next) :
    ∃ others node', Phrase 3 (phrase ++ next :: others) node' := by
  obtain ⟨level, within, symbol, member, rfl⟩ := joins
  exact ⟨_, derives.continued within member (.number (.int 1))⟩

/-- Whether a line that ends in some lexeme goes on with nothing for its sake. -/
def Closes (last : Lexeme) : Prop :=
  ¬TakesItem last ∧ ¬TakesNumber last

theorem closes_number (value : Value) : Closes (.number value) := by
  simp [Closes, TakesItem, Separates, TakesNumber]

theorem closes_string (text : String) : Closes (.string text) := by
  simp [Closes, TakesItem, Separates, TakesNumber]

theorem closes_identifier (name : String) : Closes (.identifier name) := by
  simp [Closes, TakesItem, Separates, TakesNumber]

theorem closes_mark {mark : String} (other : mark ∉ [";", ","]) : Closes (.punctuation mark) := by
  simpa [Closes, TakesItem, Separates, TakesNumber] using other

theorem closes_keyword {word : String} (other : word ∉ ["PRINT", "LIST"]) :
    Closes (.keyword word) := by
  simpa [Closes, TakesItem, Separates, TakesNumber] using other

/-- The last lexeme behind some others is the last of all. -/
theorem last_append {P : Lexeme → Prop} {words : List Lexeme} (front : List Lexeme)
    (ends : ∃ last, words.getLast? = some last ∧ P last) :
    ∃ last, (front ++ words).getLast? = some last ∧ P last := by
  obtain ⟨last, isLast, holds⟩ := ends
  refine ⟨last, ?_, holds⟩
  rw [List.getLast?_append, isLast]
  rfl

theorem last_cons {P : Lexeme → Prop} {words : List Lexeme} (first : Lexeme)
    (ends : ∃ last, words.getLast? = some last ∧ P last) :
    ∃ last, (first :: words).getLast? = some last ∧ P last :=
  last_append [first] ends

/-- A phrase ends in an operand or in a parenthesis. -/
theorem Phrase.lastWord {level : Nat} {phrase : List Lexeme} {node : Node}
    (derives : Phrase level phrase node) : ∃ last, phrase.getLast? = some last ∧ Closes last := by
  induction derives with
  | number => exact ⟨_, rfl, closes_number _⟩
  | string => exact ⟨_, rfl, closes_string _⟩
  | named => exact ⟨_, rfl, closes_identifier _⟩
  | parenthesised inner => exact last_cons _ (last_append _ ⟨_, rfl, closes_mark (by decide)⟩)
  | negated operand hypothesis => exact last_cons _ hypothesis
  | tighter inner hypothesis => exact hypothesis
  | joined ahead member behind _ hypothesis => exact last_append _ (last_cons _ hypothesis)

/-! ### The items of a `PRINT` -/

section Items

variable {words : List Lexeme} {items : List Node} {separators : List String}

/-- The words of a `PRINT` end in an item, or another item may begin behind them. -/
theorem Items.lastWord (derives : Items words items separators) :
    (items.length = separators.length ∧
        (words = [] ∨ ∃ last, words.getLast? = some last ∧ Separates last)) ∨
      (items.length ≠ separators.length ∧ ∃ last, words.getLast? = some last ∧ Closes last) := by
  induction derives with
  | none => exact .inl ⟨rfl, .inl rfl⟩
  | last derives => exact .inr ⟨nofun, derives.lastWord⟩
  | @more phrase others item items separator separators derives separates rest hypothesis =>
    have separates' : Separates (.punctuation separator) := by
      rcases separates with rfl | rfl
      · exact .inl rfl
      · exact .inr rfl
    rcases hypothesis with ⟨even, ends⟩ | ⟨odd, ends⟩
    · refine .inl ⟨congrArg Nat.succ even, .inr (last_append _ ?_)⟩
      rcases ends with rfl | ends
      · exact ⟨_, rfl, separates'⟩
      · exact last_cons _ ends
    · exact .inr ⟨fun same => odd (Nat.succ_inj.mp same), last_append _ (last_cons _ ends)⟩

/-- Behind an item, the items of a `PRINT` go on with operators and with separators. -/
theorem Items.continued (derives : Items words items separators)
    (odd : items.length ≠ separators.length) {next : Lexeme}
    (goesOn : Joins next ∨ Separates next) :
    ∃ others items' separators', Items (words ++ next :: others) items' separators' := by
  induction derives with
  | none => exact absurd rfl odd
  | last derives =>
    rcases goesOn with joins | rfl | rfl
    · obtain ⟨others, node, derives'⟩ := derives.joins joins
      exact ⟨others, _, _, .last derives'⟩
    · exact ⟨[], _, _, .more derives (.inl rfl) .none⟩
    · exact ⟨[], _, _, .more derives (.inr rfl) .none⟩
  | more derives separates rest hypothesis =>
    obtain ⟨others, items', separators', derives'⟩ :=
      hypothesis fun same => odd (congrArg Nat.succ same)
    simp only [List.append_assoc, List.cons_append]
    exact ⟨others, _, _, .more derives separates derives'⟩

end Items

/-! ### Statements -/

/-- Whether a line that ends in some lexeme claims the one that comes next, whatever it is
about. -/
def LeavesOpen (next last : Lexeme) : Prop :=
  TakesItem last ∨ (IsNumber next ∧ TakesNumber last)

theorem not_closes_of_leavesOpen {next last : Lexeme} (leaves : LeavesOpen next last) :
    ¬Closes last := by
  rintro ⟨noItem, noNumber⟩
  exact leaves.elim noItem fun taken => noNumber taken.2

section Statements

variable {words : List Lexeme} {node : Node} {next : Lexeme}

/-- **What a statement claims, it goes on with**, unless its last word claims it. -/
theorem Sentence.continued (derives : Sentence words node) (claimed : Claims words node next) :
    (∃ last, words.getLast? = some last ∧ LeavesOpen next last) ∨
      ∃ others node', Sentence (words ++ next :: others) node' := by
  induction derives with
  | print derives =>
    rcases derives.lastWord with ⟨_, rfl | ⟨last, isLast, separates⟩⟩ | ⟨odd, _⟩
    · exact .inl ⟨_, rfl, .inl (.inl rfl)⟩
    · exact .inl (last_cons _ ⟨last, isLast, .inl (.inr separates)⟩)
    · obtain ⟨others, items', separators', derives'⟩ :=
        derives.continued odd (claimed.resolve_left odd)
      exact .inr ⟨others, _, .print derives'⟩
  | assign name derives =>
    obtain ⟨others, node', derives'⟩ := derives.joins claimed
    exact .inr ⟨others, _, .assign name derives'⟩
  | letAssign name derives =>
    obtain ⟨others, node', derives'⟩ := derives.joins claimed
    exact .inr ⟨others, _, .letAssign name derives'⟩
  | input => exact claimed.elim
  | ifLine => exact claimed.elim
  | ifThen derives guarded hypothesis =>
    rw [claims_guarded derives guarded.ne_nil] at claimed
    rcases hypothesis claimed with ends | ⟨others, node', guarded'⟩
    · exact .inl (last_cons _ (last_append _ (last_cons _ ends)))
    · simp only [List.append_assoc, List.cons_append]
      exact .inr ⟨others, _, .ifThen derives guarded'⟩
  | goto => exact claimed.elim
  | forLoop name derives derives' =>
    simp only [List.append_assoc, List.cons_append]
    rcases claimed with joins | ⟨rfl, _⟩
    · obtain ⟨others, node', more⟩ := derives'.joins joins
      exact .inr ⟨others, _, .forLoop name derives more⟩
    · exact .inr ⟨[.number (.number (.int 1))], _, .forStep name derives derives' (.atom 3 _)⟩
  | forStep name derives derives' derives'' =>
    simp only [List.append_assoc, List.cons_append]
    rcases claimed with joins | ⟨_, noStep⟩
    · obtain ⟨others, node', more⟩ := derives''.joins joins
      exact .inr ⟨others, _, .forStep name derives derives' more⟩
    · exact absurd (by simp) noStep
  | next =>
    obtain ⟨name, rfl⟩ := claimed
    exact .inr ⟨[], _, .nextNamed name⟩
  | nextNamed => exact claimed.elim
  | remark =>
    obtain ⟨⟨text, rfl⟩, _⟩ := claimed
    exact .inr ⟨[], _, .remarkText text⟩
  | remarkText => exact nomatch claimed.2
  | list range =>
    cases range with
    | all =>
      rcases claimed with ⟨isNumber, _⟩ | ⟨rfl, _⟩
      · exact .inl ⟨_, rfl, .inr ⟨isNumber, .inl rfl⟩⟩
      · exact .inr ⟨[.number (.number (.int 1))], _, .list (.below rfl)⟩
    | one number =>
      rcases claimed with ⟨_, noNumber⟩ | ⟨rfl, _⟩
      · exact absurd rfl (noNumber _)
      · exact .inr ⟨[], _, .list (.above number)⟩
    | above number =>
      rcases claimed with ⟨isNumber, _⟩ | ⟨_, noMinus⟩
      · exact .inl ⟨_, rfl, .inr ⟨isNumber, .inr rfl⟩⟩
      · exact absurd rfl noMinus
    | between => exact claimed.elim
    | below => exact claimed.elim
  | stop => exact claimed.elim
  | run => exact claimed.elim
  | new => exact claimed.elim
  | home => exact claimed.elim

/-- What the last word of a statement claims is claimed. -/
theorem Sentence.claims_of_last (derives : Sentence words node) {last : Lexeme}
    (isLast : words.getLast? = some last) (leaves : LeavesOpen next last) :
    Claims words node next := by
  -- where the words end in a phrase, the last one claims nothing
  have shut : ∀ {claims : Prop},
      (∃ other, words.getLast? = some other ∧ Closes other) → claims := by
    rintro claims ⟨other, isOther, closes⟩
    obtain rfl : other = last := Option.some.inj (isOther.symm.trans isLast)
    exact absurd closes (not_closes_of_leavesOpen leaves)
  induction derives with
  | print derives =>
    rcases derives.lastWord with ⟨even, _⟩ | ⟨_, ends⟩
    · exact .inl even
    · exact shut (last_cons _ ends)
  | assign name derives => exact shut (last_append [_, _] derives.lastWord)
  | letAssign name derives => exact shut (last_append [_, _, _] derives.lastWord)
  | input => exact shut (last_cons _ (last_append _ ⟨_, rfl, closes_identifier _⟩))
  | ifLine => exact shut (last_cons _ (last_append _ ⟨_, rfl, closes_number _⟩))
  | @ifThen phrase words condition statement derives guarded hypothesis =>
    rw [claims_guarded derives guarded.ne_nil]
    have same : (.keyword "IF" :: (phrase ++ .keyword "THEN" :: words)).getLast? =
        words.getLast? := by
      have shape : .keyword "IF" :: (phrase ++ .keyword "THEN" :: words) =
          (.keyword "IF" :: (phrase ++ [.keyword "THEN"])) ++ words := by
        simp
      rw [shape]
      exact List.getLast?_append_of_ne_nil _ guarded.ne_nil
    rw [same] at isLast shut
    exact hypothesis isLast shut
  | goto => exact shut ⟨_, rfl, closes_number _⟩
  | forLoop name derives derives' =>
    exact shut (last_append [_, _, _] (last_append _ (last_cons _ derives'.lastWord)))
  | forStep name derives derives' derives'' =>
    exact shut (last_append [_, _, _] (last_append _ (last_cons _ (last_append _
      (last_cons _ derives''.lastWord)))))
  | nextNamed => exact shut ⟨_, rfl, closes_identifier _⟩
  | remarkText => exact shut ⟨_, rfl, closes_string _⟩
  | list range =>
    cases range with
    | all =>
      cases isLast
      obtain ⟨isNumber, _⟩ := leaves.resolve_left (by simp [TakesItem, Separates])
      exact .inl ⟨isNumber, nofun⟩
    | one => exact shut ⟨_, rfl, closes_number _⟩
    | above =>
      cases isLast
      obtain ⟨isNumber, _⟩ := leaves.resolve_left (by simp [TakesItem, Separates])
      exact .inl ⟨isNumber, nofun⟩
    | between => exact shut ⟨_, rfl, closes_number _⟩
    | below => exact shut ⟨_, rfl, closes_number _⟩
  | next => exact shut ⟨_, rfl, closes_keyword (by decide)⟩
  | remark => exact shut ⟨_, rfl, closes_keyword (by decide)⟩
  | stop => exact shut ⟨_, rfl, closes_keyword (by decide)⟩
  | run => exact shut ⟨_, rfl, closes_keyword (by decide)⟩
  | new => exact shut ⟨_, rfl, closes_keyword (by decide)⟩
  | home => exact shut ⟨_, rfl, closes_keyword (by decide)⟩

/-- Tokens that spell some words, all of column 0. -/
def spelling (words : List Lexeme) : List Token :=
  words.map fun lexeme => ⟨lexeme, 0⟩

@[simp] theorem map_spelling (words : List Lexeme) : (spelling words).map Token.lexeme = words := by
  rw [spelling, List.map_map]
  exact List.map_id words

/-- A statement claims what a longer statement goes on with. -/
theorem Sentence.claims_of_continued (derives : Sentence words node) {others : List Lexeme}
    {node' : Node} (more : Sentence (words ++ next :: others) node') : Claims words node next := by
  by_contra unclaimed
  have stops : statement (spelling words ++ spelling (next :: others)) =
      .ok (node, spelling (next :: others)) :=
    statement_complete derives _ (map_spelling words) fun _ => unclaimed
  have whole : statement (spelling (words ++ next :: others) ++ []) = .ok (node', []) :=
    statement_complete more _ (map_spelling _) trivial
  have same : spelling (words ++ next :: others) ++ [] =
      spelling words ++ spelling (next :: others) := by
    simp [spelling]
  rw [same, stops] at whole
  cases whole

end Statements

/-! ### Lines -/

section Lines

variable {words others : List Lexeme} {node : Node} {next : Lexeme}

/-- Only numbered lines start with a number. -/
theorem Line.of_number {value : Value} (derives : Line (.number value :: words) node)
    (some : words ≠ []) :
    ∃ number statement, toLineNumber value = .ok number ∧ Sentence words statement ∧
      node = .programLine number statement := by
  cases derives with
  | bareNumber => exact absurd rfl some
  | numbered isNumber derives => exact ⟨_, _, isNumber, derives, rfl⟩
  | immediate derives =>
    obtain ⟨first, others, shape, ⟨word, rfl⟩ | ⟨name, rfl⟩⟩ := derives.start <;> cases shape

/-- Only statements start with anything else. -/
theorem Line.of_sentence {statement : Node} (starts : Sentence words statement)
    (derives : Line (words ++ others) node) : Sentence (words ++ others) node := by
  obtain ⟨first, rest, rfl, isFirst⟩ := starts.start
  generalize shape : first :: rest ++ others = whole at derives
  cases derives with
  | empty => cases shape
  | bareNumber =>
    obtain ⟨rfl, _⟩ := List.cons.inj shape
    simp at isFirst
  | numbered =>
    cases shape
    simp at isFirst
  | immediate derives => exact derives

/-- **What a line claims is what the grammar goes on with behind it**, and all that comes where
nothing may be left behind. -/
theorem claims_iff (derives : Line words node) (next : Lexeme) :
    Claims words node next ↔ NeedsEnd words ∨ Continues words next := by
  -- the last word of a statement, which may stand behind a line number
  have ofLast : ∀ {words : List Lexeme},
      (∃ last, words.getLast? = some last ∧ LeavesOpen next last) →
        NeedsEnd words ∨ Continues words next := by
    rintro words ⟨last, isLast, takesItem | ⟨isNumber, takesNumber⟩⟩
    · exact .inl (.inr (.inr ⟨last, isLast, takesItem⟩))
    · exact .inr (.inr ⟨isNumber, last, isLast, takesNumber⟩)
  cases derives with
  | empty => exact ⟨fun _ => .inl (.inl rfl), fun _ => trivial⟩
  | bareNumber => exact ⟨fun _ => .inl (.inr (.inl ⟨_, rfl⟩)), fun _ => trivial⟩
  | @numbered words value number statement isNumber derives =>
    have noStep : .keyword "STEP" ∉ [Lexeme.number value] := by
      simp
    have same : Claims (.number value :: words) (.programLine number statement) next =
        Claims words statement next :=
      congrFun (claims_append noStep derives.ne_nil statement) next
    have last : (Lexeme.number value :: words).getLast? = words.getLast? :=
      List.getLast?_append_of_ne_nil [Lexeme.number value] derives.ne_nil
    rw [same]
    constructor
    · intro claimed
      rcases derives.continued claimed with ends | ⟨others, node', more⟩
      · exact ofLast (last_cons _ ends)
      · exact .inr (.inl ⟨others, _, .numbered isNumber more⟩)
    · rintro ((impossible | ⟨_, shape⟩ | ⟨ending, isLast, takesItem⟩) |
        (⟨others, node', more⟩ | ⟨numbered, ending, isLast, takesNumber⟩))
      · cases impossible
      · exact absurd (List.cons.inj shape).2 derives.ne_nil
      · exact derives.claims_of_last (last ▸ isLast) (.inl takesItem)
      · obtain ⟨_, _, _, more', _⟩ := Line.of_number more (by simp)
        exact derives.claims_of_continued more'
      · exact derives.claims_of_last (last ▸ isLast) (.inr ⟨numbered, takesNumber⟩)
  | immediate derives =>
    constructor
    · intro claimed
      rcases derives.continued claimed with ends | ⟨others, node', more⟩
      · exact ofLast ends
      · exact .inr (.inl ⟨others, _, .immediate more⟩)
    · rintro ((rfl | ⟨value, rfl⟩ | ⟨ending, isLast, takesItem⟩) |
        (⟨others, node', more⟩ | ⟨numbered, ending, isLast, takesNumber⟩))
      · exact absurd rfl derives.ne_nil
      · obtain ⟨first, others, shape, ⟨word, rfl⟩ | ⟨name, rfl⟩⟩ := derives.start <;> cases shape
      · exact derives.claims_of_last isLast (.inl takesItem)
      · exact derives.claims_of_continued (Line.of_sentence derives more)
      · exact derives.claims_of_last isLast (.inr ⟨numbered, takesNumber⟩)

end Lines

/-! ### No end of the line within a line -/

section NoEnd

variable {words : List Lexeme} {node : Node} {lexeme : Lexeme}

theorem Phrase.noEnd {level : Nat} (derives : Phrase level words node) (held : lexeme ∈ words) :
    lexeme.isEnd = false := by
  induction derives <;> grind [Lexeme.isEnd]

theorem Items.noEnd {items : List Node} {separators : List String}
    (derives : Items words items separators) (held : lexeme ∈ words) : lexeme.isEnd = false := by
  induction derives with
  | none => cases held
  | last derives => exact derives.noEnd held
  | more derives separates rest hypothesis =>
    rcases List.mem_append.mp held with within | behind
    · exact derives.noEnd within
    · rcases List.mem_cons.mp behind with rfl | later
      · rfl
      · exact hypothesis later

theorem Prompt.noEnd {prompt : String} (asks : Prompt words prompt) (held : lexeme ∈ words) :
    lexeme.isEnd = false := by
  cases asks <;> grind [Lexeme.isEnd]

theorem Range.noEnd {first last : Option Int} (range : Range words first last)
    (held : lexeme ∈ words) : lexeme.isEnd = false := by
  cases range <;> grind [Lexeme.isEnd]

theorem Sentence.noEnd (derives : Sentence words node) (held : lexeme ∈ words) :
    lexeme.isEnd = false := by
  induction derives <;>
    grind [Lexeme.isEnd, Phrase.noEnd, Items.noEnd, Prompt.noEnd, Range.noEnd]

/-- A line holds no end of the line. -/
theorem Line.noEnd (derives : Line words node) (held : lexeme ∈ words) : lexeme.isEnd = false := by
  cases derives <;> grind [Lexeme.isEnd, Sentence.noEnd]

end NoEnd

/-! ### The lines that are read -/

/-- The tokens before the end of the line. -/
def beforeEnd (tokens : List Token) : List Token :=
  tokens.takeWhile fun token => !token.lexeme.isEnd

section Read

variable {tokens taken rest : List Token} {node : Node}

/-- The line ends behind the tokens before its end. -/
theorem atEnd_behind (tokens : List Token) :
    atEnd (tokens.dropWhile fun token => !token.lexeme.isEnd) = true := by
  induction tokens with
  | nil => rfl
  | cons token others hypothesis =>
    rw [List.dropWhile_cons]
    split
    · exact hypothesis
    · next isEnd =>
      rw [Bool.not_eq_true, Bool.not_eq_false'] at isEnd
      exact isEnd

/-- The words of a line stand before its end. -/
theorem beforeEnd_append (derives : Line (taken.map Token.lexeme) node) (rest : List Token) :
    beforeEnd (taken ++ rest) = taken ++ beforeEnd rest := by
  refine List.takeWhile_append_of_pos fun token member => ?_
  rw [derives.noEnd (List.mem_map_of_mem member)]
  rfl

/-- Whether what is left of some tokens behind the words of a line is ignored. -/
def Ignored (words : List Lexeme) (rest : List Token) : Prop :=
  rest = [] ∨ ∃ next others, rest = next :: others ∧ ¬NeedsEnd words ∧ ¬Continues words next.lexeme

/-- **The lines that are read, and their trees**: the tokens before the end of the line begin with
a line of the grammar that has this tree, and behind it nothing stands, or something with which
the grammar does not go on there. -/
theorem line_iff (native : Native tokens) (node : Node) :
    line tokens = .ok node ↔
      ∃ taken rest, beforeEnd tokens = taken ++ rest ∧ Line (taken.map Token.lexeme) node ∧
        Ignored (taken.map Token.lexeme) rest := by
  constructor
  · intro read
    obtain ⟨taken, rest, rfl, derives, unclaimed⟩ := line_reads native read
    refine ⟨taken, beforeEnd rest, beforeEnd_append derives rest, derives, ?_⟩
    rcases rest with _ | ⟨next, others⟩
    · exact .inl rfl
    · unfold beforeEnd
      rw [List.takeWhile_cons]
      split
      · next notEnd =>
        have free := unclaimed (Bool.not_eq_true' _ ▸ notEnd)
        rw [claims_iff derives, not_or] at free
        exact .inr ⟨next, _, rfl, free⟩
      · exact .inl rfl
  · rintro ⟨taken, rest, shape, derives, ignored⟩
    have whole : tokens = taken ++ (rest ++ tokens.dropWhile fun token => !token.lexeme.isEnd) := by
      rw [← List.append_assoc, ← shape, beforeEnd, List.takeWhile_append_dropWhile]
    rw [whole]
    refine line_accepted derives ?_
    rcases ignored with rfl | ⟨next, others, rfl, free⟩
    · exact unclaimed_of_atEnd (atEnd_behind tokens)
    · intro _ claimed
      exact ((claims_iff derives next.lexeme).mp claimed).elim free.1 free.2

/-- Behind `PRINT A` another name is ignored. -/
theorem line_iff_print :
    Native [⟨.keyword "PRINT", 0⟩, ⟨.identifier "A", 6⟩, ⟨.identifier "B", 8⟩, ⟨.endOfLine, 9⟩] ∧
      ∃ taken rest,
        beforeEnd [⟨.keyword "PRINT", 0⟩, ⟨.identifier "A", 6⟩, ⟨.identifier "B", 8⟩,
          ⟨.endOfLine, 9⟩] = taken ++ rest ∧
        Line (taken.map Token.lexeme) (.print [.named "A"] []) ∧
        Ignored (taken.map Token.lexeme) rest := by
  have native : Native [⟨.keyword "PRINT", 0⟩, ⟨.identifier "A", 6⟩, ⟨.identifier "B", 8⟩,
      ⟨.endOfLine, 9⟩] := by
    simp [Native]
  exact ⟨native, (line_iff native _).mp (by cbv)⟩

/-- The tree of a line does not depend on the columns of its tokens. -/
theorem line_congr {tokens' : List Token} (native : Native tokens)
    (same : tokens.map Token.lexeme = tokens'.map Token.lexeme) (read : line tokens = .ok node) :
    line tokens' = .ok node := by
  obtain ⟨taken, rest, rfl, derives, unclaimed⟩ := line_reads native read
  rw [List.map_append] at same
  obtain ⟨taken', rest', rfl, isTaken, isRest⟩ := List.map_eq_append_iff.mp same.symm
  rw [← isTaken] at derives unclaimed
  refine line_accepted derives ?_
  rcases rest' with _ | ⟨next', others'⟩
  · trivial
  · obtain ⟨next, others, rfl, isNext, _⟩ := List.map_eq_cons_iff.mp isRest.symm
    intro notEnd
    rw [← isNext] at notEnd ⊢
    exact unclaimed notEnd

end Read

/-! ### Ranges with both bounds left out -/

/-- A bound of a range, which may be left out. -/
inductive Bound : List Lexeme → Option Int → Prop where
  | none : Bound [] none
  | one {value : Value} {number : Int} (isNumber : toLineNumber value = .ok number) :
      Bound [.number value] (some number)

/-- The ranges in which each bound may be left out, also on both sides of the minus sign. -/
inductive LooseRange : List Lexeme → Option Int → Option Int → Prop where
  | first {words : List Lexeme} {first : Option Int} (bound : Bound words first) :
      LooseRange words first none
  | signed {words words' : List Lexeme} {first last : Option Int} (bound : Bound words first)
      (bound' : Bound words' last) :
      LooseRange (words ++ .operator "-" :: words') first last

/-- The lines, with a `LIST` of such a range. -/
inductive LooseLine : List Lexeme → Node → Prop where
  | line {words : List Lexeme} {node : Node} (derives : Line words node) : LooseLine words node
  | list {words : List Lexeme} {first last : Option Int} (range : LooseRange words first last) :
      LooseLine (.keyword "LIST" :: words) (.list first last)

/-- **A minus sign without a bound is refused**, and so is what cannot begin a line: it is not
ignored behind the line without words. -/
theorem loose_line_refused :
    ¬(∀ tokens node, Native tokens → LooseLine ((beforeEnd tokens).map Token.lexeme) node →
        line tokens = .ok node) ∧
      ¬(∀ tokens next others, Native tokens → beforeEnd tokens = next :: others →
        ¬Continues [] next.lexeme → line tokens = .ok .empty) := by
  constructor
  · intro accepts
    have read := accepts [⟨.keyword "LIST", 0⟩, ⟨.operator "-", 5⟩] (.list none none)
      (by simp [Native]) (.list (.signed .none .none))
    have refused : line [⟨.keyword "LIST", 0⟩, ⟨.operator "-", 5⟩] =
        .error (.expected "NUMBER" none "EOF") := by
      cbv
    rw [refused] at read
    cases read
  · intro accepts
    have noLine : ¬Continues [] (.punctuation ")") := by
      rintro (⟨others, node, derives⟩ | ⟨_, _, impossible, _⟩)
      · cases derives with
        | immediate derives =>
          obtain ⟨first, others, shape, ⟨word, rfl⟩ | ⟨name, rfl⟩⟩ := derives.start <;> cases shape
      · cases impossible
    have read := accepts [⟨.punctuation ")", 0⟩] _ _ (by simp [Native]) rfl noLine
    have refused : line [⟨.punctuation ")", 0⟩] = .error (.unexpectedToken "PUNCTUATION") := by
      cbv
    rw [refused] at read
    cases read

end LineBasic.Parser
