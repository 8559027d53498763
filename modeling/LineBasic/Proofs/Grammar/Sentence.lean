/-
**The grammar of statements and lines.**

A sentence is the spelling of one statement, a line that of nothing, of a statement, or of a line
number with a statement or nothing behind it. What the readers of statements accept are sentences
with their trees; behind a sentence the rest of the line is ignored.

* `Claims` — the lexemes behind a line that would not be ignored;
* `statement_sound`, `line_sound` — what is read is a sentence, and stands at the front;
* `statement_complete`, `line_complete` — a sentence is read whole, if what comes next is not
  claimed.
-/

import LineBasic.Proofs.Grammar.Phrase

namespace LineBasic.Parser

/-- The items of a `PRINT` with their separators. -/
inductive Items : List Lexeme → List Node → List String → Prop where
  | none : Items [] [] []
  | last {phrase : List Lexeme} {item : Node} (derives : Phrase 3 phrase item) :
      Items phrase [item] []
  | more {phrase others : List Lexeme} {item : Node} {items : List Node} {separator : String}
      {separators : List String} (derives : Phrase 3 phrase item)
      (separates : separator = ";" ∨ separator = ",") (rest : Items others items separators) :
      Items (phrase ++ .punctuation separator :: others) (item :: items) (separator :: separators)

/-- The prompt of an `INPUT`: a comma behind it belongs to it, a semicolon does not. -/
inductive Prompt : List Lexeme → String → Prop where
  | none : Prompt [] ""
  | alone (text : String) : Prompt [.string text] text
  | closed (text : String) : Prompt [.string text, .punctuation ";"] text
  | gapped (text : String) : Prompt [.string text, .punctuation ","] (text ++ ",")

/-- The range of a `LIST`. -/
inductive Range : List Lexeme → Option Int → Option Int → Prop where
  | all : Range [] none none
  | one {value : Value} {first : Int} (number : toLineNumber value = .ok first) :
      Range [.number value] (some first) none
  | above {value : Value} {first : Int} (number : toLineNumber value = .ok first) :
      Range [.number value, .operator "-"] (some first) none
  | between {value value' : Value} {first last : Int} (number : toLineNumber value = .ok first)
      (number' : toLineNumber value' = .ok last) :
      Range [.number value, .operator "-", .number value'] (some first) (some last)
  | below {value : Value} {last : Int} (number : toLineNumber value = .ok last) :
      Range [.operator "-", .number value] none (some last)

/-- The spellings of statements, with their trees. -/
inductive Sentence : List Lexeme → Node → Prop where
  | print {words : List Lexeme} {items : List Node} {separators : List String}
      (derives : Items words items separators) :
      Sentence (.keyword "PRINT" :: words) (.print items separators)
  | assign {phrase : List Lexeme} {value : Node} (name : String)
      (derives : Phrase 3 phrase value) :
      Sentence (.identifier name :: .operator "=" :: phrase) (.assign name value)
  | letAssign {phrase : List Lexeme} {value : Node} (name : String)
      (derives : Phrase 3 phrase value) :
      Sentence (.keyword "LET" :: .identifier name :: .operator "=" :: phrase) (.assign name value)
  | input {words : List Lexeme} {prompt : String} (asks : Prompt words prompt) (name : String) :
      Sentence (.keyword "INPUT" :: (words ++ [.identifier name])) (.input prompt name)
  | ifLine {phrase : List Lexeme} {condition : Node} {value : Value} {line : Int}
      (derives : Phrase 3 phrase condition) (number : toLineNumber value = .ok line) :
      Sentence (.keyword "IF" :: (phrase ++ [.keyword "THEN", .number value]))
        (.ifThen condition (.goto line))
  | ifThen {phrase words : List Lexeme} {condition statement : Node}
      (derives : Phrase 3 phrase condition) (guarded : Sentence words statement) :
      Sentence (.keyword "IF" :: (phrase ++ .keyword "THEN" :: words))
        (.ifThen condition statement)
  | goto {value : Value} {line : Int} (number : toLineNumber value = .ok line) :
      Sentence [.keyword "GOTO", .number value] (.goto line)
  | forLoop {phrase phrase' : List Lexeme} {start limit : Node} (name : String)
      (derives : Phrase 3 phrase start) (derives' : Phrase 3 phrase' limit) :
      Sentence (.keyword "FOR" :: .identifier name :: .operator "=" ::
        (phrase ++ .keyword "TO" :: phrase')) (.forLoop name start limit Node.unitStep)
  | forStep {phrase phrase' phrase'' : List Lexeme} {start limit step : Node} (name : String)
      (derives : Phrase 3 phrase start) (derives' : Phrase 3 phrase' limit)
      (derives'' : Phrase 3 phrase'' step) :
      Sentence (.keyword "FOR" :: .identifier name :: .operator "=" ::
        (phrase ++ .keyword "TO" :: (phrase' ++ .keyword "STEP" :: phrase'')))
        (.forLoop name start limit step)
  | next : Sentence [.keyword "NEXT"] (.next none)
  | nextNamed (name : String) : Sentence [.keyword "NEXT", .identifier name] (.next (some name))
  | remark : Sentence [.keyword "REM"] (.remark "")
  | remarkText (text : String) : Sentence [.keyword "REM", .string text] (.remark text)
  | list {words : List Lexeme} {first last : Option Int} (range : Range words first last) :
      Sentence (.keyword "LIST" :: words) (.list first last)
  | stop : Sentence [.keyword "END"] .stop
  | run : Sentence [.keyword "RUN"] .run
  | new : Sentence [.keyword "NEW"] .new
  | home : Sentence [.keyword "HOME"] .home

/-- The spellings of lines, with their trees. -/
inductive Line : List Lexeme → Node → Prop where
  | empty : Line [] .empty
  | bareNumber {value : Value} {number : Int} (isNumber : toLineNumber value = .ok number) :
      Line [.number value] (.programLine number .empty)
  | numbered {words : List Lexeme} {value : Value} {number : Int} {statement : Node}
      (isNumber : toLineNumber value = .ok number) (derives : Sentence words statement) :
      Line (.number value :: words) (.programLine number statement)
  | immediate {words : List Lexeme} {statement : Node} (derives : Sentence words statement) :
      Line words statement

/-! ### What may come behind a line -/

/-- Whether a lexeme joins operands. -/
def Joins (next : Lexeme) : Prop :=
  ∃ level ≤ 3, ∃ symbol ∈ Node.operatorsAt level, next = .operator symbol

/-- Whether a lexeme separates the items of a `PRINT`. -/
def Separates (next : Lexeme) : Prop :=
  next = .punctuation ";" ∨ next = .punctuation ","

/-- Whether the items of a `PRINT` claim the lexeme that comes next. Where an item may begin, they
claim every lexeme. -/
def ItemsClaim (items : List Node) (separators : List String) (next : Lexeme) : Prop :=
  items.length = separators.length ∨ Joins next ∨ Separates next

/-- Whether a line of some words claims the lexeme that comes next. What is claimed is read, even
if the line cannot go on with it; anything else is ignored. -/
def Claims (words : List Lexeme) : Node → Lexeme → Prop
  | .empty, _ => True
  | .programLine _ statement, next => Claims words statement next
  | .print items separators, next => ItemsClaim items separators next
  | .assign _ _, next => Joins next
  | .ifThen _ statement, next => Claims words statement next
  | .forLoop _ _ _ _, next => Joins next ∨ (next = .keyword "STEP" ∧ .keyword "STEP" ∉ words)
  | .next none, next => ∃ name, next = .identifier name
  | .remark _, next => (∃ text, next = .string text) ∧ words.getLast? = some (.keyword "REM")
  | .list _ none, next =>
    ((∃ value, next = .number value) ∧ ∀ value, words.getLast? ≠ some (.number value)) ∨
      (next = .operator "-" ∧ words.getLast? ≠ some (.operator "-"))
  | _, _ => False

/-- The words before a statement claim nothing for it. -/
theorem claims_append {front words : List Lexeme} (noStep : .keyword "STEP" ∉ front)
    (some : words ≠ []) (node : Node) : Claims (front ++ words) node = Claims words node := by
  have last : (front ++ words).getLast? = words.getLast? :=
    List.getLast?_append_of_ne_nil front some
  match node with
  | .programLine _ statement =>
    funext next
    exact congrFun (claims_append noStep some statement) next
  | .ifThen _ statement =>
    funext next
    exact congrFun (claims_append noStep some statement) next
  | .forLoop _ _ _ _ =>
    funext next
    simp [Claims, noStep]
  | .remark _ =>
    funext next
    simp only [Claims, last]
  | .list _ none =>
    funext next
    simp only [Claims, last]
  | .list _ (.some _) => rfl
  | .next none => rfl
  | .next (.some _) => rfl
  | .empty => rfl
  | .print _ _ => rfl
  | .assign _ _ => rfl
  | .number _ => rfl
  | .string _ => rfl
  | .named _ => rfl
  | .binary _ _ _ => rfl
  | .unary _ _ => rfl
  | .input _ _ => rfl
  | .goto _ => rfl
  | .stop => rfl
  | .run => rfl
  | .new => rfl
  | .home => rfl
  | .bare => rfl

/-- Some tokens end the line, or go on with a lexeme that is not claimed. -/
def Unclaimed (claims : Lexeme → Prop) : List Token → Prop
  | [] => True
  | token :: _ => token.lexeme.isEnd = false → ¬claims token.lexeme

section Unclaimed

variable {claims others : Lexeme → Prop} {rest : List Token}

/-- Nothing is claimed at the end of the line. -/
theorem unclaimed_of_atEnd (ended : atEnd rest = true) : Unclaimed claims rest := by
  cases rest with
  | nil => trivial
  | cons token rest =>
    intro notEnd
    rw [atEnd, notEnd] at ended
    cases ended

/-- Where every lexeme is claimed, the line has to end. -/
theorem atEnd_of_unclaimed (unclaimed : Unclaimed claims rest) (all : ∀ next, claims next) :
    atEnd rest = true := by
  cases rest with
  | nil => rfl
  | cons token rest =>
    by_contra goesOn
    exact unclaimed (Bool.not_eq_true _ ▸ goesOn) (all _)

/-- Where no lexeme is claimed, anything may come. -/
theorem unclaimed_of_not (nothing : ∀ next, ¬claims next) : Unclaimed claims rest := by
  cases rest with
  | nil => trivial
  | cons token rest => exact fun _ => nothing _

theorem Unclaimed.mono (unclaimed : Unclaimed claims rest)
    (fewer : ∀ next, others next → claims next) :
    Unclaimed others rest := by
  cases rest with
  | nil => trivial
  | cons token rest => exact fun notEnd claimed => unclaimed notEnd (fewer _ claimed)

theorem Unclaimed.or (unclaimed : Unclaimed claims rest) (unclaimed' : Unclaimed others rest) :
    Unclaimed (fun next => claims next ∨ others next) rest := by
  cases rest with
  | nil => trivial
  | cons token rest =>
    intro notEnd claimed
    exact claimed.elim (unclaimed notEnd) (unclaimed' notEnd)

/-- Operands end where no operator is claimed. -/
theorem ends_iff : Ends 3 rest ↔ Unclaimed Joins rest := by
  cases rest with
  | nil => exact ⟨fun _ => trivial, fun _ _ _ starts => starts⟩
  | cons token rest =>
    constructor
    · rintro ends - ⟨level, within, symbol, member, same⟩
      refine ends level within ?_
      obtain ⟨lexeme, column⟩ := token
      cases same
      exact member
    · intro unclaimed level within starts
      obtain ⟨symbol, column, others, same, member⟩ := cons_of_startsWith starts
      cases same
      exact unclaimed rfl ⟨level, within, symbol, member, rfl⟩

/-- Items end where no separator is claimed. -/
theorem separator?_iff : separator? rest = none ↔ Unclaimed Separates rest := by
  cases rest with
  | nil => exact ⟨fun _ => trivial, fun _ => rfl⟩
  | cons token rest =>
    obtain ⟨lexeme, column⟩ := token
    unfold separator? Unclaimed Separates
    by_cases semicolon : lexeme = .punctuation ";"
    · simp [semicolon, Lexeme.isEnd]
    · by_cases comma : lexeme = .punctuation ","
      · simp [comma, Lexeme.isEnd]
      · simp [semicolon, comma]

end Unclaimed

/-! ### What is read is a sentence -/

/-- What follows a step that gave a result. -/
theorem bind_ok {Reason First Result : Type} {first : Except Reason First}
    {behind : First → Except Reason Result} {result : Result}
    (done : first >>= behind = .ok result) :
    ∃ value, first = .ok value ∧ behind value = .ok result := by
  cases first with
  | error reason => cases done
  | ok value => exact ⟨value, rfl, done⟩

section Sound

variable {tokens : List Token}

theorem expression_sound {node : Node} {rest : Rest tokens} (native : Native tokens)
    (read : expression tokens = .ok (node, rest)) : ReadAs 3 tokens node rest.1 :=
  chain_sound 3 tokens native (congrArg plain read)

theorem expression_unclaimed {node : Node} {rest : Rest tokens}
    (read : expression tokens = .ok (node, rest)) : Unclaimed Joins rest.1 :=
  ends_iff.mp (chain_ends (congrArg plain read))

theorem expectName_sound {name : String} {rest : Rest tokens}
    (read : expectName tokens = .ok (name, rest)) :
    ∃ column, tokens = ⟨.identifier name, column⟩ :: rest.1 := by
  unfold expectName at read
  split at read
  · cases read
    exact ⟨_, rfl⟩
  · cases read

theorem lineNumber_sound {number : Int} {rest : Rest tokens}
    (read : lineNumber tokens = .ok (number, rest)) :
    ∃ value column, tokens = ⟨.number value, column⟩ :: rest.1 ∧
      toLineNumber value = .ok number := by
  unfold lineNumber at read
  split at read
  · next value column others =>
    cases isNumber : toLineNumber value with
    | error reason =>
      rw [isNumber] at read
      cases read
    | ok n =>
      rw [isNumber] at read
      cases read
      exact ⟨value, column, rfl, isNumber⟩
  · cases read

theorem separator_sound {separator : String} {rest : Rest tokens}
    (found : separator? tokens = some (separator, rest)) :
    (separator = ";" ∨ separator = ",") ∧
      ∃ column, tokens = ⟨.punctuation separator, column⟩ :: rest.1 := by
  unfold separator? at found
  split at found
  · cases found
  · next token others =>
    obtain ⟨lexeme, column⟩ := token
    split at found
    · next same =>
      cases found
      cases same
      exact ⟨.inl rfl, column, rfl⟩
    · split at found
      · next same =>
        cases found
        cases same
        exact ⟨.inr rfl, column, rfl⟩
      · cases found

theorem printItems_sound (tokens : List Token) (native : Native tokens) {items : List Node}
    {separators : List String} {rest : List Token}
    (read : printItems tokens = .ok (items, separators, rest)) :
    ∃ taken, tokens = taken ++ rest ∧ Items (taken.map Token.lexeme) items separators ∧
      Unclaimed (ItemsClaim items separators) rest := by
  rw [printItems] at read
  split at read
  · next ended =>
    cases read
    exact ⟨[], rfl, .none, unclaimed_of_atEnd ended⟩
  · rcases first : expression tokens with reason | ⟨item, ⟨after, shorter⟩⟩
    all_goals rw [first] at read
    · cases read
    · obtain ⟨taken, shape, phrase⟩ : ReadAs 3 tokens item after := expression_sound native first
      have nativeAfter : Native after := (shape ▸ native).rest
      simp only at read
      rcases found : separator? after with none | ⟨separator, ⟨others, shorter'⟩⟩
      all_goals rw [found] at read
      · cases read
        refine ⟨taken, shape, .last phrase, ?_⟩
        refine ((expression_unclaimed first).or (separator?_iff.mp found)).mono
          fun next claimed => ?_
        exact claimed.resolve_left (by rintro ⟨⟩)
      · obtain ⟨separates, column, shape'⟩ := separator_sound found
        simp only at read shape'
        have nativeOthers : Native others := (shape' ▸ nativeAfter).tail
        rcases more : printItems others with reason | ⟨items', separators', last⟩
        all_goals rw [more] at read
        · cases read
        · obtain ⟨taken', shape'', derives, unclaimed⟩ := printItems_sound others nativeOthers more
          cases read
          refine ⟨taken ++ ⟨.punctuation separator, column⟩ :: taken', ?_, ?_, ?_⟩
          · rw [shape, shape', shape'']
            simp
          · rw [List.map_append, List.map_cons]
            exact .more phrase separates derives
          · exact unclaimed.mono fun next => Or.imp_left Nat.succ_inj.mp
termination_by tokens.length

/-- What has been read behind some words is a sentence with them, and does not claim what comes
next. -/
def Completed (before : List Lexeme) (tokens : List Token) (node : Node) (rest : List Token) :
    Prop :=
  ∃ taken, tokens = taken ++ rest ∧ Sentence (before ++ taken.map Token.lexeme) node ∧
    Unclaimed (Claims (before ++ taken.map Token.lexeme) node) rest

theorem assignment_sound {node : Node} {rest : List Token} (native : Native tokens)
    (read : assignment tokens = .ok (node, rest)) :
    Completed [] tokens node rest ∧ Completed [.keyword "LET"] tokens node rest := by
  obtain ⟨⟨name, ⟨afterName, _⟩⟩, isName, read⟩ := bind_ok read
  obtain ⟨⟨equals, ⟨afterEquals, _⟩⟩, isEquals, read⟩ := bind_ok read
  obtain ⟨⟨value, ⟨after, _⟩⟩, isValue, read⟩ := bind_ok read
  cases read
  obtain ⟨column, shape⟩ := expectName_sound isName
  simp only at shape
  subst shape
  obtain ⟨shape, sign⟩ := expectLexeme_sound native.tail rfl isEquals
  simp only at shape
  subst shape
  obtain ⟨taken, shape, phrase⟩ := expression_sound native.tail.tail isValue
  simp only at shape
  subst shape
  have unclaimed : ∀ words, Unclaimed (Claims words (.assign name value)) rest := fun _ =>
    expression_unclaimed isValue
  constructor
  · refine ⟨⟨.identifier name, column⟩ :: equals :: taken, rfl, ?_, unclaimed _⟩
    simp only [List.map_cons, sign]
    exact .assign name phrase
  · refine ⟨⟨.identifier name, column⟩ :: equals :: taken, rfl, ?_, unclaimed _⟩
    simp only [List.map_cons, sign]
    exact .letAssign name phrase

/-- A lexeme is skipped if it stands at the front. -/
theorem skip_sound (lexeme : Lexeme) (tokens : List Token) :
    ∃ taken, tokens = taken ++ skip lexeme tokens ∧
      ((taken = [] ∧ Unclaimed (· = lexeme) (skip lexeme tokens)) ∨
        ∃ column, taken = [⟨lexeme, column⟩]) := by
  cases tokens with
  | nil => exact ⟨[], rfl, .inl ⟨rfl, trivial⟩⟩
  | cons token rest =>
    rw [skip]
    split
    · next same =>
      obtain ⟨_, column⟩ := token
      exact ⟨[⟨lexeme, column⟩], congrArg (⟨·, column⟩ :: rest) same, .inr ⟨column, rfl⟩⟩
    · next other => exact ⟨[], rfl, .inl ⟨rfl, fun _ => other⟩⟩

theorem inputPrompt_sound (tokens : List Token) :
    ∃ taken, tokens = taken ++ (inputPrompt tokens).2 ∧
      Prompt (taken.map Token.lexeme) (inputPrompt tokens).1 := by
  unfold inputPrompt
  split
  · exact ⟨[_, _], rfl, .gapped _⟩
  · next text column rest _ =>
    obtain ⟨taken, shape, skipped⟩ := skip_sound (.punctuation ";") rest
    refine ⟨⟨.string text, column⟩ :: taken, congrArg _ shape, ?_⟩
    rw [List.map_cons]
    rcases skipped with ⟨rfl, _⟩ | ⟨_, rfl⟩
    · exact .alone text
    · exact .closed text
  · exact ⟨[], rfl, .none⟩

theorem inputStatement_sound {node : Node} {rest : List Token}
    (read : inputStatement tokens = .ok (node, rest)) :
    Completed [.keyword "INPUT"] tokens node rest := by
  obtain ⟨taken, shape, asks⟩ := inputPrompt_sound tokens
  obtain ⟨⟨name, ⟨after, _⟩⟩, isName, read⟩ := bind_ok read
  cases read
  obtain ⟨column, shape'⟩ := expectName_sound isName
  simp only at shape'
  refine ⟨taken ++ [⟨.identifier name, column⟩], ?_, ?_, ?_⟩
  · rw [List.append_assoc, List.singleton_append, ← shape']
    exact shape
  · rw [List.map_append, List.map_singleton]
    exact .input asks name
  · exact unclaimed_of_not fun _ => id

theorem loopStatement_sound {node : Node} {rest : List Token} (native : Native tokens)
    (read : loopStatement tokens = .ok (node, rest)) :
    Completed [.keyword "FOR"] tokens node rest := by
  obtain ⟨⟨name, ⟨afterName, shorter₁⟩⟩, isName, read₁⟩ := bind_ok read
  obtain ⟨⟨equals, ⟨afterEquals, shorter₂⟩⟩, isEquals, read₂⟩ := bind_ok read₁
  obtain ⟨⟨start, ⟨afterStart, shorter₃⟩⟩, isStart, read₃⟩ := bind_ok read₂
  obtain ⟨⟨link, ⟨afterTo, shorter₄⟩⟩, isTo, read₄⟩ := bind_ok read₃
  obtain ⟨⟨limit, ⟨afterLimit, shorter₅⟩⟩, isLimit, read₅⟩ := bind_ok read₄
  obtain ⟨column, shape⟩ := expectName_sound isName
  simp only at shape
  subst shape
  obtain ⟨shape, equalsSign⟩ := expectLexeme_sound native.tail rfl isEquals
  simp only at shape
  subst shape
  obtain ⟨taken, shape, phrase⟩ := expression_sound native.tail.tail isStart
  simp only at shape
  subst shape
  obtain ⟨shape, toSign⟩ := expectLexeme_sound native.tail.tail.rest rfl isTo
  simp only at shape
  subst shape
  obtain ⟨taken', shape, phrase'⟩ := expression_sound native.tail.tail.rest.tail isLimit
  simp only at shape
  subst shape
  simp only at read₅
  split at read₅
  · next column' afterStep =>
    obtain ⟨⟨step, ⟨after, _⟩⟩, isStep, read₆⟩ := bind_ok read₅
    cases read₆
    obtain ⟨taken'', shape, phrase''⟩ :=
      expression_sound native.tail.tail.rest.tail.rest.tail isStep
    simp only at shape
    subst shape
    refine ⟨⟨.identifier name, column⟩ :: equals :: (taken ++ link ::
      (taken' ++ ⟨.keyword "STEP", column'⟩ :: taken'')), by simp, ?_, ?_⟩
    · simp only [List.map_cons, List.map_append, equalsSign, toSign]
      exact .forStep name phrase phrase' phrase''
    · refine (expression_unclaimed isStep).mono fun next claimed => ?_
      exact claimed.resolve_right fun stepped => stepped.2 (by simp)
  · next noStep =>
    cases read₅
    refine ⟨⟨.identifier name, column⟩ :: equals :: (taken ++ link :: taken'), by simp, ?_, ?_⟩
    · simp only [List.map_cons, List.map_append, equalsSign, toSign]
      exact .forLoop name phrase phrase'
    · have unstepped : Unclaimed (· = .keyword "STEP") rest := by
        rcases rest with _ | ⟨⟨lexeme, place⟩, others⟩
        · trivial
        · rintro - rfl
          exact noStep place others rfl
      exact ((expression_unclaimed isLimit).or unstepped).mono fun next => Or.imp_right And.left

theorem listStatement_sound {node : Node} {rest : List Token}
    (read : listStatement tokens = .ok (node, rest)) :
    Completed [.keyword "LIST"] tokens node rest := by
  unfold listStatement at read
  split at read
  · next value column others =>
    obtain ⟨first, isFirst, read⟩ := bind_ok read
    split at read
    · next column' value' column'' after =>
      obtain ⟨last, isLast, read⟩ := bind_ok read
      cases read
      exact ⟨[_, _, _], rfl, .list (.between isFirst isLast), unclaimed_of_not fun _ => id⟩
    · next noLast =>
      cases read
      obtain ⟨taken, shape, skipped⟩ := skip_sound (.operator "-") others
      refine ⟨⟨.number value, column⟩ :: taken, congrArg _ shape, ?_⟩
      rcases skipped with ⟨rfl, noMinus⟩ | ⟨column', rfl⟩
      · refine ⟨.list (.one isFirst), noMinus.mono fun next claimed => ?_⟩
        exact (claimed.resolve_left fun numbered => numbered.2 value rfl).1
      · refine ⟨.list (.above isFirst), ?_⟩
        rcases remains : skip (.operator "-") others with _ | ⟨⟨lexeme, place⟩, more⟩
        · trivial
        · rintro - (⟨⟨last, rfl⟩, _⟩ | ⟨_, noMinus⟩)
          · rw [remains] at shape
            exact noLast column' last place more shape
          · exact noMinus rfl
  · next column after =>
    obtain ⟨⟨last, ⟨others, _⟩⟩, isLast, read⟩ := bind_ok read
    cases read
    obtain ⟨value, column', shape, isNumber⟩ := lineNumber_sound isLast
    simp only at shape
    subst shape
    exact ⟨[_, _], rfl, .list (.below isNumber), unclaimed_of_not fun _ => id⟩
  · next noNumber noMinus =>
    cases read
    refine ⟨[], rfl, .list .all, ?_⟩
    rcases tokens with _ | ⟨⟨lexeme, column⟩, others⟩
    · trivial
    · rintro - (⟨⟨value, rfl⟩, _⟩ | ⟨rfl, _⟩)
      · exact noNumber value column others rfl
      · exact noMinus column others rfl

theorem numberAhead_sound {value : Value} {rest : List Token}
    (found : numberAhead? tokens = some (value, rest)) :
    ∃ column, tokens = ⟨.number value, column⟩ :: rest := by
  unfold numberAhead? at found
  split at found
  · cases found
    exact ⟨_, rfl⟩
  · cases found

/-- What a reader that is mapped gives. -/
theorem map_ok {Reason First Result : Type} {first : Except Reason First} {f : First → Result}
    {result : Result} (done : first.map f = .ok result) :
    ∃ value, first = .ok value ∧ f value = result := by
  cases first with
  | error reason => cases done
  | ok value =>
    cases done
    exact ⟨value, rfl, rfl⟩

theorem nextStatement_sound (tokens : List Token) :
    Completed [.keyword "NEXT"] tokens (nextStatement tokens).1 (nextStatement tokens).2 := by
  unfold nextStatement
  split
  · exact ⟨[_], rfl, .nextNamed _, unclaimed_of_not fun _ => id⟩
  · next noName =>
    refine ⟨[], rfl, .next, ?_⟩
    rcases tokens with _ | ⟨⟨lexeme, column⟩, others⟩
    · trivial
    · rintro - ⟨name, rfl⟩
      exact noName name column others rfl

theorem remarkStatement_sound (tokens : List Token) :
    Completed [.keyword "REM"] tokens (remarkStatement tokens).1 (remarkStatement tokens).2 := by
  unfold remarkStatement
  split
  · exact ⟨[_], rfl, .remarkText _, unclaimed_of_not fun _ claimed => nomatch claimed.2⟩
  · next noText =>
    refine ⟨[], rfl, .remark, ?_⟩
    rcases tokens with _ | ⟨⟨lexeme, column⟩, others⟩
    · trivial
    · rintro - ⟨⟨text, rfl⟩, _⟩
      exact noText text column others rfl

/-- A conditional, read from behind its `THEN`. -/
def conditional (condition : Node) (guarded : List Token) :
    Except Malformed (Node × List Token) :=
  match numberAhead? guarded with
  | some (value, after) =>
    (toLineNumber value).map fun line => (.ifThen condition (.goto line), after)
  | none => (statement guarded).map fun (node, after) => (.ifThen condition node, after)

/-- A conditional that is read has a condition and a `THEN`, and is read on from there. -/
theorem conditional_sound (native : Native tokens) {column : Nat} {node : Node}
    {rest : List Token} (read : statement (⟨.keyword "IF", column⟩ :: tokens) = .ok (node, rest)) :
    ∃ taken condition column' guarded, tokens = taken ++ ⟨.keyword "THEN", column'⟩ :: guarded ∧
      Phrase 3 (taken.map Token.lexeme) condition ∧
      conditional condition guarded = .ok (node, rest) := by
  rw [statement] at read
  rcases isCondition : expression tokens with reason | ⟨condition, ⟨after, shorter⟩⟩
  all_goals simp only [isCondition] at read
  · cases read
  · obtain ⟨taken, rfl, phrase⟩ : ReadAs 3 tokens condition after :=
      expression_sound native isCondition
    rcases isThen : expectLexeme (.keyword "THEN") after with reason | ⟨last, ⟨guarded, less⟩⟩
    all_goals simp only [isThen] at read
    · cases read
    · obtain ⟨shape, sign⟩ := expectLexeme_sound native.rest rfl isThen
      obtain ⟨lexeme, column'⟩ := last
      cases sign
      exact ⟨taken, condition, column', guarded, by rw [shape], phrase, read⟩

/-- A keyword and what has been read behind it. -/
theorem Completed.keyword {word : String} {column : Nat} {node : Node} {rest : List Token}
    (completed : Completed [.keyword word] tokens node rest) :
    Completed [] (⟨.keyword word, column⟩ :: tokens) node rest := by
  obtain ⟨taken, rfl, derives, unclaimed⟩ := completed
  exact ⟨⟨.keyword word, column⟩ :: taken, rfl, derives, unclaimed⟩

/-- A phrase holds no keyword. -/
theorem Phrase.noKeyword {level : Nat} {phrase : List Lexeme} {node : Node}
    (derives : Phrase level phrase node) (word : String) : .keyword word ∉ phrase := by
  induction derives <;> simp_all

/-- What stands behind a condition is claimed by the guarded statement. -/
theorem claims_guarded {phrase words : List Lexeme} {condition : Node}
    (derives : Phrase 3 phrase condition) (some : words ≠ []) (statement : Node) :
    Claims (.keyword "IF" :: (phrase ++ .keyword "THEN" :: words)) (.ifThen condition statement) =
      Claims words statement := by
  have shape : .keyword "IF" :: (phrase ++ .keyword "THEN" :: words) =
      (.keyword "IF" :: (phrase ++ [.keyword "THEN"])) ++ words := by
    simp
  have noStep : .keyword "STEP" ∉ Lexeme.keyword "IF" :: (phrase ++ [.keyword "THEN"]) := by
    simp [derives.noKeyword]
  rw [shape, claims_append noStep some]
  rfl

/-- A statement starts with a keyword or a name. -/
theorem Sentence.start {words : List Lexeme} {node : Node} (derives : Sentence words node) :
    ∃ first others, words = first :: others ∧
      ((∃ word, first = .keyword word) ∨ ∃ name, first = .identifier name) := by
  cases derives <;> exact ⟨_, _, rfl, by simp⟩

theorem Sentence.ne_nil {words : List Lexeme} {node : Node} (derives : Sentence words node) :
    words ≠ [] := by
  obtain ⟨first, others, rfl, _⟩ := derives.start
  exact List.cons_ne_nil first others

/-- **What is read as a statement is a sentence**, which does not claim what comes next. -/
theorem statement_sound (tokens : List Token) (native : Native tokens) {node : Node}
    {rest : List Token} (read : statement tokens = .ok (node, rest)) :
    Completed [] tokens node rest := by
  match tokens with
  | [] =>
    rw [statement] at read
    cases read
  | ⟨lexeme, column⟩ :: others =>
    have whole := read
    rw [statement] at read
    simp only at read
    split at read
    · obtain ⟨⟨items, separators, after⟩, isRead, same⟩ := map_ok read
      cases same
      obtain ⟨taken, shape, derives, unclaimed⟩ := printItems_sound others native.tail isRead
      exact Completed.keyword ⟨taken, shape, .print derives, unclaimed⟩
    · exact (assignment_sound native.tail read).2.keyword
    · exact (inputStatement_sound read).keyword
    · obtain ⟨taken, condition, column', guarded, shape, phrase, read⟩ :=
        conditional_sound native.tail whole
      have shorter : guarded.length ≤ others.length := by
        rw [shape, List.length_append, List.length_cons]
        omega
      unfold conditional at read
      rcases ahead : numberAhead? guarded with none | ⟨value, after⟩
      all_goals
        rw [ahead] at read
        obtain ⟨found, isRead, same⟩ := map_ok read
      · obtain ⟨inner, after⟩ := found
        cases same
        have nativeGuarded : Native guarded := (shape ▸ native.tail).rest.tail
        obtain ⟨taken', shape', derives, unclaimed⟩ := statement_sound guarded nativeGuarded isRead
        refine Completed.keyword ⟨taken ++ ⟨.keyword "THEN", column'⟩ :: taken', ?_, ?_, ?_⟩
        · rw [shape, shape']
          simp
        · rw [List.map_append, List.map_cons]
          exact .ifThen phrase derives
        · have same := claims_guarded phrase derives.ne_nil inner
          rw [List.map_append, List.map_cons]
          exact unclaimed.mono fun next => (congrFun same next).mp
      · cases same
        obtain ⟨column'', shape'⟩ := numberAhead_sound ahead
        refine Completed.keyword
          ⟨taken ++ [⟨.keyword "THEN", column'⟩, ⟨.number value, column''⟩], ?_, ?_, ?_⟩
        · rw [shape, shape']
          simp
        · rw [List.map_append, List.map_cons]
          exact .ifLine phrase isRead
        · exact unclaimed_of_not fun _ => id
    · obtain ⟨⟨line, ⟨after, shorter⟩⟩, isRead, same⟩ := map_ok read
      cases same
      obtain ⟨value, column', shape, isNumber⟩ := lineNumber_sound isRead
      exact Completed.keyword ⟨[_], shape, .goto isNumber, unclaimed_of_not fun _ => id⟩
    · exact (loopStatement_sound native.tail read).keyword
    · have sound := nextStatement_sound others
      rw [Except.ok.inj read] at sound
      exact sound.keyword
    · have sound := remarkStatement_sound others
      rw [Except.ok.inj read] at sound
      exact sound.keyword
    · exact (listStatement_sound read).keyword
    · cases read
      exact Completed.keyword ⟨[], rfl, .stop, unclaimed_of_not fun _ => id⟩
    · cases read
      exact Completed.keyword ⟨[], rfl, .run, unclaimed_of_not fun _ => id⟩
    · cases read
      exact Completed.keyword ⟨[], rfl, .new, unclaimed_of_not fun _ => id⟩
    · cases read
      exact Completed.keyword ⟨[], rfl, .home, unclaimed_of_not fun _ => id⟩
    · cases read
    · exact (assignment_sound native read).1
    · cases read
termination_by tokens.length
decreasing_by
  simp only [List.length_cons]
  omega

/-- **What is read as a line is one**, which does not claim what comes next. -/
theorem line_reads (native : Native tokens) {node : Node} (read : line tokens = .ok node) :
    ∃ taken rest, tokens = taken ++ rest ∧ Line (taken.map Token.lexeme) node ∧
      Unclaimed (Claims (taken.map Token.lexeme) node) rest := by
  unfold line at read
  split at read
  · next ended =>
    cases read
    exact ⟨[], tokens, rfl, .empty, unclaimed_of_atEnd ended⟩
  · rcases ahead : numberAhead? tokens with none | ⟨value, rest⟩
    all_goals rw [ahead] at read
    · obtain ⟨⟨statement, after⟩, isRead, same⟩ := map_ok read
      cases same
      obtain ⟨taken, shape, derives, unclaimed⟩ := statement_sound tokens native isRead
      exact ⟨taken, after, shape, .immediate derives, unclaimed⟩
    · obtain ⟨column, rfl⟩ := numberAhead_sound ahead
      simp only at read
      rcases isNumber : toLineNumber value with reason | number
      all_goals rw [isNumber] at read
      · cases read
      · simp only at read
        split at read
        · next ended =>
          cases read
          exact ⟨[_], rest, rfl, .bareNumber isNumber, unclaimed_of_atEnd ended⟩
        · obtain ⟨⟨statement, after⟩, isRead, same⟩ := map_ok read
          cases same
          obtain ⟨taken, shape, derives, unclaimed⟩ := statement_sound rest native.tail isRead
          refine ⟨⟨.number value, column⟩ :: taken, after, congrArg _ shape,
            .numbered isNumber derives, ?_⟩
          have noStep : .keyword "STEP" ∉ [Lexeme.number value] := by
            simp
          have same := claims_append noStep derives.ne_nil statement
          exact unclaimed.mono fun next => (congrFun same next).mp

/-- What is read as a line is one. -/
theorem line_sound (native : Native tokens) {node : Node} (read : line tokens = .ok node) :
    ∃ taken rest, tokens = taken ++ rest ∧ Line (taken.map Token.lexeme) node := by
  obtain ⟨taken, rest, shape, derives, _⟩ := line_reads native read
  exact ⟨taken, rest, shape, derives⟩

end Sound

/-! ### A sentence at the end of its line is read whole -/

section Complete

variable {tokens rest taken : List Token}

/-- A lexeme that is no operator does not join operands. -/
theorem unclaimed_of_lexeme {token : Token}
    (notOperator : ∀ symbol, token.lexeme ≠ .operator symbol) :
    Unclaimed Joins (token :: rest) := by
  rintro - ⟨_, _, symbol, _, same⟩
  exact notOperator symbol same

theorem of_plain {Within : List Token → Prop} {Result : Type} {value : Result}
    {result : Except Malformed (Result × { rest : List Token // Within rest })}
    (read : plain result = .ok (value, rest)) :
    ∃ within, result = .ok (value, ⟨rest, within⟩) := by
  rcases result with reason | ⟨value', rest', within⟩
  · cases read
  · cases read
    exact ⟨within, rfl⟩

theorem expression_complete {node : Node} (derives : Phrase 3 (taken.map Token.lexeme) node)
    (unclaimed : Unclaimed Joins rest) :
    ∃ shorter, expression (taken ++ rest) = .ok (node, ⟨rest, shorter⟩) :=
  of_plain (chain_complete derives (ends_iff.mpr unclaimed))

theorem expectLexeme_complete {lexeme : Lexeme} (sign : isSign lexeme = true) (column : Nat)
    (rest : List Token) :
    expectLexeme lexeme (⟨lexeme, column⟩ :: rest) =
      .ok (⟨lexeme, column⟩, ⟨rest, Nat.lt_succ_self _⟩) := by
  cases lexeme <;> cases sign
  all_goals simp [expectLexeme, expect, Lexeme.isA, Lexeme.isEnd]

/-- A phrase starts with a lexeme, and not with the end of the line. -/
theorem Phrase.start {level : Nat} {phrase : List Lexeme} {node : Node}
    (derives : Phrase level phrase node) :
    ∃ first others, phrase = first :: others ∧ first.isEnd = false := by
  induction derives with
  | number value => exact ⟨_, _, rfl, rfl⟩
  | string text => exact ⟨_, _, rfl, rfl⟩
  | named name => exact ⟨_, _, rfl, rfl⟩
  | parenthesised inner hypothesis => exact ⟨_, _, rfl, rfl⟩
  | negated operand hypothesis => exact ⟨_, _, rfl, rfl⟩
  | tighter inner hypothesis => exact hypothesis
  | joined ahead member behind hypothesis hypothesis' =>
    obtain ⟨first, others, rfl, notEnd⟩ := hypothesis
    exact ⟨first, _, rfl, notEnd⟩

theorem atEnd_of_start {first : Lexeme} {others : List Lexeme}
    (spelled : taken.map Token.lexeme = first :: others) (notEnd : first.isEnd = false) :
    atEnd (taken ++ rest) = false := by
  obtain ⟨token, later, rfl, same, _⟩ := List.map_eq_cons_iff.mp spelled
  rw [List.cons_append, atEnd, same, notEnd]

theorem printItems_complete {words : List Lexeme} {items : List Node} {separators : List String}
    (derives : Items words items separators) (taken : List Token)
    (spelled : taken.map Token.lexeme = words)
    (unclaimed : Unclaimed (ItemsClaim items separators) rest) :
    printItems (taken ++ rest) = .ok (items, separators, rest) := by
  induction derives generalizing taken with
  | none =>
    have ended : atEnd rest = true := atEnd_of_unclaimed unclaimed fun _ => .inl rfl
    rw [List.map_eq_nil_iff.mp spelled, List.nil_append, printItems, if_pos ended]
  | last derives =>
    obtain ⟨first, others, start, notEnd⟩ := derives.start
    have ends : Unclaimed Joins rest := unclaimed.mono fun _ joins => .inr (.inl joins)
    obtain ⟨shorter, read⟩ := expression_complete (spelled ▸ derives) ends
    have noSeparator : separator? rest = none :=
      separator?_iff.mpr (unclaimed.mono fun _ separates => .inr (.inr separates))
    rw [printItems, if_neg (by rw [atEnd_of_start (spelled.trans start) notEnd]; exact nofun)]
    simp only [read, noSeparator]
  | more derives separates behind hypothesis =>
    obtain ⟨first, others, start, notEnd⟩ := derives.start
    obtain ⟨front, others', rfl, isFront, isOthers⟩ := List.map_eq_append_iff.mp spelled
    obtain ⟨⟨_, column⟩, back, rfl, isSeparator, isBack⟩ := List.map_eq_cons_iff.mp isOthers
    cases isSeparator
    rename_i separator _
    have ends : Unclaimed Joins (⟨.punctuation separator, column⟩ :: (back ++ rest)) :=
      unclaimed_of_lexeme nofun
    obtain ⟨shorter, read⟩ := expression_complete (isFront ▸ derives) ends
    have found : separator? (⟨.punctuation separator, column⟩ :: (back ++ rest)) =
        some (separator, ⟨back ++ rest, Nat.lt_succ_self _⟩) := by
      unfold separator?
      rcases separates with rfl | rfl <;> simp
    rw [List.append_assoc, printItems,
      if_neg (by rw [atEnd_of_start (isFront.trans start) notEnd]; exact nofun)]
    have later := unclaimed.mono fun _ => Or.imp_left (congrArg Nat.succ)
    simp only [List.cons_append, read, found, hypothesis back isBack later]

/-- A keyword is read off the front, whatever its column. -/
theorem taken_cons {first : Lexeme} {others : List Lexeme}
    (spelled : taken.map Token.lexeme = first :: others) :
    ∃ column later, taken = ⟨first, column⟩ :: later ∧ later.map Token.lexeme = others := by
  obtain ⟨⟨lexeme, column⟩, later, rfl, same, isOthers⟩ := List.map_eq_cons_iff.mp spelled
  cases same
  exact ⟨column, later, rfl, isOthers⟩

theorem taken_single {lexeme : Lexeme} (spelled : taken.map Token.lexeme = [lexeme]) :
    ∃ column, taken = [⟨lexeme, column⟩] := by
  obtain ⟨column, later, rfl, nothing⟩ := taken_cons spelled
  exact ⟨column, by rw [List.map_eq_nil_iff.mp nothing]⟩

theorem assignment_complete {name : String} {phrase : List Lexeme} {value : Node}
    (derives : Phrase 3 phrase value)
    (spelled : taken.map Token.lexeme = .identifier name :: .operator "=" :: phrase)
    (unclaimed : Unclaimed Joins rest) :
    assignment (taken ++ rest) = .ok (.assign name value, rest) := by
  obtain ⟨column, afterName, rfl, isAfterName⟩ := taken_cons spelled
  obtain ⟨column', afterEquals, rfl, rfl⟩ := taken_cons isAfterName
  obtain ⟨shorter, read⟩ := expression_complete derives unclaimed
  have equals : expectLexeme (.operator "=") (⟨.operator "=", column'⟩ :: (afterEquals ++ rest)) =
      _ := expectLexeme_complete rfl column' _
  simp only [List.cons_append, assignment, expectName, bind, Except.bind, equals, read]
  rfl

theorem inputStatement_complete {words : List Lexeme} {prompt name : String}
    (asks : Prompt words prompt) (spelled : taken.map Token.lexeme = words ++ [.identifier name]) :
    inputStatement (taken ++ rest) = .ok (.input prompt name, rest) := by
  cases asks with
  | none =>
    obtain ⟨column, rfl⟩ := taken_single spelled
    rfl
  | alone text =>
    obtain ⟨column, later, rfl, isLater⟩ := taken_cons spelled
    obtain ⟨column', rfl⟩ := taken_single isLater
    rfl
  | closed text =>
    obtain ⟨column, later, rfl, isLater⟩ := taken_cons spelled
    obtain ⟨column', later', rfl, isLater'⟩ := taken_cons isLater
    obtain ⟨column'', rfl⟩ := taken_single isLater'
    rfl
  | gapped text =>
    obtain ⟨column, later, rfl, isLater⟩ := taken_cons spelled
    obtain ⟨column', later', rfl, isLater'⟩ := taken_cons isLater
    obtain ⟨column'', rfl⟩ := taken_single isLater'
    rfl

theorem loopStatement_complete {name : String} {phrase phrase' stepping : List Lexeme}
    {start limit step : Node} (derives : Phrase 3 phrase start) (derives' : Phrase 3 phrase' limit)
    (steps : (stepping = [] ∧ step = Node.unitStep) ∨
      ∃ phrase'', stepping = .keyword "STEP" :: phrase'' ∧ Phrase 3 phrase'' step)
    (spelled : taken.map Token.lexeme = .identifier name :: .operator "=" ::
      (phrase ++ .keyword "TO" :: (phrase' ++ stepping)))
    (unclaimed : Unclaimed Joins rest)
    (unstepped : stepping = [] → Unclaimed (· = .keyword "STEP") rest) :
    loopStatement (taken ++ rest) = .ok (.forLoop name start limit step, rest) := by
  obtain ⟨column, afterName, rfl, isAfterName⟩ := taken_cons spelled
  obtain ⟨column', afterEquals, rfl, isAfterEquals⟩ := taken_cons isAfterName
  obtain ⟨first, others, rfl, rfl, isOthers⟩ := List.map_eq_append_iff.mp isAfterEquals
  obtain ⟨column'', afterTo, rfl, isAfterTo⟩ := taken_cons isOthers
  obtain ⟨second, last, rfl, rfl, isLast⟩ := List.map_eq_append_iff.mp isAfterTo
  have equals : expectLexeme (.operator "=") (⟨.operator "=", column'⟩ ::
      (first ++ ⟨.keyword "TO", column''⟩ :: (second ++ (last ++ rest)))) = _ :=
    expectLexeme_complete rfl column' _
  have link : expectLexeme (.keyword "TO") (⟨.keyword "TO", column''⟩ ::
      (second ++ (last ++ rest))) = _ := expectLexeme_complete rfl column'' _
  have ends : Unclaimed Joins (⟨.keyword "TO", column''⟩ :: (second ++ (last ++ rest))) :=
    unclaimed_of_lexeme nofun
  obtain ⟨shorter, isStart⟩ := expression_complete derives ends
  simp only [List.cons_append, List.append_assoc, loopStatement, expectName, bind, Except.bind,
    equals, link, isStart]
  rcases steps with ⟨rfl, rfl⟩ | ⟨phrase'', rfl, derives''⟩
  · rw [List.map_eq_nil_iff.mp isLast, List.nil_append]
    obtain ⟨shorter', isLimit⟩ := expression_complete derives' unclaimed
    simp only [isLimit]
    split
    · exact absurd rfl (unstepped rfl rfl)
    · rfl
  · obtain ⟨place, third, rfl, rfl⟩ := taken_cons isLast
    have ends' : Unclaimed Joins (⟨.keyword "STEP", place⟩ :: (third ++ rest)) :=
      unclaimed_of_lexeme nofun
    obtain ⟨shorter', isLimit⟩ := expression_complete derives' ends'
    obtain ⟨shorter'', isStep⟩ := expression_complete derives'' unclaimed
    simp only [List.cons_append, isLimit, isStep]
    rfl

theorem skip_complete {lexeme : Lexeme} (notEnd : lexeme.isEnd = false)
    (unclaimed : Unclaimed (· = lexeme) rest) : skip lexeme rest = rest := by
  cases rest with
  | nil => rfl
  | cons token others =>
    refine if_neg fun same => ?_
    exact unclaimed (same ▸ notEnd) same

theorem listStatement_complete {words : List Lexeme} {first last : Option Int}
    (range : Range words first last) (spelled : taken.map Token.lexeme = words)
    (unclaimed : Unclaimed (Claims (.keyword "LIST" :: words) (.list first last)) rest) :
    listStatement (taken ++ rest) = .ok (.list first last, rest) := by
  cases range with
  | all =>
    rw [List.map_eq_nil_iff.mp spelled, List.nil_append]
    unfold listStatement
    split
    · next value column others =>
      exact absurd (.inl ⟨⟨value, rfl⟩, nofun⟩) (unclaimed rfl)
    · exact absurd (.inr ⟨rfl, nofun⟩) (unclaimed rfl)
    · rfl
  | one number =>
    obtain ⟨column, rfl⟩ := taken_single spelled
    have noMinus : Unclaimed (· = .operator "-") rest :=
      unclaimed.mono fun next same => .inr ⟨same, nofun⟩
    have stays : skip (.operator "-") rest = rest := skip_complete rfl noMinus
    simp only [List.singleton_append, listStatement, number, bind, Except.bind]
    split
    · exact absurd rfl (noMinus rfl)
    · rw [stays]
      rfl
  | above number =>
    obtain ⟨column, later, rfl, isLater⟩ := taken_cons spelled
    obtain ⟨column', rfl⟩ := taken_single isLater
    simp only [List.cons_append, List.nil_append, listStatement, number, bind, Except.bind]
    split
    · next same =>
      obtain ⟨_, rfl⟩ := List.cons.inj same
      exact absurd (.inl ⟨⟨_, rfl⟩, nofun⟩) (unclaimed rfl)
    · rfl
  | between number number' =>
    obtain ⟨column, later, rfl, isLater⟩ := taken_cons spelled
    obtain ⟨column', later', rfl, isLater'⟩ := taken_cons isLater
    obtain ⟨column'', rfl⟩ := taken_single isLater'
    simp [listStatement, number, number', bind, Except.bind, pure, Except.pure]
  | below number =>
    obtain ⟨column, later, rfl, isLater⟩ := taken_cons spelled
    obtain ⟨column', rfl⟩ := taken_single isLater
    simp [listStatement, lineNumber, number, bind, Except.bind, pure, Except.pure, Except.map]

/-- A condition is read up to its `THEN`. -/
theorem statement_if {taken behind : List Token} {condition : Node} (column column' : Nat)
    (derives : Phrase 3 (taken.map Token.lexeme) condition) :
    statement (⟨.keyword "IF", column⟩ :: (taken ++ ⟨.keyword "THEN", column'⟩ :: behind)) =
      conditional condition behind := by
  have ends : Unclaimed Joins (⟨.keyword "THEN", column'⟩ :: behind) := unclaimed_of_lexeme nofun
  obtain ⟨shorter, read⟩ := expression_complete derives ends
  have isThen : expectLexeme (.keyword "THEN") (⟨.keyword "THEN", column'⟩ :: behind) = _ :=
    expectLexeme_complete rfl column' behind
  rw [statement, conditional]
  rcases ahead : numberAhead? behind with none | ⟨value, after⟩ <;> simp only [read, isThen, ahead]

/-- **A sentence is read whole**, if it does not claim what comes next. -/
theorem statement_complete {words : List Lexeme} {node : Node} (derives : Sentence words node)
    (taken : List Token) (spelled : taken.map Token.lexeme = words)
    (unclaimed : Unclaimed (Claims words node) rest) :
    statement (taken ++ rest) = .ok (node, rest) := by
  induction derives generalizing taken with
  | print items =>
    obtain ⟨column, later, rfl, isLater⟩ := taken_cons spelled
    rw [List.cons_append, statement]
    simp only [printItems_complete items later isLater unclaimed]
    rfl
  | assign name derives =>
    have read := assignment_complete derives spelled unclaimed
    obtain ⟨column, later, rfl, isLater⟩ := taken_cons spelled
    rw [List.cons_append, statement]
    exact read
  | letAssign name derives =>
    obtain ⟨column, later, rfl, isLater⟩ := taken_cons spelled
    rw [List.cons_append, statement]
    exact assignment_complete derives isLater unclaimed
  | input asks name =>
    obtain ⟨column, later, rfl, isLater⟩ := taken_cons spelled
    rw [List.cons_append, statement]
    exact inputStatement_complete asks isLater
  | ifLine derives number =>
    obtain ⟨column, later, rfl, isLater⟩ := taken_cons spelled
    obtain ⟨condition, others, rfl, rfl, isOthers⟩ := List.map_eq_append_iff.mp isLater
    obtain ⟨column', guarded, rfl, isGuarded⟩ := taken_cons isOthers
    obtain ⟨column'', rfl⟩ := taken_single isGuarded
    rw [List.cons_append, List.append_assoc]
    simp only [List.cons_append, List.nil_append]
    rw [statement_if column column' derives, conditional]
    simp only [numberAhead?, number]
    rfl
  | ifThen derives guarded hypothesis =>
    obtain ⟨column, later, rfl, isLater⟩ := taken_cons spelled
    obtain ⟨condition, others, rfl, rfl, isOthers⟩ := List.map_eq_append_iff.mp isLater
    obtain ⟨column', inner, rfl, isInner⟩ := taken_cons isOthers
    have noNumber : numberAhead? (inner ++ rest) = none := by
      obtain ⟨first, behind, rfl, starts⟩ := guarded.start
      obtain ⟨column'', later, rfl, _⟩ := taken_cons isInner
      rcases starts with ⟨word, rfl⟩ | ⟨name, rfl⟩ <;> rfl
    rw [List.cons_append, List.append_assoc, List.cons_append, statement_if column column' derives,
      conditional]
    have unclaimed' := unclaimed.mono fun next =>
      (congrFun (claims_guarded derives guarded.ne_nil _) next).mpr
    simp only [noNumber, hypothesis inner isInner unclaimed']
    rfl
  | goto number =>
    obtain ⟨column, later, rfl, isLater⟩ := taken_cons spelled
    obtain ⟨column', rfl⟩ := taken_single isLater
    rw [List.cons_append, statement]
    simp only [List.cons_append, lineNumber, number]
    rfl
  | forLoop name derives derives' =>
    obtain ⟨column, later, rfl, isLater⟩ := taken_cons spelled
    rw [List.cons_append, statement]
    refine loopStatement_complete derives derives' (.inl ⟨rfl, rfl⟩) ?_
      (unclaimed.mono fun _ => .inl) fun _ => unclaimed.mono fun _ same => .inr ⟨same, ?_⟩
    · rw [isLater, List.append_nil]
    · simp [derives.noKeyword, derives'.noKeyword]
  | forStep name derives derives' derives'' =>
    obtain ⟨column, later, rfl, isLater⟩ := taken_cons spelled
    rw [List.cons_append, statement]
    exact loopStatement_complete derives derives' (.inr ⟨_, rfl, derives''⟩) isLater
      (unclaimed.mono fun _ => .inl) (by rintro ⟨⟩)
  | next =>
    obtain ⟨column, rfl⟩ := taken_single spelled
    rw [List.cons_append, List.nil_append, statement]
    simp only [nextStatement]
    split
    · next name _ _ => exact absurd ⟨name, rfl⟩ (unclaimed rfl)
    · rfl
  | nextNamed name =>
    obtain ⟨column, later, rfl, isLater⟩ := taken_cons spelled
    obtain ⟨column', rfl⟩ := taken_single isLater
    rw [List.cons_append, statement]
    rfl
  | remark =>
    obtain ⟨column, rfl⟩ := taken_single spelled
    rw [List.cons_append, List.nil_append, statement]
    simp only [remarkStatement]
    split
    · next text _ _ => exact absurd ⟨⟨text, rfl⟩, rfl⟩ (unclaimed rfl)
    · rfl
  | remarkText text =>
    obtain ⟨column, later, rfl, isLater⟩ := taken_cons spelled
    obtain ⟨column', rfl⟩ := taken_single isLater
    rw [List.cons_append, statement]
    rfl
  | list range =>
    obtain ⟨column, later, rfl, isLater⟩ := taken_cons spelled
    rw [List.cons_append, statement]
    exact listStatement_complete range isLater unclaimed
  | stop =>
    obtain ⟨column, rfl⟩ := taken_single spelled
    rw [List.cons_append, statement]
    rfl
  | run =>
    obtain ⟨column, rfl⟩ := taken_single spelled
    rw [List.cons_append, statement]
    rfl
  | new =>
    obtain ⟨column, rfl⟩ := taken_single spelled
    rw [List.cons_append, statement]
    rfl
  | home =>
    obtain ⟨column, rfl⟩ := taken_single spelled
    rw [List.cons_append, statement]
    rfl

/-- **A line is read whole**, if it does not claim what comes next. -/
theorem line_accepted {node : Node} (derives : Line (taken.map Token.lexeme) node)
    (unclaimed : Unclaimed (Claims (taken.map Token.lexeme) node) rest) :
    line (taken ++ rest) = .ok node := by
  generalize spelled : taken.map Token.lexeme = words at derives unclaimed
  cases derives with
  | empty =>
    have ended : atEnd rest = true := atEnd_of_unclaimed unclaimed fun _ => trivial
    rw [List.map_eq_nil_iff.mp spelled, List.nil_append, line, if_pos ended]
  | @bareNumber value number isNumber =>
    have ended : atEnd rest = true := atEnd_of_unclaimed unclaimed fun _ => trivial
    obtain ⟨column, rfl⟩ := taken_single spelled
    have goesOn : atEnd (⟨.number value, column⟩ :: rest) = false := rfl
    rw [List.cons_append, List.nil_append, line, goesOn]
    simp only [numberAhead?, isNumber, ended]
    rfl
  | @numbered words value number statement isNumber derives =>
    obtain ⟨column, later, rfl, isLater⟩ := taken_cons spelled
    obtain ⟨first, others, rfl, starts⟩ := derives.start
    have goesOn : atEnd (⟨.number value, column⟩ :: (later ++ rest)) = false := rfl
    have goesOn' : atEnd (later ++ rest) = false :=
      atEnd_of_start isLater (by rcases starts with ⟨word, rfl⟩ | ⟨name, rfl⟩ <;> rfl)
    have noStep : .keyword "STEP" ∉ [Lexeme.number value] := by
      simp
    have unclaimed' := unclaimed.mono fun next =>
      (congrFun (claims_append noStep derives.ne_nil statement) next).mpr
    rw [List.cons_append, line, goesOn]
    simp only [numberAhead?, isNumber, goesOn', statement_complete derives later isLater unclaimed']
    rfl
  | immediate derives =>
    obtain ⟨first, others, rfl, starts⟩ := derives.start
    have goesOn : atEnd (taken ++ rest) = false :=
      atEnd_of_start spelled (by rcases starts with ⟨word, rfl⟩ | ⟨name, rfl⟩ <;> rfl)
    have noNumber : numberAhead? (taken ++ rest) = none := by
      obtain ⟨column, later, rfl, _⟩ := taken_cons spelled
      rcases starts with ⟨word, rfl⟩ | ⟨name, rfl⟩ <;> rfl
    simp only [line, goesOn, noNumber, statement_complete derives taken spelled unclaimed]
    rfl

/-- A line at the end of the tokens is read whole. -/
theorem line_complete {node : Node} (derives : Line (taken.map Token.lexeme) node)
    (ended : atEnd rest = true) : line (taken ++ rest) = .ok node :=
  line_accepted derives (unclaimed_of_atEnd ended)

end Complete

end LineBasic.Parser
