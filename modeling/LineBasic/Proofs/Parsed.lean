/-
**Trees of lines, and how they fail.**

The tree of a line is sound all the way down: every node stands where one of its kind may stand,
every operator is one of the language, and every line number is positive. A session executes only
the trees of lines, those just typed and those stored, whatever else is called. So whatever a
statement or an expression fails for lies in what it is about, never in how it is built: the
failure has one of five codes and no detail.

* `Node.Sound` — what holds of the tree of a line and of each of its parts, `Node.sound_of_line`;
* `Node.FailsPlainly` — how the statement of a line fails, `Node.IsStatement.failsPlainly`;
* `Session.isParsed_step` — a step takes up the statement of a line, or none;
* `Sitting.parsed_failsPlainly` — in every sitting, all that is executed is sound and fails plainly.
-/

import LineBasic.Proofs.Causes
import LineBasic.Proofs.Move
import LineBasic.Proofs.Sitting

namespace LineBasic

/-! ### The parts of a tree -/

namespace Node

/-- The expressions right below a node. -/
def operands : Node → List Node
  | binary _ left right => [left, right]
  | unary _ operand => [operand]
  | print items _ => items
  | assign _ value => [value]
  | ifThen condition _ => [condition]
  | forLoop _ start limit step => [start, limit, step]
  | _ => []

/-- The statements right below a node. -/
def bodies : Node → List Node
  | programLine _ statement => [statement]
  | ifThen _ statement => [statement]
  | _ => []

/-- The nodes right below a node. -/
def children (node : Node) : List Node :=
  node.operands ++ node.bodies

/-- A part of a tree: the tree itself, or a part of what is right below it. -/
inductive PartOf (part : Node) : Node → Prop where
  | whole : PartOf part part
  | inside {child tree : Node} (member : child ∈ tree.children) (inner : PartOf part child) :
      PartOf part tree

/-- A part of a tree other than the tree itself. -/
def Below (part tree : Node) : Prop :=
  ∃ child ∈ tree.children, part.PartOf child

/-- Whether a node is right as far as it is not about its parts: its operator is one of its kind,
its items and separators alternate, its line numbers are positive. -/
def Fits : Node → Prop
  | binary operator _ _ => operator ∈ comparisons ++ additions ++ multiplications
  | unary operator _ => operator = "-"
  | programLine line _ => 1 ≤ line
  | print items separators =>
    separators.length = items.length ∨ items ≠ [] ∧ separators.length + 1 = items.length
  | goto line => 1 ≤ line
  | list first last => (∀ line ∈ first, 1 ≤ line) ∧ ∀ line ∈ last, 1 ≤ line
  | _ => True

/-- **What the tree of a line looks like** all the way down: each node is right in itself, a number
stands only in front of the whole, and only where it stands alone is there nothing after it. -/
structure Sound (tree : Node) : Prop where
  fits : ∀ part : Node, part.PartOf tree → part.Fits
  numbered : ∀ line statement, ¬(programLine line statement).Below tree
  filled : empty.Below tree → ∃ line, tree = programLine line empty

section Parts

variable {piece below tree : Node}

theorem isExpression_operand (expression : tree.isExpression = true)
    (member : below ∈ tree.operands) : below.isExpression = true := by
  cases tree with
  | binary operator left right =>
    simp only [isExpression, Bool.and_eq_true] at expression
    rcases List.mem_cons.mp member with rfl | member
    · exact expression.1.2
    · cases List.mem_singleton.mp member
      exact expression.2
  | unary operator operand =>
    simp only [isExpression, Bool.and_eq_true] at expression
    cases List.mem_singleton.mp member
    exact expression.2
  | number => cases member
  | string => cases member
  | named => cases member
  | _ => cases expression

theorem bodies_of_isExpression (expression : tree.isExpression = true) : tree.bodies = [] := by
  cases tree <;> first | rfl | cases expression

theorem isExpression_part (expression : tree.isExpression = true) (isPart : piece.PartOf tree) :
    piece.isExpression = true := by
  induction isPart with
  | whole => exact expression
  | inside member _ hypothesis =>
    rw [children, bodies_of_isExpression expression, List.append_nil] at member
    exact hypothesis (isExpression_operand expression member)

/-- A statement asks for the values of expressions. -/
theorem IsStatement.operand (isStatement : tree.IsStatement) (member : below ∈ tree.operands) :
    below.isExpression = true := by
  cases isStatement with
  | print expressions => exact expressions below member
  | assign expression =>
    cases List.mem_singleton.mp member
    exact expression
  | ifThen expression =>
    cases List.mem_singleton.mp member
    exact expression
  | forLoop first second third =>
    simp only [operands, List.mem_cons, List.not_mem_nil, or_false] at member
    rcases member with rfl | rfl | rfl
    · exact first
    · exact second
    · exact third
  | _ => cases member

/-- What a statement guards is a statement. -/
theorem IsStatement.body (isStatement : tree.IsStatement) (member : below ∈ tree.bodies) :
    below.IsStatement := by
  cases isStatement with
  | ifThen _ isStatement =>
    cases List.mem_singleton.mp member
    exact isStatement
  | _ => cases member

/-- **The parts of a statement are expressions and statements.** -/
theorem IsStatement.part (isStatement : tree.IsStatement) (isPart : piece.PartOf tree) :
    piece.isExpression = true ∨ piece.IsStatement := by
  induction isPart with
  | whole => exact .inr isStatement
  | inside member inner hypothesis =>
    rcases List.mem_append.mp member with asked | guarded
    · exact .inl (isExpression_part (isStatement.operand asked) inner)
    · exact hypothesis (isStatement.body guarded)

theorem fits_of_isExpression (expression : tree.isExpression = true) : tree.Fits := by
  cases tree with
  | binary operator left right =>
    simp only [isExpression, Bool.and_eq_true, List.contains_iff_mem] at expression
    exact expression.1.1
  | unary operator operand =>
    simp only [isExpression, Bool.and_eq_true, beq_iff_eq] at expression
    exact expression.1
  | number => trivial
  | string => trivial
  | named => trivial
  | _ => cases expression

theorem IsStatement.fits (isStatement : tree.IsStatement) : tree.Fits := by
  cases isStatement with
  | print _ alternate =>
    refine alternate.imp id fun fewer => ⟨?_, fewer⟩
    rintro rfl
    cases fewer
  | goto positive => exact positive
  | list first last => exact ⟨first, last⟩
  | _ => trivial

/-- In a statement each node is right in itself, and none is numbered or says nothing. -/
theorem IsStatement.sound_part (isStatement : tree.IsStatement) (isPart : piece.PartOf tree) :
    piece.Fits ∧ piece ≠ empty ∧ ∀ line statement, piece ≠ programLine line statement := by
  rcases isStatement.part isPart with expression | isStatement
  · refine ⟨fits_of_isExpression expression, ?_, ?_⟩
    · rintro rfl
      cases expression
    · rintro line statement rfl
      cases expression
  · refine ⟨isStatement.fits, ?_, ?_⟩
    · rintro rfl
      cases isStatement
    · rintro line statement rfl
      cases isStatement

theorem partOf_iff : piece.PartOf tree ↔ piece = tree ∨ piece.Below tree := by
  constructor
  · rintro (_ | ⟨member, inner⟩)
    · exact .inl rfl
    · exact .inr ⟨_, member, inner⟩
  · rintro (rfl | ⟨_, member, inner⟩)
    · exact .whole
    · exact .inside member inner

theorem below_programLine {line : Int} {statement : Node} :
    piece.Below (programLine line statement) ↔ piece.PartOf statement := by
  constructor
  · rintro ⟨_, member, inner⟩
    cases List.mem_singleton.mp member
    exact inner
  · exact fun inner => ⟨statement, List.mem_singleton_self _, inner⟩

theorem not_below_empty : ¬piece.Below empty := by
  rintro ⟨_, member, _⟩
  cases member

/-- **Well-formed trees are sound.** -/
theorem WellFormed.sound (wellFormed : tree.WellFormed) : tree.Sound := by
  cases wellFormed with
  | empty =>
    refine ⟨fun piece isPart => ?_, fun _ _ => not_below_empty, (absurd · not_below_empty)⟩
    cases (partOf_iff.mp isPart).resolve_right not_below_empty
    trivial
  | statement isStatement =>
    refine ⟨fun piece isPart => (isStatement.sound_part isPart).1, fun line statement inner => ?_,
      fun inner => ?_⟩
    · exact (isStatement.sound_part (partOf_iff.mpr (.inr inner))).2.2 line statement rfl
    · exact absurd rfl (isStatement.sound_part (partOf_iff.mpr (.inr inner))).2.1
  | numbered positive isStatement =>
    refine ⟨fun piece isPart => ?_, fun line statement inner => ?_, fun inner => ?_⟩
    · rcases partOf_iff.mp isPart with rfl | inner
      · exact positive
      · exact (isStatement.sound_part (below_programLine.mp inner)).1
    · exact (isStatement.sound_part (below_programLine.mp inner)).2.2 line statement rfl
    · exact absurd rfl (isStatement.sound_part (below_programLine.mp inner)).2.1
  | @bareNumber line positive =>
    have only : ∀ {piece : Node}, piece.PartOf .empty → piece = .empty := fun isPart =>
      (partOf_iff.mp isPart).resolve_right not_below_empty
    refine ⟨fun piece isPart => ?_, fun line statement inner => ?_, fun _ => ⟨line, rfl⟩⟩
    · rcases partOf_iff.mp isPart with rfl | inner
      · exact positive
      · cases only (below_programLine.mp inner)
        trivial
    · cases only (below_programLine.mp inner)

end Parts

end Node

section Lines

variable {line : String} {read : List Token} {tree : Node}

/-- What a line is read as is well formed. -/
theorem Node.wellFormed_of_tokens (isRead : tokens line = .ok read)
    (parsed : Parser.line read = .ok tree) : tree.WellFormed := by
  have native : Parser.Native read := fun token member => (native_of_tokens isRead token member).1
  obtain ⟨taken, rest, _, derives⟩ := Parser.line_sound native parsed
  exact Parser.wellFormed_of_line derives

end Lines

/-! ### How statements of lines fail -/

namespace Cause

/-- The codes of the failures that lie in what a statement is about. -/
def plainCodes : List String :=
  ["?UNDEF'D STATEMENT ERROR", "?TYPE MISMATCH ERROR", "?NEXT WITHOUT FOR ERROR",
    "?DIVISION BY ZERO ERROR", "?OVERFLOW ERROR"]

/-- A cause that says what has gone wrong by its code alone. -/
def IsPlain (cause : Cause) : Prop :=
  cause.code ∈ plainCodes ∧ cause.detail = none

theorem isPlain_of_isOrdinary {cause : Cause} (ordinary : cause.isOrdinary = true) :
    cause.IsPlain := by
  cases cause with
  | undefinedStatement => exact ⟨by decide, rfl⟩
  | typeMismatch => exact ⟨by decide, rfl⟩
  | nextWithoutFor => exact ⟨by decide, rfl⟩
  | divisionByZero => exact ⟨by decide, rfl⟩
  | overflow => exact ⟨by decide, rfl⟩
  | _ => cases ordinary

end Cause

namespace Node

/-- The statements that are executed when a statement is: it, and what its conditions guard. -/
inductive Executes (statement : Node) : Node → Prop where
  | itself : Executes statement statement
  | guarded {condition body : Node} (executes : Executes statement (ifThen condition body)) :
      Executes statement body

/-- The expressions that are evaluated when a statement is executed: those that it asks for the
values of, and their operands. -/
inductive Evaluates (statement : Node) : Node → Prop where
  | asked {outer expression : Node} (executes : Executes statement outer)
      (member : expression ∈ outer.operands) : Evaluates statement expression
  | operand {outer expression : Node} (evaluates : Evaluates statement outer)
      (member : expression ∈ outer.operands) : Evaluates statement expression

/-- **A statement that fails plainly**: whatever is executed or evaluated for it fails for a plain
cause, in every session. -/
structure FailsPlainly (statement : Node) : Prop where
  executed : ∀ inner : Node, statement.Executes inner → ∀ session after cause,
    Session.execute inner session = (after, .failed cause) → cause.IsPlain
  evaluated : ∀ expression : Node, statement.Evaluates expression → ∀ memory after cause,
    expression.evaluate memory = (after, .error cause) → cause.IsPlain

section Failures

variable {statement inner : Node}

theorem IsStatement.executes (isStatement : statement.IsStatement)
    (executes : statement.Executes inner) : inner.IsStatement := by
  induction executes with
  | itself => exact isStatement
  | guarded _ hypothesis => exact hypothesis.body (List.mem_singleton_self _)

theorem IsStatement.evaluates (isStatement : statement.IsStatement)
    (evaluates : statement.Evaluates inner) : inner.isExpression = true := by
  induction evaluates with
  | asked executes member => exact (isStatement.executes executes).operand member
  | operand _ member hypothesis => exact isExpression_operand hypothesis member

/-- **The statements of lines fail plainly.** -/
theorem IsStatement.failsPlainly (isStatement : statement.IsStatement) :
    statement.FailsPlainly where
  executed _ executes _ _ _ failed :=
    Cause.isPlain_of_isOrdinary
      ((Session.execute_explained failed).ordinary (isStatement.executes executes))
  evaluated _ evaluates _ _ _ failed :=
    Cause.isPlain_of_isOrdinary
      ((evaluate_explained failed).ordinary (isStatement.evaluates evaluates))

/-- Nothing at all does not fail. -/
theorem failsPlainly_empty : empty.FailsPlainly := by
  have only : ∀ {inner : Node}, empty.Executes inner → inner = empty := by
    intro inner executes
    induction executes with
    | itself => rfl
    | guarded _ hypothesis => cases hypothesis
  have none : ∀ {expression : Node}, ¬empty.Evaluates expression := by
    intro expression evaluates
    induction evaluates with
    | asked executes member =>
      cases only executes
      cases member
    | operand _ _ hypothesis => exact hypothesis
  refine ⟨fun inner executes session after cause failed => ?_,
    fun _ evaluates => absurd evaluates none⟩
  cases only executes
  simp only [Session.execute] at failed
  cases failed

end Failures

end Node

/-! ### Only what a line is read as is executed -/

/-- Whether what an activity is about to execute is the statement of a line, or nothing. -/
def Activity.IsParsed (activity : Activity) : Prop :=
  ∀ statement, activity.stage = .execute statement → statement = .empty ∨ statement.IsStatement

section Steps

variable {typed : String → Prop} {session : Session} {activity : Activity}

/-- A stored line holds a statement. -/
theorem Entry.IsLine.isStatement {number : Int} {entry : Entry} (isLine : entry.IsLine number) :
    entry.statement.IsStatement := by
  obtain ⟨source, statement⟩ := entry
  obtain ⟨read, isRead, parsed⟩ := isLine.reads
  cases Node.wellFormed_of_tokens isRead parsed with
  | statement isStatement => cases isStatement
  | numbered _ isStatement => exact isStatement
  | bareNumber => exact absurd rfl isLine.filled

theorem Activity.isParsed_inStage {stage : Stage}
    (unstated : ∀ statement, stage ≠ .execute statement) : (activity.inStage stage).IsParsed :=
  fun statement same => absurd same (unstated statement)

/-- **A step takes up the statement of a line**, or none. -/
theorem Session.isParsed_step (kept : session.Kept typed) (parsed : activity.IsParsed) :
    ∀ other ∈ (session.step activity).2.remaining activity, other.IsParsed := by
  have only : ∀ {following : Activity}, following.IsParsed →
      ∀ other ∈ [following], other.IsParsed := by
    rintro following isParsed other member
    cases List.mem_singleton.mp member
    exact isParsed
  have goesTo : ∀ {stage : Stage}, (∀ statement, stage ≠ .execute statement) →
      ∀ other ∈ [activity.inStage stage], other.IsParsed := fun unstated =>
    only (Activity.isParsed_inStage unstated)
  have moves := session.moves activity
  generalize session.step activity = result at moves ⊢
  cases moves with
  | read stage reads =>
    cases reads with
    | blank => exact List.forall_mem_nil _
    | refused => exact goesTo nofun
    | unreadable => exact only parsed
    | erased => exact goesTo nofun
    | stored => exact goesTo nofun
    | stated isRead isParsed unnumbered =>
      refine only ?_
      rintro statement ⟨⟩
      cases Node.wellFormed_of_tokens isRead isParsed with
      | empty => exact .inl rfl
      | statement isStatement => exact .inr isStatement
      | numbered => exact absurd rfl (unnumbered _ _)
      | bareNumber => exact absurd rfl (unnumbered _ _)
  | takes stage inside under found =>
    refine only ?_
    rintro statement ⟨⟩
    exact .inr (kept.stored _ _ found).2.isStatement
  | begins => exact only nofun
  | goesOn => exact only nofun
  | jumps => exact only nofun
  | left => exact only nofun
  | broken => exact only parsed
  | awaits => exact only parsed
  | misses => exact only parsed
  | handedOn => exact List.forall_mem_nil _
  | ends => exact List.forall_mem_nil _
  | _ => exact goesTo nofun

/-- An answer leaves nothing to execute, and one of the wrong kind fails for just that. -/
theorem Session.parsed_answer {prompt name : String}
    (awaits : activity.stage = .awaiting prompt name) (line : String) :
    (session.answer activity line).2.IsParsed ∧
      ∀ failure, (session.answer activity line).2.stage = .failed failure →
        failure.cause = .typeMismatch := by
  have completed : (activity.inStage .completed).IsParsed ∧
      ∀ failure, (activity.inStage .completed).stage = .failed failure →
        failure.cause = .typeMismatch := ⟨nofun, nofun⟩
  unfold answer
  rw [awaits]
  split
  · next stage =>
    split
    · exact completed
    · split
      · exact completed
      · refine ⟨nofun, ?_⟩
        rintro failure ⟨⟩
        rfl
  · next unasked => exact absurd rfl (unasked prompt name)

end Steps

section Sittings

variable {allowed : Call → Prop} {sitting : Sitting}

/-- In a sitting, only what lines are read as is executed. -/
theorem Sitting.isParsed_of_reached (reached : Reached allowed sitting) :
    ∀ activity ∈ sitting.activities, activity.IsParsed := by
  induction reached with
  | start => exact List.forall_mem_nil _
  | @step before after reached step hypothesis =>
    have kept := (orderly_of_reached reached).kept
    cases step with
    | called rests call =>
      cases call with
      | line => exact List.forall_mem_cons.mpr ⟨nofun, hypothesis⟩
      | run => exact List.forall_mem_cons.mpr ⟨nofun, hypothesis⟩
      | _ => exact hypothesis
    | advanced moves =>
      obtain ⟨parsed, others⟩ := List.forall_mem_cons.mp hypothesis
      have goesOn := Session.isParsed_step kept parsed
      rw [moves] at goesOn
      exact List.forall_mem_cons.mpr ⟨goesOn _ (List.mem_singleton_self _), others⟩
    | answered awaits line =>
      exact List.forall_mem_cons.mpr
        ⟨(Session.parsed_answer awaits line).1, (List.forall_mem_cons.mp hypothesis).2⟩
    | _ => exact (List.forall_mem_cons.mp hypothesis).2

/-- **Parsed code fails plainly.** The tree of a line is sound, and in every sitting, whatever was
called and however the calls ended: each stored statement and each one about to be executed fails
plainly, and so does the statement that takes a line of input. -/
theorem Sitting.parsed_failsPlainly (reached : Reached allowed sitting) :
    (∀ line read tree, tokens line = .ok read → Parser.line read = .ok tree → tree.Sound) ∧
      (∀ number entry, sitting.session.program.find? number = some entry →
        entry.statement.FailsPlainly) ∧
      ∀ activity ∈ sitting.activities,
        (∀ statement, activity.stage = .execute statement → statement.FailsPlainly) ∧
          ∀ prompt name line failure, activity.stage = .awaiting prompt name →
            (sitting.session.answer activity line).2.stage = .failed failure →
            failure.cause.IsPlain := by
  refine ⟨fun line read tree isRead parsed => (Node.wellFormed_of_tokens isRead parsed).sound,
    fun number entry found => ?_, fun activity member => ⟨fun statement stage => ?_, ?_⟩⟩
  · exact ((orderly_of_reached reached).kept.stored number entry found).2.isStatement.failsPlainly
  · rcases isParsed_of_reached reached activity member statement stage with rfl | isStatement
    · exact Node.failsPlainly_empty
    · exact isStatement.failsPlainly
  · intro prompt name line failure awaits failed
    rw [(Session.parsed_answer awaits line).2 failure failed]
    exact Cause.isPlain_of_isOrdinary rfl

/-- A `NEXT` is typed where no loop is open. -/
theorem Sitting.parsed_failsPlainly_next :
    ∃ sitting : Sitting, Reached (fun _ => True) sitting ∧
      sitting.activities = [(Activity.ofLine "NEXT").inStage (.execute (.next none))] ∧
      Session.execute (.next none) sitting.session = (sitting.session, .failed .nextWithoutFor) ∧
      (Node.next none).FailsPlainly := by
  have isRead : tokens "NEXT" = .ok [⟨.keyword "NEXT", 0⟩, ⟨.endOfLine, 4⟩] := by cbv
  have parsed : Parser.line [⟨.keyword "NEXT", 0⟩, ⟨.endOfLine, 4⟩] = .ok (.next none) := by cbv
  have reads : Session.step .fresh (.ofLine "NEXT") =
      (.fresh, .next ((Activity.ofLine "NEXT").inStage (.execute (.next none))) []) := by
    show Session.readLine .fresh (.ofLine "NEXT") "NEXT" = _
    have inked : Text.isBlankLine "NEXT" = false := by decide
    simp only [Session.readLine, inked, isRead, parsed, Bool.false_eq_true, if_false]
  have called : Reached (fun _ => True) ⟨.fresh, [.ofLine "NEXT"]⟩ :=
    Reached.start.step (.called (by rintro _ ⟨⟩) (.line "NEXT") trivial)
  have typed := called.step (.advanced reads)
  obtain ⟨_, _, executed⟩ := parsed_failsPlainly typed
  exact ⟨_, typed, rfl, rfl, (executed _ (List.mem_singleton_self _)).1 _ rfl⟩

end Sittings

end LineBasic
