/-
**Why statements fail.**

Every way in which an expression has no value, and every way in which a statement fails, has a
cause of its own. Most causes lie in what a tree is about: values of the wrong kind, numbers out of
range, a quotient by zero, a loop or a line that is not there. The others lie in how a tree is
built: with an operator that is none, or with a node where none of its kind may stand. The causes
for which lines are refused before anything is executed are not among them.

* `Cause.Explains` — a cause for which a tree fails, an ordinary one if the tree is well built;
* `evaluate_explained`, `execute_explained` — why an expression has no value, and why a statement
  fails;
* `execute_cause` — the causes of both kinds.
-/

import LineBasic.Proofs.Statement

namespace LineBasic

namespace Cause

/-- Whether a cause is one for which a statement fails. -/
def isOfStatement : Cause → Bool
  | unknownCharacter .. => false
  | malformed _ => false
  | stated .. => false
  | _ => true

/-- Whether a cause lies in what a tree is about, and not in how it is built. -/
def isOrdinary : Cause → Bool
  | undefinedStatement => true
  | typeMismatch => true
  | nextWithoutFor => true
  | divisionByZero => true
  | overflow => true
  | _ => false

/-- **Why a tree fails**: for an ordinary cause, or for one that lies in how it is built. -/
def Explains (cause : Cause) (wellBuilt : Prop) : Prop :=
  cause.isOrdinary = true ∨ ¬wellBuilt ∧ cause.isOfStatement = true

section Explains

variable {cause : Cause} {wellBuilt whole : Prop}

/-- What explains the failure of a part explains that of the whole. -/
theorem Explains.outside (explains : cause.Explains wellBuilt) (part : whole → wellBuilt) :
    cause.Explains whole :=
  explains.imp id fun misbuilt => ⟨fun built => misbuilt.1 (part built), misbuilt.2⟩

/-- Well-built trees fail for ordinary causes. -/
theorem Explains.ordinary (explains : cause.Explains wellBuilt) (built : wellBuilt) :
    cause.isOrdinary = true :=
  explains.resolve_right fun misbuilt => misbuilt.1 built

/-- Every tree fails for a cause of statements. -/
theorem Explains.ofStatement (explains : cause.Explains wellBuilt) :
    cause.isOfStatement = true := by
  rcases explains with ordinary | misbuilt
  · cases cause <;> first | rfl | cases ordinary
  · exact misbuilt.2

end Explains

end Cause

namespace Value

variable {a b : Value} {cause : Cause}

theorem toFloat_cause (failed : a.toFloat = .error cause) : cause.isOrdinary = true := by
  unfold toFloat at failed
  split at failed
  · cases failed
    rfl
  · split at failed
    · cases failed
    · cases failed
      rfl

theorem compared_cause {numbers : Number → Number → Bool} {texts : String → String → Bool}
    (failed : compared numbers texts a b = .error cause) : cause.isOrdinary = true := by
  unfold compared at failed
  split at failed
  · cases failed
  · cases failed
  · cases failed
    rfl

theorem calculated_cause {operation : Float → Float → Except Cause Float}
    (fails : ∀ x y cause, operation x y = .error cause → cause.isOrdinary = true)
    (failed : calculated operation a b = .error cause) : cause.isOrdinary = true := by
  unfold calculated at failed
  split at failed
  · next other notFloat =>
    cases failed
    exact toFloat_cause notFloat
  · next x _ =>
    split at failed
    · next other notFloat =>
      cases failed
      exact toFloat_cause notFloat
    · next y _ =>
      cases result : operation x y with
      | error other =>
        rw [result] at failed
        cases failed
        exact fails x y cause result
      | ok z =>
        rw [result] at failed
        cases failed

theorem calculated_total_cause {operation : Float → Float → Float}
    (failed : calculated (fun x y => .ok (operation x y)) a b = .error cause) :
    cause.isOrdinary = true := by
  refine calculated_cause (fun x y other refused => ?_) failed
  cases refused

theorem quotient_cause (x y : Float) (cause : Cause) (failed : quotient x y = .error cause) :
    cause.isOrdinary = true := by
  unfold quotient at failed
  split at failed
  · cases failed
    rfl
  · cases failed

/-- An operator of the language fails for an ordinary cause, any other one for being none. -/
theorem combine_explained {operator : String} (failed : combine operator a b = .error cause) :
    cause.Explains
      (operator ∈ Node.comparisons ++ Node.additions ++ Node.multiplications) := by
  unfold combine at failed
  split at failed
  · unfold sum at failed
    split at failed
    · cases failed
    · exact .inl (calculated_total_cause failed)
  · exact .inl (calculated_total_cause failed)
  · exact .inl (calculated_total_cause failed)
  · exact .inl (calculated_cause quotient_cause failed)
  · cases failed
  · cases failed
  · exact .inl (compared_cause failed)
  · exact .inl (compared_cause failed)
  · exact .inl (compared_cause failed)
  · exact .inl (compared_cause failed)
  · cases failed
    refine .inr ⟨fun member => ?_, rfl⟩
    simp only [Node.comparisons, Node.additions, Node.multiplications, List.mem_append,
      List.mem_cons, List.not_mem_nil, or_false] at member
    simp_all

end Value

namespace Node

/-- **Why an expression has no value.** -/
theorem evaluate_explained {node : Node} {memory after : Memory} {cause : Cause}
    (failed : node.evaluate memory = (after, .error cause)) :
    cause.Explains (node.isExpression = true) := by
  have parts : ∀ {operator : String} {left right : Node},
      (binary operator left right).isExpression = true →
        operator ∈ comparisons ++ additions ++ multiplications ∧ left.isExpression = true ∧
          right.isExpression = true := by
    intro operator left right expression
    simpa only [isExpression, Bool.and_eq_true, List.contains_iff_mem, and_assoc]
      using expression
  have negated : ∀ {operator : String} {operand : Node},
      (unary operator operand).isExpression = true →
        operator = "-" ∧ operand.isExpression = true := by
    intro operator operand expression
    simpa only [isExpression, Bool.and_eq_true, beq_iff_eq] using expression
  fun_induction evaluate node memory generalizing after cause with
  | case1 => cases failed
  | case2 => cases failed
  | case3 => cases failed
  | case4 operator left right memory middle other inner hypothesis =>
    cases failed
    exact (hypothesis inner).outside fun expression => (parts expression).2.1
  | case5 operator left right memory middle a _ last other inner _ hypothesis =>
    cases failed
    exact (hypothesis inner).outside fun expression => (parts expression).2.2
  | case6 operator left right memory middle a _ last b _ _ _ =>
    exact (Value.combine_explained (congrArg Prod.snd failed)).outside fun expression =>
      (parts expression).1
  | case7 operator operand memory middle other inner hypothesis =>
    cases failed
    exact (hypothesis inner).outside fun expression => (negated expression).2
  | case8 operand memory middle value evaluated hypothesis =>
    cases result : value.toFloat with
    | error other =>
      rw [result] at failed
      cases failed
      exact .inl (Value.toFloat_cause result)
    | ok x =>
      rw [result] at failed
      cases failed
  | case9 operator operand memory middle value evaluated different hypothesis =>
    cases failed
    exact .inr ⟨fun expression => different (negated expression).1, rfl⟩
  | case10 node memory =>
    cases failed
    refine .inr ⟨fun expression => ?_, rfl⟩
    cases node <;> first | (cases expression; done) | simp_all

theorem evaluateFloat_explained {node : Node} {memory after : Memory} {cause : Cause}
    (failed : node.evaluateFloat memory = (after, .error cause)) :
    cause.Explains (node.isExpression = true) := by
  unfold evaluateFloat at failed
  split at failed
  · next inner =>
    cases failed
    exact evaluate_explained inner
  · exact .inl (Value.toFloat_cause (congrArg Prod.snd failed))

end Node

namespace Session

theorem printed_explained {items : List Node} {separators : List String} {memory after : Memory}
    {cause : Cause} (failed : printed items separators memory = (after, .error cause)) :
    cause.Explains (∀ item ∈ items, item.isExpression = true) := by
  induction items generalizing separators memory with
  | nil => cases failed
  | cons item items hypothesis =>
    unfold printed at failed
    split at failed
    · next inner =>
      cases failed
      exact (Node.evaluate_explained inner).outside fun all => all item List.mem_cons_self
    · split at failed
      · next inner =>
        cases failed
        exact (hypothesis inner).outside fun all => (List.forall_mem_cons.mp all).2
      · cases failed

variable {session after : Session} {cause : Cause}

theorem executeFor_explained {name : String} {start limit step : Node}
    (failed : executeFor name start limit step session = (after, .failed cause)) :
    cause.Explains (Node.forLoop name start limit step).IsStatement := by
  have parts : (Node.forLoop name start limit step).IsStatement →
      start.isExpression = true ∧ limit.isExpression = true ∧ step.isExpression = true := by
    rintro ⟨⟩
    exact ⟨‹_›, ‹_›, ‹_›⟩
  unfold executeFor at failed
  split at failed
  · next inner =>
    cases failed
    exact (Node.evaluateFloat_explained inner).outside fun built => (parts built).1
  · split at failed
    · next inner =>
      cases failed
      exact (Node.evaluateFloat_explained inner).outside fun built => (parts built).2.1
    · split at failed
      · next inner =>
        cases failed
        exact (Node.evaluateFloat_explained inner).outside fun built => (parts built).2.2
      · cases failed

theorem executeNext_cause {name : Option String}
    (failed : executeNext name session = (after, .failed cause)) : cause.isOrdinary = true := by
  unfold executeNext at failed
  split at failed
  · cases failed
    rfl
  · split at failed
    · cases failed
      rfl
    · simp only at failed
      split at failed
      · next inner =>
        cases failed
        exact Value.toFloat_cause inner
      · split at failed
        · split at failed <;> cases failed
        · cases failed

/-- **Why a statement fails.** -/
theorem execute_explained {statement : Node}
    (failed : session.execute statement = (after, .failed cause)) :
    cause.Explains statement.IsStatement := by
  fun_induction execute statement session
  case case1 =>
    unfold executePrint at failed
    split at failed
    · next inner =>
      cases failed
      refine (printed_explained inner).outside ?_
      rintro ⟨⟩
      assumption
    · cases failed
  case case2 =>
    unfold executeAssign at failed
    split at failed
    · next inner =>
      cases failed
      refine (Node.evaluate_explained inner).outside ?_
      rintro ⟨⟩
      assumption
    · cases failed
  case case3 => cases failed
  case case4 inner =>
    cases failed
    refine (Node.evaluate_explained inner).outside ?_
    rintro ⟨⟩
    assumption
  case case5 hypothesis =>
    refine (hypothesis failed).outside ?_
    rintro ⟨⟩
    assumption
  case case6 => cases failed
  case case7 =>
    unfold executeGoto at failed
    split at failed
    · cases failed
      exact .inl rfl
    · cases failed
  case case8 => exact executeFor_explained failed
  case case9 => exact .inl (executeNext_cause failed)
  case case10 => cases failed
  case case11 =>
    unfold executeRun at failed
    split at failed
    · split at failed <;> cases failed
    · cases failed
  case case12 =>
    unfold executeList at failed
    split at failed <;> cases failed
  case case13 => cases failed
  case case14 => cases failed
  case case15 => cases failed
  case case16 => cases failed
  case case17 =>
    cases failed
    refine .inr ⟨fun built => ?_, rfl⟩
    cases built <;> grind

/-- The causes for which statements fail. -/
theorem execute_cause {statement : Node}
    (failed : session.execute statement = (after, .failed cause)) :
    cause.isOfStatement = true :=
  (execute_explained failed).ofStatement

end Session

end LineBasic
