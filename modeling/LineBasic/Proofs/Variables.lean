/-
**Reading leaves the variables readable as before.**

Evaluating an expression may give a name without a value the one it starts with, and does nothing
else to the variables. `ReadsTo` says this of two states of the variables.

* `get_of_readsTo` — what is read under a name is the same before and after;
* `evaluate_readsTo`, `evaluateFloat_readsTo`, `printed_readsTo` — expressions only read.
-/

import LineBasic.Session.Execute
import Mathlib

namespace LineBasic

namespace Memory

/-- The second variables come from the first by reading: a name keeps what it had, and a name
without a value may have been given the one it starts with. -/
def ReadsTo (before after : Memory) : Prop :=
  ∀ name, after.find? name = before.find? name ∨
    (before.find? name = none ∧ after.find? name = some (Value.initial name))

theorem ReadsTo.refl (memory : Memory) : memory.ReadsTo memory :=
  fun _ => .inl rfl

theorem ReadsTo.trans {first second third : Memory} (before : first.ReadsTo second)
    (after : second.ReadsTo third) : first.ReadsTo third := by
  intro name
  rcases before name with kept | ⟨unset, given⟩
  · rcases after name with kept' | ⟨unset', given'⟩
    · exact .inl (kept'.trans kept)
    · exact .inr ⟨kept ▸ unset', given'⟩
  · rcases after name with kept' | ⟨unset', _⟩
    · exact .inr ⟨unset, kept'.trans given⟩
    · rw [given] at unset'
      cases unset'

/-- **What is read under a name is the same before and after reading.** -/
theorem get_of_readsTo {before after : Memory} (reads : before.ReadsTo after) (name : String) :
    after.get name = before.get name := by
  unfold get
  rcases reads name with kept | ⟨unset, given⟩
  · rw [kept]
  · rw [unset, given]
    rfl

/-- Reading one name gives it at most the value it starts with. -/
theorem readsTo_touch (memory : Memory) (name : String) : memory.ReadsTo (memory.touch name) := by
  intro other
  unfold touch
  cases found : memory.find? name with
  | some value => exact .inl rfl
  | none =>
    simp only
    rw [find?_set]
    by_cases same : other = name
    · subst same
      exact .inr ⟨found, if_pos rfl⟩
    · exact .inl (if_neg same)

end Memory

namespace Node

/-- **An expression only reads the variables**, whether it has a value or not. -/
theorem evaluate_readsTo (node : Node) (memory : Memory) :
    memory.ReadsTo (node.evaluate memory).1 := by
  fun_induction evaluate node memory with
  | case1 value memory => exact .refl memory
  | case2 text memory => exact .refl memory
  | case3 name memory => exact memory.readsTo_touch name
  | case4 operator left right memory after cause failed first =>
    rw [failed] at first
    exact first
  | case5 operator left right memory middle a evaluated after cause failed second first =>
    rw [evaluated] at second
    rw [failed] at first
    exact second.trans first
  | case6 operator left right memory middle a evaluated after b evaluated' second first =>
    rw [evaluated] at second
    rw [evaluated'] at first
    exact second.trans first
  | case7 operator operand memory after cause failed first =>
    rw [failed] at first
    exact first
  | case8 operand memory after value evaluated first =>
    rw [evaluated] at first
    exact first
  | case9 operator operand memory after value evaluated other first =>
    rw [evaluated] at first
    exact first
  | case10 => exact .refl _

theorem evaluateFloat_readsTo (node : Node) (memory : Memory) :
    memory.ReadsTo (node.evaluateFloat memory).1 := by
  have reads := node.evaluate_readsTo memory
  unfold evaluateFloat
  split
  · next after cause failed =>
    rw [failed] at reads
    exact reads
  · next after value evaluated =>
    rw [evaluated] at reads
    exact reads

end Node

namespace Session

/-- Printed items only read the variables. -/
theorem printed_readsTo (items : List Node) (separators : List String) (memory : Memory) :
    memory.ReadsTo (printed items separators memory).1 := by
  induction items generalizing separators memory with
  | nil => exact .refl memory
  | cons item items hypothesis =>
    have reads := item.evaluate_readsTo memory
    unfold printed
    split
    · next middle cause failed =>
      rw [failed] at reads
      exact reads
    · next middle value evaluated =>
      rw [evaluated] at reads
      have later := hypothesis separators.tail middle
      split
      · next after cause failed =>
        rw [failed] at later
        exact reads.trans later
      · next after rest printed =>
        rw [printed] at later
        exact reads.trans later

end Session

end LineBasic
