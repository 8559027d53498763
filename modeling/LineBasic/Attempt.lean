/-
**Attempts: work that may break off.**

An attempt leaves a state and, if it broke off, the reason. What it had changed until then stays
changed.

* `andThen_none` — an attempt that did not break off hands its state on;
* `andThen_assoc` — attempts can be grouped in any way.
-/

namespace LineBasic

/-- The state that an attempt leaves, and the reason if it broke off. -/
abbrev Attempt (State Reason : Type) : Type :=
  State × Option Reason

namespace Attempt

variable {State Reason : Type}

/-- Go on with the state that an attempt left, unless it broke off. -/
def andThen (attempt : Attempt State Reason) (next : State → Attempt State Reason) :
    Attempt State Reason :=
  match attempt with
  | (state, none) => next state
  | (state, some reason) => (state, some reason)

/-- An attempt that did not break off hands its state on. -/
@[simp] theorem andThen_none (state : State) (next : State → Attempt State Reason) :
    andThen (state, none) next = next state := rfl

/-- An attempt that broke off stays as it is. -/
@[simp] theorem andThen_some (state : State) (reason : Reason)
    (next : State → Attempt State Reason) :
    andThen (state, some reason) next = (state, some reason) := rfl

/-- Attempts can be grouped in any way. -/
theorem andThen_assoc (attempt : Attempt State Reason)
    (first second : State → Attempt State Reason) :
    (attempt.andThen first).andThen second =
      attempt.andThen fun state => (first state).andThen second := by
  obtain ⟨state, _ | reason⟩ := attempt <;> rfl

end Attempt

end LineBasic
