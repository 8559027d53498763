/-
**The variables of a session.**

A map from names to values. Reading a name that has no value gives it the one it starts with, so
reading may add an entry; what can be read does not change by that.

* `get_touch` — reading changes nothing that can be read;
* `get_set` — the value set last is the one read.
-/

import LineBasic.Association
import LineBasic.Value

namespace LineBasic

open Association

/-- A map from names to values. -/
structure Memory where
  entries : List (String × Value)

namespace Memory

/-- No variable has a value. -/
def empty : Memory :=
  ⟨[]⟩

/-- The value that a name has been given. -/
def find? (memory : Memory) (name : String) : Option Value :=
  memory.entries.lookup name

/-- The value that is read under a name. -/
def get (memory : Memory) (name : String) : Value :=
  (memory.find? name).getD (Value.initial name)

/-- The variables with a value set. -/
def set (memory : Memory) (name : String) (value : Value) : Memory :=
  ⟨put name value memory.entries⟩

/-- The variables after a name has been read. -/
def touch (memory : Memory) (name : String) : Memory :=
  match memory.find? name with
  | some _ => memory
  | none => memory.set name (Value.initial name)

/-! ### Laws of the map -/

/-- The value set last is the one found. -/
theorem find?_set (memory : Memory) (name other : String) (value : Value) :
    (memory.set name value).find? other =
      if other = name then some value else memory.find? other :=
  lookup_put name other value memory.entries

/-- The value set last is the one read. -/
theorem get_set (memory : Memory) (name other : String) (value : Value) :
    (memory.set name value).get other = if other = name then value else memory.get other := by
  unfold get
  rw [find?_set]
  split <;> rfl

/-- Reading changes nothing that can be read. -/
theorem get_touch (memory : Memory) (name other : String) :
    (memory.touch name).get other = memory.get other := by
  unfold touch
  split
  · rfl
  · next unset =>
    rw [get_set]
    split
    · next same =>
      subst same
      simp [get, unset]
    · rfl

end Memory

end LineBasic
