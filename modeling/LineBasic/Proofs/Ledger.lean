/-
**The account of the reads.**

A ledger keeps what matters of the reads of a screen: how many were started, which one waits, with
the line as the keys have edited it, and how the others have ended. What is done to a screen enters
it in a few words: a read that is started waits if no other one does and is refused otherwise, a
key edits the line or ends the read with it, and a read may be cancelled or left behind.

* `Ledger`, `Ledger.apply` — the account, and what an action enters;
* `keys_edit`, `keys_enter` — keys up to an Enter make the line that ends the read;
* `Sound`, `sound_run` — each read is accounted for once;
* `waiting_run` — the line of a read since it began.
-/

import LineBasic.Terminal.Action
import Mathlib

namespace LineBasic

/-! ### What is done to a screen -/

namespace Action

/-- Whether an action concerns only the screen of a terminal and those who read there. -/
def isOfScreen : Action → Bool
  | executeLine _ => false
  | startLoop => false
  | setUp => false
  | showBanner => false
  | stop => false
  | reset => false
  | shutDown => false
  | _ => true

/-- Whether an action starts to read a line. -/
def isRead : Action → Bool
  | readLine _ => true
  | readCommand => true
  | _ => false

/-- The keys that an action presses. -/
def keys : Action → List Key
  | press keys => keys
  | type lines => lines.flatMap Screen.lineKeys
  | _ => []

/-- Whether an action leaves a read waiting: it presses no Enter, does not cancel the read and does
not leave the screen behind. -/
def Spares (task : Nat) (action : Action) : Prop :=
  Key.enter ∉ action.keys ∧ action ≠ .cancel task ∧ action ≠ .abandonScreen

end Action

/-- A line after a key that does not end it. -/
def Key.edit (line : List Char) : Key → List Char
  | character c => if Text.isPrintable c then line ++ Text.capital c else line
  | backspace => line.dropLast
  | enter => line
  | other _ => line

/-! ### The ledger -/

/-- The account of the reads of a screen: how many were started, the one that waits with its line,
and how the others ended, the latest first. -/
structure Ledger where
  started : Nat
  waiting : Option (Nat × List Char)
  ended : List (Nat × Ending)

namespace Ledger

/-- No read was started. -/
def empty : Ledger :=
  ⟨0, none, []⟩

/-- The read that waits ends. -/
def close (ending : List Char → Ending) (ledger : Ledger) : Ledger :=
  match ledger.waiting with
  | none => ledger
  | some (task, line) =>
    { ledger with waiting := none, ended := (task, ending line) :: ledger.ended }

/-- A key is pressed. -/
def key (ledger : Ledger) (key : Key) : Ledger :=
  if key = .enter then ledger.close fun line => .value (some (String.ofList line))
  else { ledger with waiting := ledger.waiting.map fun read => (read.1, key.edit read.2) }

/-- A read is started: it waits, unless another one does. -/
def start (ledger : Ledger) : Ledger :=
  match ledger.waiting with
  | none => { ledger with started := ledger.started + 1, waiting := some (ledger.started, []) }
  | some _ =>
    { ledger with
        started := ledger.started + 1
        ended := (ledger.started, .broken .readPending) :: ledger.ended }

/-- A read is cancelled, if it is the one that waits. -/
def cancel (task : Nat) (ledger : Ledger) : Ledger :=
  if ledger.waiting.map Prod.fst = some task then ledger.close fun _ => .cancelled else ledger

/-- What an action enters. -/
def apply (ledger : Ledger) (action : Action) : Ledger :=
  match action with
  | .readLine _ => ledger.start
  | .readCommand => ledger.start
  | .cancel task => ledger.cancel task
  | .abandonScreen => ledger.close fun _ => .cancelled
  | action => action.keys.foldl key ledger

end Ledger

/-! ### What the ledger says -/

namespace Ledger

section Laws

variable {ledger : Ledger} {task : Nat} {line : List Char}

theorem close_idle (idle : ledger.waiting = none) (ending : List Char → Ending) :
    ledger.close ending = ledger := by
  unfold close
  rw [idle]

theorem close_waiting (waits : ledger.waiting = some (task, line))
    (ending : List Char → Ending) :
    ledger.close ending =
      { ledger with waiting := none, ended := (task, ending line) :: ledger.ended } := by
  unfold close
  rw [waits]

/-- Keys enter nothing while no read waits. -/
theorem keys_idle (idle : ledger.waiting = none) (keys : List Key) :
    keys.foldl key ledger = ledger := by
  induction keys with
  | nil => rfl
  | cons first rest hypothesis =>
    have same : ledger.key first = ledger := by
      unfold key
      rw [close_idle idle, idle]
      split
      · rfl
      · rw [Option.map_none, ← idle]
    rw [List.foldl_cons, same, hypothesis]

/-- Keys without an Enter edit the line that waits. -/
theorem keys_edit (waits : ledger.waiting = some (task, line)) {keys : List Key}
    (goesOn : Key.enter ∉ keys) :
    keys.foldl key ledger = { ledger with waiting := some (task, keys.foldl Key.edit line) } := by
  induction keys generalizing ledger line with
  | nil => rw [List.foldl_nil, List.foldl_nil, ← waits]
  | cons first rest hypothesis =>
    obtain ⟨notFirst, notLater⟩ := List.ne_and_not_mem_of_not_mem_cons goesOn
    have edited : ledger.key first = { ledger with waiting := some (task, first.edit line) } := by
      unfold key
      rw [if_neg notFirst.symm, waits]
      rfl
    have waits' : (ledger.key first).waiting = some (task, first.edit line) := by rw [edited]
    rw [List.foldl_cons, List.foldl_cons, hypothesis waits' notLater, edited]

/-- Keys up to an Enter end the read that waits with its line. -/
theorem keys_enter (waits : ledger.waiting = some (task, line)) {keys : List Key}
    (goesOn : Key.enter ∉ keys) (rest : List Key) :
    (keys ++ .enter :: rest).foldl key ledger =
      { ledger with
          waiting := none
          ended := (task, .value (some (String.ofList (keys.foldl Key.edit line)))) ::
            ledger.ended } := by
  rw [List.foldl_append, keys_edit waits goesOn, List.foldl_cons]
  exact keys_idle rfl rest

end Laws

/-! ### Each read is accounted for once -/

/-- The reads that are accounted for: the one that waits, and those that have ended. -/
def known (ledger : Ledger) : List Nat :=
  ledger.waiting.toList.map Prod.fst ++ ledger.ended.map Prod.fst

/-- **Each read that was started is accounted for once.** -/
structure Sound (ledger : Ledger) : Prop where
  once : ledger.known.Nodup
  all : ∀ task, task ∈ ledger.known ↔ task < ledger.started

section Sound

variable {ledger : Ledger}

theorem sound_empty : empty.Sound :=
  ⟨List.nodup_nil, fun _ => ⟨nofun, nofun⟩⟩

theorem Sound.follow {after : Ledger} (sound : ledger.Sound) (known : after.known = ledger.known)
    (started : after.started = ledger.started) : after.Sound := by
  obtain ⟨once, all⟩ := sound
  exact ⟨known ▸ once, fun task => by rw [known, started]; exact all task⟩

theorem sound_close (sound : ledger.Sound) (ending : List Char → Ending) :
    (ledger.close ending).Sound := by
  cases waits : ledger.waiting with
  | none => rwa [close_idle waits]
  | some read =>
    have same : (ledger.close ending).known = ledger.known := by
      rw [close_waiting waits, known, known, waits]
      rfl
    refine sound.follow same ?_
    rw [close_waiting waits]

theorem sound_key (sound : ledger.Sound) (key : Key) : (ledger.key key).Sound := by
  unfold Ledger.key
  split
  · exact sound_close sound _
  · refine sound.follow ?_ rfl
    unfold known
    cases ledger.waiting <;> rfl

/-- A read that is started is accounted for, besides those that were. -/
theorem known_start (ledger : Ledger) :
    ledger.start.known.Perm (ledger.started :: ledger.known) := by
  unfold start
  split
  · next waits =>
    rw [known, known, waits]
    exact .refl _
  · next read waits =>
    rw [known, known, waits]
    exact List.Perm.swap _ _ _

theorem started_start (ledger : Ledger) : ledger.start.started = ledger.started + 1 := by
  unfold start
  split <;> rfl

theorem sound_start (sound : ledger.Sound) : ledger.start.Sound := by
  have fresh : ledger.started ∉ ledger.known := fun member =>
    Nat.lt_irrefl _ ((sound.all _).mp member)
  have added := known_start ledger
  refine ⟨added.nodup_iff.mpr (List.nodup_cons.mpr ⟨fresh, sound.once⟩), fun task => ?_⟩
  rw [added.mem_iff, List.mem_cons, sound.all, started_start]
  omega

/-- **An action leaves each read accounted for once.** -/
theorem sound_apply (sound : ledger.Sound) (action : Action) : (ledger.apply action).Sound := by
  have keys : ∀ keys : List Key, (keys.foldl key ledger).Sound := by
    intro keys
    induction keys generalizing ledger with
    | nil => exact sound
    | cons first rest hypothesis => exact hypothesis (sound_key sound first)
  cases action with
  | readLine prompt => exact sound_start sound
  | readCommand => exact sound_start sound
  | cancel task =>
    show (ledger.cancel task).Sound
    unfold cancel
    split
    · exact sound_close sound _
    · exact sound
  | abandonScreen => exact sound_close sound _
  | _ => exact keys _

theorem sound_run (sound : ledger.Sound) (actions : List Action) :
    (actions.foldl apply ledger).Sound := by
  induction actions generalizing ledger with
  | nil => exact sound
  | cons action rest hypothesis => exact hypothesis (sound_apply sound action)

end Sound

/-! ### The line since a read began -/

section Since

variable {ledger : Ledger} {task : Nat} {line : List Char}

/-- What leaves a read waiting edits its line with the keys that it presses. -/
theorem waiting_apply (waits : ledger.waiting = some (task, line)) {action : Action}
    (spares : action.Spares task) :
    (ledger.apply action).waiting = some (task, action.keys.foldl Key.edit line) := by
  obtain ⟨goesOn, notCancelled, notAbandoned⟩ := spares
  have started : ledger.start.waiting = ledger.waiting := by
    unfold start
    rw [waits]
  have edited : (action.keys.foldl key ledger).waiting =
      some (task, action.keys.foldl Key.edit line) := by
    rw [keys_edit waits goesOn]
  cases action with
  | readLine prompt => exact started.trans waits
  | readCommand => exact started.trans waits
  | cancel other =>
    have apart : ¬ledger.waiting.map Prod.fst = some other := by
      rw [waits]
      rintro ⟨⟩
      exact notCancelled rfl
    show (ledger.cancel other).waiting = _
    unfold cancel
    rw [if_neg apart]
    exact waits
  | abandonScreen => exact absurd rfl notAbandoned
  | _ => exact edited

theorem waiting_run (waits : ledger.waiting = some (task, line)) {actions : List Action}
    (spare : ∀ action ∈ actions, action.Spares task) :
    (actions.foldl apply ledger).waiting =
      some (task, (actions.flatMap Action.keys).foldl Key.edit line) := by
  induction actions generalizing ledger line with
  | nil => exact waits
  | cons action rest hypothesis =>
    obtain ⟨first, later⟩ := List.forall_mem_cons.mp spare
    rw [List.foldl_cons, hypothesis (waiting_apply waits first) later, List.flatMap_cons,
      List.foldl_append]

end Since

end Ledger

end LineBasic
