/-
**What was typed last under a number.**

Lines with a number are typed into a fresh session, one after the other. The program then holds
under each number the line that was typed last there, and nothing if that line says nothing. So it
does not matter in which order the lines were typed, nor what else was stored under a number before;
and it does not matter to anyone who lists the program or runs it, even if the lines are kept in a
store in the order in which they came in.

* `Rehearsal.typeLines_numbered` — lines with a number that are typed one after the other;
* `Program.find?_keepAll` — the program holds what was typed last;
* `Program.listing_ascending` — a listing goes by the numbers;
* `latest_kept` — two histories that end alike under every number.
-/

import LineBasic.Proofs.Store

namespace LineBasic

/-! ### Typing line after line -/

/-- A line with a number that is typed has then ended, if the host takes the note. -/
theorem Session.drive_numbered {World : Type} {deliver : World → Effect → World × Option Fault}
    {world after : World} (session : Session) {number : Int} {entry : Entry}
    (isRead : entry.IsRead number)
    (delivered : deliver world (.note (entry.note number)) = (after, none)) (steps : Nat) :
    session.drive deliver (steps + 2) world (.ofLine entry.source) =
      (after, { session with program := session.program.keep number entry, jump := none },
        .finished) := by
  rw [drive, session.step_numbered isRead, session.store_keep]
  simp only [deliverAll, delivered]
  rw [drive]
  rfl

namespace Rehearsal

theorem perform_numbered (host : Rehearsal) (session : Session) {number : Int} {entry : Entry}
    (isRead : entry.IsRead number) (questions : Nat) :
    host.perform (questions + 1) session (.ofLine entry.source) =
      ({ host with notes := entry.note number :: host.notes },
        { session with program := session.program.keep number entry, jump := none },
        .finished) := by
  have enough : Session.patience = 999999999998 + 2 := rfl
  rw [perform, enough, session.drive_numbered isRead rfl]

theorem performEach_numbered (questions : Nat) {typed : List (Int × Entry)}
    (areRead : ∀ line ∈ typed, line.2.IsRead line.1) (host : Rehearsal) {session : Session}
    (settled : session.jump = none) :
    performEach (perform (questions + 1)) host session (typed.map fun line => line.2.source) =
      ({ host with notes := (typed.map fun line => line.2.note line.1).reverse ++ host.notes },
        { session with program := session.program.keepAll typed }, none) := by
  induction typed generalizing host session with
  | nil => rfl
  | cons first later hypothesis =>
    have isRead := areRead first List.mem_cons_self
    rw [List.map_cons, performEach, host.perform_numbered session isRead]
    simp only
    rw [hypothesis (fun line member => areRead line (List.mem_cons_of_mem first member)) _ rfl,
      List.map_cons, List.reverse_cons, List.append_assoc, settled]
    rfl

/-- **Lines with a number that are typed go to the program** one by one, and nothing is reported. -/
theorem typeLines_numbered (host : Rehearsal) {typed : List (Int × Entry)}
    (areRead : ∀ line ∈ typed, line.2.IsRead line.1) :
    host.typeLines .fresh (typed.map fun line => line.2.source) =
      ({ host with notes := (typed.map fun line => line.2.note line.1).reverse ++ host.notes },
        { Session.fresh with program := Program.empty.keepAll typed }, none) := by
  have enough : Session.patience = 999999999999 + 1 := rfl
  rw [typeLines, enough]
  exact performEach_numbered _ areRead host rfl

end Rehearsal

/-! ### What is held under a number -/

/-- The entry that is held when an entry is typed: one that says nothing leaves nothing. -/
def Entry.held? (entry : Entry) : Option Entry :=
  match entry.statement with
  | .empty => none
  | _ => some entry

namespace Program

theorem find?_keep (program : Program) (number other : Int) (entry : Entry) :
    (program.keep number entry).find? other =
      if other = number then entry.held? else program.find? other := by
  obtain ⟨source, statement⟩ := entry
  cases statement with
  | empty => exact program.find?_erase number other
  | _ => exact program.find?_insert number other _

/-- **The program holds what was typed last** under each number. -/
theorem find?_keepAll (typed : List (Int × Entry)) (number : Int) :
    (empty.keepAll typed).find? number = (typed.reverse.lookup number).bind Entry.held? := by
  -- from the last line backwards: it decides about its number, and the lines before about the rest
  induction typed using List.reverseRecOn with
  | nil => rfl
  | append_singleton earlier last hypothesis =>
    have kept : empty.keepAll (earlier ++ [last]) =
        (empty.keepAll earlier).keep last.1 last.2 := List.foldl_concat ..
    rw [kept, find?_keep, List.reverse_concat, Association.lookup_cons, hypothesis]
    split <;> rfl

/-- **A listing goes by the numbers**: it shows one line for each number in the program that lies
within the bounds, in ascending order. -/
theorem listing_ascending (program : Program) (first last : Option Int) :
    ∃ shown : List (Int × Entry), shown.Pairwise (fun line later => line.1 < later.1) ∧
      (∀ number entry, (number, entry) ∈ shown ↔
        program.find? number = some entry ∧
          (∀ bound, first = some bound → bound ≤ number) ∧
          (∀ bound, last = some bound → number ≤ bound)) ∧
      program.listing first last =
        shown.map fun line => toString line.1 ++ " " ++ line.2.body := by
  refine ⟨_, program.ascending.filter _, fun number entry => ?_, rfl⟩
  have stored : (number, entry) ∈ program.lines ↔ program.find? number = some entry :=
    ⟨find?_of_mem, mem_of_find?⟩
  rw [List.mem_filter, stored, within, Bool.and_eq_true, Option.all_eq_true, Option.all_eq_true]
  simp only [decide_eq_true_eq]

end Program

/-! ### Histories of typed lines -/

/-- The line that was typed last under a number. -/
def lastTyped? (number : Int) (lines : List String) : Option String :=
  lines.reverse.find? fun line => (numbered? line).any fun typed => typed.1 == number

/-- Nothing is held under a number: no line was typed there, or the last one says nothing. -/
def IsVacant (number : Int) (lines : List String) : Prop :=
  ∀ line, lastTyped? number lines = some line → numbered? line = some (number, ⟨line, .empty⟩)

section History

variable {lines : List String}

/-- The entries of lines with a number, when they are typed. -/
theorem entries_of_numbered (areNumbered : ∀ line ∈ lines, (numbered? line).isSome) :
    (∀ typed ∈ lines.filterMap numbered?, typed.2.IsRead typed.1) ∧
      (lines.filterMap numbered?).map (fun typed => typed.2.source) = lines := by
  constructor
  · intro typed member
    obtain ⟨line, _, isTyped⟩ := List.mem_filterMap.mp member
    exact (isRead_of_numbered? isTyped).2
  · induction lines with
    | nil => rfl
    | cons first later hypothesis =>
      obtain ⟨typed, isTyped⟩ := Option.isSome_iff_exists.mp (areNumbered first List.mem_cons_self)
      rw [List.filterMap_cons_some isTyped, List.map_cons, (isRead_of_numbered? isTyped).1,
        hypothesis fun line member => areNumbered line (List.mem_cons_of_mem first member)]

/-- What the first line with a number says is the first entry under that number. -/
theorem lookup_numbered (number : Int) (lines : List String) :
    (lines.filterMap numbered?).lookup number =
      (lines.find? fun line => (numbered? line).any fun typed => typed.1 == number).bind
        fun line => (numbered? line).map Prod.snd := by
  induction lines with
  | nil => rfl
  | cons first later hypothesis =>
    cases isTyped : numbered? first with
    | none =>
      rw [List.filterMap_cons_none isTyped, hypothesis, List.find?_cons_of_neg (by simp [isTyped])]
    | some typed =>
      rw [List.filterMap_cons_some isTyped, Association.lookup_cons]
      by_cases same : number = typed.1
      · rw [if_pos same, List.find?_cons_of_pos (by simp [isTyped, same])]
        simp [isTyped]
      · rw [if_neg same, hypothesis, List.find?_cons_of_neg (by simp [isTyped, Ne.symm same])]

/-- The entry that the line typed last under a number leaves there. -/
def heldUnder? (number : Int) (lines : List String) : Option Entry :=
  (lastTyped? number lines).bind fun line => (numbered? line).bind fun typed => typed.2.held?

theorem find?_typed (number : Int) (lines : List String) :
    (Program.empty.keepAll (lines.filterMap numbered?)).find? number = heldUnder? number lines := by
  rw [Program.find?_keepAll, ← List.filterMap_reverse, lookup_numbered, heldUnder?, lastTyped?,
    Option.bind_assoc]
  simp only [Option.bind_map, Function.comp_def]

theorem IsVacant.heldUnder? {number : Int} (isVacant : IsVacant number lines) :
    heldUnder? number lines = none := by
  unfold LineBasic.heldUnder?
  cases last : lastTyped? number lines with
  | none => rfl
  | some line =>
    rw [Option.bind_some, isVacant line last]
    rfl

end History

/-- **What was typed last under a number is kept**, and nothing else matters. Two histories of
lines with a number end alike under a number if the same line was typed last in both, or if the
last one in either says nothing or is missing. If they end alike under every number, the programs
hold the same entries; their listings are the same within all bounds, and go by the numbers; and
their runs, given the same answers, are the same at every tick. The lines themselves may be kept in
the order of typing, which is another one for each history: both programs are sorted views of their
stores, and whatever a session does with the program, it goes by either store. -/
theorem latest_kept {first second : List String}
    (areNumbered : ∀ line ∈ first ++ second, (numbered? line).isSome)
    (alike : ∀ number, lastTyped? number first = lastTyped? number second ∨
      IsVacant number first ∧ IsVacant number second)
    (host host' : Rehearsal) :
    ∃ notes notes' one other,
      host.typeLines .fresh first = ({ host with notes }, one, none) ∧
      host'.typeLines .fresh second = ({ host' with notes := notes' }, other, none) ∧
      (one.program.numbers = other.program.numbers ∧
        ∀ number, one.program.find? number = heldUnder? number first ∧
          other.program.find? number = one.program.find? number) ∧
      (∀ low high, other.program.listing low high = one.program.listing low high ∧
        ∃ shown : List (Int × Entry), shown.Pairwise (fun line later => line.1 < later.1) ∧
          (∀ number entry, (number, entry) ∈ shown ↔
            one.program.find? number = some entry ∧
              (∀ bound, low = some bound → bound ≤ number) ∧
              (∀ bound, high = some bound → number ≤ bound)) ∧
          one.program.listing low high =
            shown.map fun line => toString line.1 ++ " " ++ line.2.body) ∧
      (∀ immediate answers n, (Scene.ofRun other immediate answers).play n =
        (Scene.ofRun one immediate answers).play n) ∧
      (one.program = (Store.typed first).view ∧ other.program = (Store.typed second).view ∧
        ∀ session : Session, session.program = one.program →
          session.GoesBy (Store.typed first) ∧ session.GoesBy (Store.typed second)) ∧
      ∀ immediate answers n,
        let scene := Scene.ofRun one immediate answers
        (scene.play n).session.GoesBy (scene.storeAt (Store.typed first) n) ∧
          (scene.play n).session.GoesBy (scene.storeAt (Store.typed second) n) := by
  obtain ⟨areRead, sources⟩ := entries_of_numbered fun line member =>
    areNumbered line (List.mem_append_left second member)
  obtain ⟨areRead', sources'⟩ := entries_of_numbered fun line member =>
    areNumbered line (List.mem_append_right first member)
  have same : Program.empty.keepAll (second.filterMap numbered?) =
      Program.empty.keepAll (first.filterMap numbered?) := by
    refine Program.ext fun number => ?_
    rw [find?_typed, find?_typed]
    rcases alike number with last | ⟨isVacant, isVacant'⟩
    · rw [heldUnder?, heldUnder?, last]
    · rw [isVacant.heldUnder?, isVacant'.heldUnder?]
  have typed := host.typeLines_numbered areRead
  have typed' := host'.typeLines_numbered areRead'
  rw [sources] at typed
  rw [sources', same] at typed'
  -- one program, which is the view of two stores
  have stands := (Store.view_typed first).symm
  have stands' : Program.empty.keepAll (first.filterMap numbered?) = (Store.typed second).view :=
    same ▸ (Store.view_typed second).symm
  refine ⟨_, _, _, _, typed, typed', ⟨rfl, fun number => ⟨find?_typed number first, rfl⟩⟩,
    fun low high => ⟨rfl, Program.listing_ascending _ low high⟩, fun _ _ _ => rfl,
    ⟨stands, stands', fun session shared => ?_⟩, fun immediate answers n => ?_⟩
  · exact ⟨Session.goesBy_of_view (shared.trans stands),
      Session.goesBy_of_view (shared.trans stands')⟩
  · exact ⟨Scene.goesBy_play stands n, Scene.goesBy_play stands' n⟩

/-- One line was replaced, one was deleted, and the lines were typed in another order, in which the
two stores still keep them. -/
theorem latest_kept_reordered :
    ∃ notes notes' one other,
      (Rehearsal.unwired []).typeLines .fresh ["20 END", "30 END", "30", "10 NEXT A"] =
        ({ Rehearsal.unwired [] with notes }, one, none) ∧
      (Rehearsal.unwired []).typeLines .fresh ["10 NEXT A", "20 RUN", "20 END"] =
        ({ Rehearsal.unwired [] with notes := notes' }, other, none) ∧
      one.program.find? 10 = some ⟨"10 NEXT A", .next (some "A")⟩ ∧
      other.program.find? 20 = some ⟨"20 END", .stop⟩ ∧
      other.program.find? 30 = none ∧
      other.program.listing none none = one.program.listing none none ∧
      ((Store.typed ["20 END", "30 END", "30", "10 NEXT A"]).lines.map Prod.fst = [20, 10] ∧
        (Store.typed ["10 NEXT A", "20 RUN", "20 END"]).lines.map Prod.fst = [10, 20] ∧
        one.GoesBy (Store.typed ["20 END", "30 END", "30", "10 NEXT A"]) ∧
        one.GoesBy (Store.typed ["10 NEXT A", "20 RUN", "20 END"])) ∧
      ∀ n, (Scene.ofRun other true fun _ => "").play n = (Scene.ofRun one true fun _ => "").play n := by
  have next : numbered? "10 NEXT A" = some (10, ⟨"10 NEXT A", .next (some "A")⟩) := by cbv
  have run : numbered? "20 RUN" = some (20, ⟨"20 RUN", .run⟩) := by cbv
  have stop : numbered? "20 END" = some (20, ⟨"20 END", .stop⟩) := by cbv
  have stop' : numbered? "30 END" = some (30, ⟨"30 END", .stop⟩) := by cbv
  have bare : numbered? "30" = some (30, ⟨"30", .empty⟩) := by cbv
  have areNumbered : ∀ line ∈ ["20 END", "30 END", "30", "10 NEXT A"] ++
      ["10 NEXT A", "20 RUN", "20 END"], (numbered? line).isSome := by
    simp [next, run, stop, stop', bare]
  have alike : ∀ number,
      lastTyped? number ["20 END", "30 END", "30", "10 NEXT A"] =
          lastTyped? number ["10 NEXT A", "20 RUN", "20 END"] ∨
        IsVacant number ["20 END", "30 END", "30", "10 NEXT A"] ∧
          IsVacant number ["10 NEXT A", "20 RUN", "20 END"] := by
    intro number
    by_cases thirty : number = 30
    · subst thirty
      refine .inr ⟨fun line last => ?_, fun line last => ?_⟩
      · simp [lastTyped?, next, bare] at last
        exact last ▸ bare
      · simp [lastTyped?, next, run, stop] at last
    · left
      by_cases twenty : number = 20
      · subst twenty
        simp [lastTyped?, next, stop, stop', bare]
      · simp [lastTyped?, List.find?_cons, next, run, stop, stop', bare, Ne.symm thirty,
          Ne.symm twenty]
  obtain ⟨notes, notes', one, other, typed, typed', ⟨_, held⟩, listings, runs, stores,
      _⟩ := latest_kept areNumbered alike (Rehearsal.unwired []) (Rehearsal.unwired [])
  refine ⟨notes, notes', one, other, typed, typed', ?_, ?_, ?_, (listings none none).1,
    ⟨?_, ?_, stores.2.2 one rfl⟩, runs true _⟩
  · rw [(held 10).1]
    simp [heldUnder?, lastTyped?, next, Entry.held?]
  · rw [(held 20).2, (held 20).1]
    simp [heldUnder?, lastTyped?, next, bare, stop, stop', Entry.held?]
  · rw [(held 30).2, (held 30).1]
    simp [heldUnder?, lastTyped?, next, bare, Entry.held?]
  · simp [Store.typed, Store.keepAll, Store.keep, Store.insert, Store.erase, Store.empty,
      Association.put, next, bare, stop, stop']
  · simp [Store.typed, Store.keepAll, Store.keep, Store.insert, Store.empty, Association.put, next,
      run, stop]

end LineBasic
