/-
**The store of a program, in the order of typing.**

A store holds the lines of a program in the order in which their numbers came in: a line that is
stored again takes the place of the older one, and one that was deleted in between comes last.
Whoever wants a line looks for its number, and whoever goes over the lines sorts the numbers first.
So the order of a store is never seen. What is seen of it is its sorted view, and the view is a
program as a session holds it.

* `Store.view` — the program of a store: its lines in ascending order;
* `numbers_view`, `find?_view`, `listing_view` — what is read off a store is read off its view;
* `view_insert`, `view_erase`, `view_keepAll` — what is done to a store is done to its view;
* `Session.goesBy_of_view` — `LIST`, `RUN`, a `RUN` inside a program, `GOTO` and the lines that a run
  takes up go by the store;
* `Store.view_after` — the store after one step, and `Scene.goesBy_play`, after any number of ticks.
-/

import LineBasic.Proofs.Lines
import LineBasic.Proofs.Reading
import LineBasic.Proofs.Rerun

namespace LineBasic

open Association

/-- A listing looks each line up under its number. -/
theorem Program.listing_numbers (program : Program) (first last : Option Int) :
    program.listing first last =
      (program.numbers.filter (within first last)).filterMap fun number =>
        (program.find? number).map fun entry => toString number ++ " " ++ entry.body := by
  rw [listing, numbers, List.filter_map, List.filterMap_map, ← List.filterMap_eq_map]
  refine List.filterMap_congr fun line member => ?_
  have found := find?_of_mem (List.mem_of_mem_filter member)
  simp only [Function.comp_apply, found, Option.map_some]

/-- The lines of a program in the order in which their numbers came in. -/
structure Store where
  lines : List (Int × Entry)
  apart : lines.Pairwise fun line other => line.1 ≠ other.1

namespace Store

/-- The store without lines. -/
def empty : Store :=
  ⟨[], .nil⟩

/-- Whether there is no line. -/
def isEmpty (store : Store) : Bool :=
  store.lines.isEmpty

/-- The entry under a number. -/
def find? (store : Store) (number : Int) : Option Entry :=
  store.lines.lookup number

/-- The store with a line, in the place of an older one under its number or at the end. -/
def insert (store : Store) (number : Int) (entry : Entry) : Store :=
  ⟨put number entry store.lines, apart_put number entry store.apart⟩

/-- The store without the line of a number. -/
def erase (store : Store) (number : Int) : Store :=
  ⟨store.lines.filter fun line => line.1 != number, store.apart.filter _⟩

/-- The store after an entry is typed under a number; one that says nothing deletes the line. -/
def keep (store : Store) (number : Int) (entry : Entry) : Store :=
  match entry.statement with
  | .empty => store.erase number
  | _ => store.insert number entry

/-- The store after entries are typed one after the other. -/
def keepAll (store : Store) (typed : List (Int × Entry)) : Store :=
  typed.foldl (fun store line => store.keep line.1 line.2) store

/-- The line numbers, sorted. -/
def numbers (store : Store) : List Int :=
  (store.lines.map Prod.fst).mergeSort

/-- The lines within bounds: the sorted numbers, each with the text that is found under it. -/
def listing (store : Store) (first last : Option Int) : List String :=
  (store.numbers.filter (Program.within first last)).filterMap fun number =>
    (store.find? number).map fun entry => toString number ++ " " ++ entry.body

/-! ### The sorted view -/

/-- The lines in ascending order of their numbers. -/
def sorted (store : Store) : List (Int × Entry) :=
  store.lines.mergeSort fun line other => line.1 ≤ other.1

theorem sorted_perm (store : Store) : store.sorted.Perm store.lines :=
  List.mergeSort_perm store.lines _

/-- Sorted lines ascend strictly, since their numbers differ. -/
theorem ascending_sorted (store : Store) :
    store.sorted.Pairwise fun line later => line.1 < later.1 := by
  have ordered : store.sorted.Pairwise fun line later => decide (line.1 ≤ later.1) = true := by
    refine List.pairwise_mergeSort (fun line middle last => ?_) (fun line other => ?_) _
    · simpa using Int.le_trans
    · simpa using Int.le_total line.1 other.1
  have differ := store.sorted_perm.symm.pairwise store.apart Ne.symm
  refine (ordered.and differ).imp fun {line later} both => ?_
  exact lt_of_le_of_ne (of_decide_eq_true both.1) both.2

/-- The program of a store. -/
def view (store : Store) : Program :=
  ⟨store.sorted, store.ascending_sorted⟩

section View

variable (store : Store)

/-- The view has lines exactly if the store has. -/
theorem isEmpty_view : store.view.isEmpty = store.isEmpty :=
  store.sorted_perm.isEmpty_eq

/-- The numbers of the view are the sorted numbers of the store. -/
theorem numbers_view : store.view.numbers = store.numbers :=
  List.map_mergeSort fun _ _ _ _ => rfl

/-- What is found in the view is found in the store. -/
theorem find?_view (number : Int) : store.view.find? number = store.find? number :=
  lookup_perm store.sorted_perm store.apart number

/-- The view is listed as the store is. -/
theorem listing_view (first last : Option Int) :
    store.view.listing first last = store.listing first last := by
  rw [Program.listing_numbers, numbers_view, listing]
  simp only [find?_view]

/-- A line that is stored is stored in the view. -/
theorem view_insert (number : Int) (entry : Entry) :
    (store.insert number entry).view = store.view.insert number entry := by
  refine Program.ext fun other => ?_
  rw [Program.find?_insert, find?_view, find?_view]
  exact lookup_put number other entry store.lines

/-- A line that is deleted is deleted in the view. -/
theorem view_erase (number : Int) : (store.erase number).view = store.view.erase number := by
  refine Program.ext fun other => ?_
  rw [Program.find?_erase, find?_view, find?_view]
  exact lookup_filter number other store.lines

/-- An entry that is typed is typed into the view. -/
theorem view_keep (number : Int) (entry : Entry) :
    (store.keep number entry).view = store.view.keep number entry := by
  obtain ⟨source, statement⟩ := entry
  cases statement with
  | empty => exact store.view_erase number
  | _ => exact store.view_insert number _

/-- **Entries that are typed are typed into the view**, one by one. -/
theorem view_keepAll (typed : List (Int × Entry)) :
    (store.keepAll typed).view = store.view.keepAll typed := by
  induction typed generalizing store with
  | nil => rfl
  | cons first later hypothesis =>
    have kept := hypothesis (store.keep first.1 first.2)
    rw [view_keep] at kept
    exact kept

end View

theorem view_empty : empty.view = .empty :=
  Program.ext fun number => empty.find?_view number

/-- The store of lines with a number that are typed one after the other. -/
def typed (lines : List String) : Store :=
  empty.keepAll (lines.filterMap numbered?)

/-- The view of typed lines is the program that they make. -/
theorem view_typed (lines : List String) :
    (typed lines).view = Program.empty.keepAll (lines.filterMap numbered?) := by
  rw [typed, view_keepAll, view_empty]

end Store

/-! ### What a session reads off a store -/

namespace Session

/-- **A session goes by a store**: `LIST` looks the sorted numbers up; a run starts with the sorted
numbers, over which its jumps lead it; a `RUN` inside a program jumps to the least number; and
`GOTO`, as well as a run that comes to a line, looks for its number. -/
structure GoesBy (session : Session) (store : Store) : Prop where
  lists : ∀ first last, session.execute (.list first last) =
    (session, .done
      (if store.isEmpty then [.line ""] else (store.listing first last).map .line))
  begins : ∀ activity, session.beginRun activity =
    if store.isEmpty then (session, .next (activity.inStage .completed) [.line noProgram])
    else
      ({ session.restarted with running := true },
        .next { activity with cursor := some ⟨store.numbers, 0⟩, stage := .select }
          [.note (.runStarted store.numbers.length)])
  startsOver : ∀ first later, session.running = true → store.numbers = first :: later →
    session.execute .run = ({ session.restarted with jump := some ⟨first, false⟩ }, .done [])
  nothingLeft : session.running = true → store.numbers = [] →
    session.execute .run = (session.restarted, .fault .noLines)
  goesTo : ∀ line entry, store.find? line = some entry →
    session.execute (.goto line) = ({ session with jump := some ⟨line, false⟩ }, .done [])
  goesNowhere : ∀ line, store.find? line = none →
    session.execute (.goto line) = (session, .failed .undefinedStatement)
  takesUp : ∀ activity cursor line entry, session.underCursor cursor = some line →
    store.find? line = some entry → session.selectLine activity cursor =
      ({ session with current := some line },
        .next (activity.inStage (.execute entry.statement)) [])
  misses : ∀ activity cursor line, session.underCursor cursor = some line →
    store.find? line = none → session.selectLine activity cursor =
      ({ session with current := some line }, .fault (.missingLine line))

/-- **A session whose program is the view of a store goes by the store.** -/
theorem goesBy_of_view {session : Session} {store : Store}
    (stands : session.program = store.view) : session.GoesBy store where
  lists first last := by
    simp only [execute, executeList, stands, store.isEmpty_view, store.listing_view]
    split <;> rfl
  begins activity := by
    simp only [beginRun, stands, store.isEmpty_view, store.numbers_view]
  startsOver first later running ascending := by
    simp only [execute, executeRun, running, if_true, stands, store.numbers_view, ascending]
  nothingLeft running vacant := by
    simp only [execute, executeRun, running, if_true, stands, store.numbers_view, vacant]
  goesTo line entry found := by
    simp only [execute, executeGoto, stands, store.find?_view, found]
  goesNowhere line absent := by
    simp only [execute, executeGoto, stands, store.find?_view, absent]
  takesUp activity cursor line entry under found := by
    simp only [selectLine, under, stands, store.find?_view, found]
  misses activity cursor line under absent := by
    simp only [selectLine, under, stands, store.find?_view, absent]

end Session

/-! ### What a session does to a store -/

namespace Session

/-- Reading a line with a number keeps its entry. -/
theorem program_numbered (session : Session) (activity : Activity) {line : String}
    {typed : Int × Entry} (isNumbered : numbered? line = some typed) :
    (session.readLine activity line).1.program = session.program.keep typed.1 typed.2 := by
  obtain ⟨rfl, isRead⟩ := isRead_of_numbered? isNumbered
  have inked := isRead.inked
  obtain ⟨read, isRead, parsed⟩ := isRead
  simp only [readLine, inked, isRead, parsed, Bool.false_eq_true, if_false]
  rw [session.store_keep]

/-- Reading any other line leaves the program as it is. -/
theorem program_unnumbered (session : Session) (activity : Activity) {line : String}
    (unnumbered : numbered? line = none) :
    (session.readLine activity line).1.program = session.program := by
  have reads := session.readsLine activity line
  generalize session.readLine activity line = result at reads ⊢
  cases reads with
  | erased isRead parsed => simp [numbered?, isRead, parsed] at unnumbered
  | stored isRead parsed _ => simp [numbered?, isRead, parsed] at unnumbered
  | _ => rfl

/-- A statement that comes to `NEW` throws the program away. -/
theorem program_new {statement : Node} {session : Session} {memory : Memory}
    (comes : statement.comesTo session.memory = some (.new, memory)) :
    (session.execute statement).1.program = .empty :=
  congrArg (fun result => result.1.program) (session.execute_comesTo comes)

end Session

namespace Store

/-- The store after a step: a typed line with a number is kept, `NEW` throws everything away, and
nothing else touches the store. -/
def after (store : Store) (session : Session) (activity : Activity) : Store :=
  match activity.stage with
  | .read line =>
    match numbered? line with
    | some (number, entry) => store.keep number entry
    | none => store
  | .execute statement =>
    match statement.comesTo session.memory with
    | some (.new, _) => empty
    | _ => store
  | _ => store

/-- **A step does to the program what it does to the store.** -/
theorem view_after {store : Store} {session : Session} (stands : session.program = store.view)
    (activity : Activity) :
    (session.step activity).1.program = (store.after session activity).view := by
  unfold after
  split
  · next line stage =>
    have reads : session.step activity = session.readLine activity line := by
      simp only [Session.step, stage]
    rw [reads]
    split
    · next number entry isNumbered =>
      rw [session.program_numbered activity isNumbered, stands, view_keep]
    · next unnumbered => rw [session.program_unnumbered activity unnumbered, stands]
  · next statement stage =>
    have executes : session.step activity = session.executeStage activity statement := by
      simp only [Session.step, stage]
    rw [executes, session.program_executeStage]
    split
    · next memory comes => rw [session.program_new comes, view_empty]
    · next others => rw [session.program_execute others, stands]
  · next unread idle =>
    rw [Session.program_step unread fun statement memory stage => absurd stage (idle statement),
      stands]

end Store

namespace Scene

variable {scene : Scene} {store : Store}

/-- The store after a tick of a scene. -/
def storeAfter (scene : Scene) (store : Store) : Store :=
  match scene.ending with
  | some _ => store
  | none => store.after scene.session scene.activity

/-- The store after a number of ticks. -/
def storeAt (scene : Scene) (store : Store) : Nat → Store
  | 0 => store
  | n + 1 => (scene.play n).storeAfter (scene.storeAt store n)

/-- **A tick does to the program what it does to the store.** -/
theorem view_storeAfter (stands : scene.session.program = store.view) :
    scene.tick.session.program = (scene.storeAfter store).view := by
  unfold storeAfter
  cases isOver : scene.ending with
  | some ending =>
    rw [tick_over isOver]
    exact stands
  | none =>
    rw [tick_open isOver, program_follow]
    exact Store.view_after stands scene.activity

/-- All through a scene the program is the view of the store. -/
theorem view_storeAt (stands : scene.session.program = store.view) (n : Nat) :
    (scene.play n).session.program = (scene.storeAt store n).view := by
  induction n with
  | zero => exact stands
  | succ n hypothesis =>
    rw [play_succ]
    exact view_storeAfter hypothesis

/-- **All through a scene the session goes by the store.** -/
theorem goesBy_play (stands : scene.session.program = store.view) (n : Nat) :
    (scene.play n).session.GoesBy (scene.storeAt store n) :=
  Session.goesBy_of_view (view_storeAt stands n)

end Scene

end LineBasic
