/-
**Two front ends, one session.**

A console reads lines of a text, and writes. A terminal makes lines of keys, and shows them on a
screen; its prompt loop hands each of them to whoever waits for one. For the session both are the
same: given the same lines, it is asked and answered alike, and comes to the same program, the
same variables and the same loops.

* `Console.Holds`, `Console.holds_reply` — a console is where a session is line by line;
* `Terminal.Holds`, `Terminal.holds_type` — so is a terminal with its prompt loop;
* `Text.bareLines_join` — any lines of characters that print are the lines of a text;
* `front_ends_agree` — what this says of a text on a console and its lines on a terminal.
-/

import LineBasic.Console.Dialogue
import LineBasic.Proofs.Delivery
import LineBasic.Proofs.Taking
import LineBasic.Proofs.Talk
import LineBasic.Terminal.Action

namespace LineBasic

/-- Two sessions with the same program, the same variables and the same open loops. -/
structure Session.Matches (first second : Session) : Prop where
  program : first.program = second.program
  memory : first.memory = second.memory
  loops : first.loops = second.loops

/-- An activity that is broken off takes nothing of this away. -/
theorem Session.matches_abandon (session : Session) (activity : Activity) :
    (session.abandon activity).1.Matches session := by
  unfold abandon leaveLine
  split
  · simp only
    split
    · exact ⟨rfl, rfl, rfl⟩
    · exact ⟨rfl, rfl, rfl⟩
  · simp only
    split
    · exact ⟨rfl, rfl, rfl⟩
    · exact ⟨rfl, rfl, rfl⟩

/-! ### The console -/

/-- Nothing that is written to a printout breaks off. -/
theorem Printout.takes (clears : Bool) :
    Session.Takes (Printout.deliver clears) fun _ => True where
  unbroken _ effect _ := by cases effect <;> rfl
  stays _ _ _ := trivial

namespace Console

/-- For what a console waits, if a session does for a command or for an answer. -/
def turnOf : Option Activity → Turn
  | none => .command
  | some activity => .answer activity []

/-- A console is where a session is line by line. -/
structure Holds (console : Console) (talk : Talk) : Prop where
  prompting : console.prompting = true
  session : console.session = talk.session
  turn : console.turn = turnOf talk.asking

section Holds

variable {console : Console} {talk : Talk}

/-- When all work is done a console waits for a command. -/
theorem holds_nil (prompting : console.prompting = true) :
    (console.work []).Holds ⟨console.session, none⟩ := by
  unfold work
  rw [if_pos prompting]
  exact ⟨prompting, rfl, rfl⟩

/-- Work that comes to a question or to its end leaves a console there. -/
theorem holds_work (prompting : console.prompting = true) {activity : Activity}
    (settled : Session.Settled (console.session.comesTo activity)) :
    (console.work [activity]).Holds (.after (console.session.comesTo activity)) := by
  obtain ⟨printout, driven, _⟩ := @Session.Takes.comesTo _ _ _ console.printout
    (Printout.takes console.clears) trivial console.session activity
  -- Only these two cases are left: the faults, at which a console ends, do not occur.
  generalize console.session.comesTo activity = result at settled driven ⊢
  unfold work
  rw [driven]
  cases settled with
  | asks prompt steady immediate => exact ⟨prompting, rfl, rfl⟩
  | @ends session idle => exact @holds_nil { console with printout, session } prompting

/-- **A line takes a console where it takes a session.** -/
theorem holds_reply (holds : console.Holds talk) {line : String}
    (settled : Session.Settled (talk.outcome (typedLine line))) :
    (console.reply (some line)).Holds (talk.take (typedLine line)) := by
  obtain ⟨prompting, session, turn⟩ := holds
  obtain ⟨_, asking⟩ := talk
  cases session
  unfold reply
  rw [turn]
  cases asking with
  | none =>
    show Holds (console.work [.ofLine (typedLine line)])
      (.after (console.session.comesTo (.ofLine (typedLine line))))
    exact holds_work prompting settled
  | some activity =>
    let answered := console.session.answer activity (typedLine line)
    exact @holds_work { console with session := answered.1 } prompting answered.2 settled

/-- **Lines take a console where they take a session.** -/
theorem holds_hold (holds : console.Holds talk) {lines : List String}
    (settles : talk.Settles (lines.map typedLine)) :
    ∃ after, (Dialogue.console console).hold lines = .console after ∧
      after.Holds ((lines.map typedLine).foldl Talk.take talk) := by
  induction lines generalizing console talk with
  | nil => exact ⟨console, rfl, holds⟩
  | cons line rest hypothesis =>
    obtain ⟨settled, settles'⟩ := settles
    exact hypothesis (holds_reply holds settled) settles'

/-- A console that greets the user is where a session is at the start. -/
theorem holds_interactive (clears : Bool) : (interactive clears).Holds .fresh :=
  ⟨rfl, rfl, rfl⟩

/-- The end of the input ends the dialogue, with a fault if it comes at a question; it takes away
nothing that a session has stored. -/
theorem holds_end (holds : console.Holds talk) :
    (console.reply none).turn = .ended (talk.asking.map fun _ => .endOfInput "") ∧
      (console.reply none).session.Matches talk.session := by
  obtain ⟨prompting, session, turn⟩ := holds
  rw [← session]
  unfold reply
  rw [turn]
  cases talk.asking with
  | none => exact ⟨rfl, rfl, rfl, rfl⟩
  | some activity => exact ⟨rfl, console.session.matches_abandon activity⟩

end Holds

end Console

/-! ### The terminal -/

/-- Screens on which no read waits take what is written. -/
theorem Screen.lasting_quiet : Screen.Lasting Screen.Quiet where
  prints := by
    intro screen quiet text
    obtain ⟨after, printed, leaves⟩ := print_fits quiet.roomy text
    exact ⟨after, printed, quiet.leaves leaves⟩
  clears quiet := quiet.leaves (leaves_clear quiet.roomy)

/-- At a desk with a session connected, an activity comes as far as it comes. -/
theorem Desk.perform_wired {desk : Desk} (wired : desk.wired = true) (quiet : desk.screen.Quiet)
    (session : Session) (activity : Activity) :
    ∃ after, desk.perform Session.patience session activity =
        (after, session.comesTo activity) ∧ after.wired = true ∧ after.screen.Quiet := by
  obtain ⟨after, driven, wired', quiet'⟩ :=
    (Screen.lasting_quiet.takes true).comesTo ⟨wired, quiet⟩ session activity
  refine ⟨after, ?_, wired', quiet'⟩
  -- The bound is one on questions that nobody can be asked; here it is not used up.
  have enough : Session.patience = 999999999999 + 1 := rfl
  generalize session.comesTo activity = result at driven ⊢
  rw [enough, perform, driven]
  rcases result with ⟨session', ⟨prompt, waiting⟩ | _ | failure | fault | rest⟩
  · simp only [wired', if_true]
  all_goals rfl

/-- The keys of characters that print add their capital forms. -/
theorem Key.foldl_edit {text : List Char} (printable : ∀ c ∈ text, Text.isPrintable c = true)
    (line : List Char) :
    (text.map Key.character).foldl Key.edit line = line ++ text.flatMap Text.capital := by
  induction text generalizing line with
  | nil => simp
  | cons c rest hypothesis =>
    obtain ⟨first, later⟩ := List.forall_mem_cons.mp printable
    have edited : Key.edit line (.character c) = line ++ Text.capital c := if_pos first
    rw [List.map_cons, List.foldl_cons, edited, hypothesis later, List.flatMap_cons,
      List.append_assoc]

/-- A line that is typed is delivered in capitals. -/
theorem Screen.Typing.pressLine {screen : Screen} {ticket : Nat} (typing : screen.Typing ticket [])
    {line : String} (printable : ∀ c ∈ line.toList, Text.isPrintable c = true) :
    ∃ after, screen.pressAll ([line].flatMap Screen.lineKeys) =
      (after, .ok (some ⟨ticket, Text.capitals line⟩)) ∧ after.Quiet := by
  have goesOn : Key.enter ∉ line.toList.map Key.character := by
    simp
  obtain ⟨after, pressed, quiet⟩ := typing.pressAll_enter goesOn []
  rw [Key.foldl_edit printable, List.nil_append] at pressed
  have typed : [line].flatMap Screen.lineKeys =
      line.toList.map Key.character ++ [.enter] := List.flatMap_singleton ..
  rw [typed]
  exact ⟨after, pressed, quiet⟩

namespace Terminal

/-- A terminal whose prompt loop is at work with a session, while nobody reads. -/
structure Works (terminal : Terminal) (session : Session) : Prop where
  session : terminal.session = session
  wired : terminal.desk.wired = true
  looping : terminal.looping = true
  readers : terminal.readers = []
  quiet : terminal.screen.Quiet

/-- What the prompt loop reads a line for, if a session waits for a command or for an answer. -/
inductive ReadsFor : Option Activity → Purpose → Prop where
  | command : ReadsFor none .command
  | answer (line : String) (activity : Activity) :
      ReadsFor (some activity) (.answer (.command line) activity)

/-- A terminal with its prompt loop is where a session is line by line: the loop is the only one
who reads, and no key has been pressed since. -/
structure Holds (terminal : Terminal) (talk : Talk) : Prop where
  session : terminal.session = talk.session
  wired : terminal.desk.wired = true
  looping : terminal.looping = true
  reads : ∃ task ticket purpose, terminal.readers = [⟨task, ticket, purpose⟩] ∧
    terminal.screen.Typing ticket [] ∧ ReadsFor talk.asking purpose

/-- A terminal whose prompt loop has just begun to read a command. -/
structure AtPrompt (task : Nat) (session : Session) (terminal : Terminal) : Prop where
  session : terminal.session = session
  wired : terminal.desk.wired = true
  looping : terminal.looping = true
  reads : ∃ ticket, terminal.readers = [⟨task, ticket, .command⟩] ∧
    terminal.screen.Typing ticket []

section Holds

variable {terminal : Terminal} {session : Session} {talk : Talk}

/-- At its prompt a terminal waits for a command. -/
theorem AtPrompt.holds {task : Nat} (atPrompt : terminal.AtPrompt task session) :
    terminal.Holds ⟨session, none⟩ := by
  obtain ⟨ticket, readers, typing⟩ := atPrompt.reads
  exact ⟨atPrompt.session, atPrompt.wired, atPrompt.looping, task, ticket, .command, readers,
    typing, .command⟩

/-- The prompt loop reads a command. -/
theorem Works.prompt (works : terminal.Works session) (task : Nat) :
    (terminal.prompt task).AtPrompt task session := by
  obtain ⟨after, ticket, opened, typing⟩ := Screen.opens_openCommand.opened _ works.quiet
  unfold Terminal.prompt await
  rw [if_pos works.looping, opened]
  have readers : ((terminal.setScreen after).rest ⟨task, ticket, .command⟩).readers =
      [⟨task, ticket, .command⟩] := congrArg _ works.readers
  exact ⟨works.session, works.wired, works.looping, ticket, readers, typing⟩

/-- A command that comes to a question or to its end leaves a terminal there. -/
theorem Works.work (works : terminal.Works session) (task : Nat) (line : String)
    {activity : Activity} (settled : Session.Settled (session.comesTo activity)) :
    (terminal.work task (.command line) activity).Holds (.after (session.comesTo activity)) := by
  obtain ⟨rfl, wired, looping, readers, quiet⟩ := works
  obtain ⟨desk, performed, wired', quiet'⟩ :=
    Desk.perform_wired wired quiet terminal.session activity
  generalize terminal.session.comesTo activity = result at settled performed ⊢
  unfold Terminal.work
  rw [performed]
  cases settled with
  | @asks program session activity prompt steady immediate =>
    obtain ⟨after, ticket, opened, typing⟩ := (Screen.opens_openRead prompt).opened _ quiet'
    have opened' : Screen.openRead prompt
        ({ terminal with desk, session } : Terminal).screen = (after, .ok ticket) := opened
    simp only [opened']
    exact ⟨rfl, wired', looping, task, ticket, _, congrArg _ readers, typing, .answer line activity⟩
  | @ends session idle =>
    have left : Works { terminal with desk, session } session :=
      ⟨rfl, wired', looping, readers, quiet'⟩
    exact (left.prompt task).holds

/-- With the line that it was waiting for, the prompt loop takes a terminal where it takes a
session. -/
theorem Works.resume {asking : Option Activity} (works : terminal.Works session)
    {purpose : Purpose} (reads : ReadsFor asking purpose) (task ticket : Nat) {line : String}
    (settled : Session.Settled (Talk.outcome line ⟨session, asking⟩)) :
    (terminal.resume ⟨task, ticket, purpose⟩ line).Holds (Talk.take ⟨session, asking⟩ line) := by
  obtain ⟨rfl, wired, looping, readers, quiet⟩ := works
  cases reads with
  | command =>
    have noted : Works { terminal with desk := terminal.desk.note (.commandRead line) }
        terminal.session :=
      ⟨rfl, wired, looping, readers, quiet⟩
    exact noted.work task line settled
  | answer typed activity =>
    let answered := terminal.session.answer activity line
    have given : Works { terminal with session := answered.1 } answered.1 :=
      ⟨rfl, wired, looping, readers, quiet⟩
    exact given.work task typed settled

/-- A line that reaches the prompt loop takes a terminal where it takes a session. -/
theorem holds_receive {screen : Screen} (holds : terminal.Holds talk) (quiet : screen.Quiet)
    {task ticket : Nat} {purpose : Purpose} (readers : terminal.readers = [⟨task, ticket, purpose⟩])
    (reads : ReadsFor talk.asking purpose) {line : String}
    (settled : Session.Settled (talk.outcome line)) :
    ((terminal.setScreen screen).receive ⟨ticket, line⟩).Holds (talk.take line) := by
  have only : (terminal.setScreen screen).readers = [⟨task, ticket, purpose⟩] := readers
  rw [receive_only only quiet.pending]
  -- The loop is on its own again: its read is over, and it does not read the next line yet.
  have left : Works { terminal.setScreen screen with readers := [] } talk.session :=
    ⟨holds.session, holds.wired, holds.looping, rfl, quiet⟩
  exact left.resume reads task ticket settled

/-- **A line that is typed takes a terminal where it takes a session.** -/
theorem holds_type (holds : terminal.Holds talk) {line : String}
    (printable : ∀ c ∈ line.toList, Text.isPrintable c = true)
    (settled : Session.Settled (talk.outcome (Text.capitals line))) :
    ((Action.type [line]).apply terminal).1.Holds (talk.take (Text.capitals line)) := by
  obtain ⟨task, ticket, purpose, readers, typing, reads⟩ := holds.reads
  obtain ⟨screen, pressed, quiet⟩ := typing.pressLine printable
  show (terminal.press ([line].flatMap Screen.lineKeys)).1.Holds _
  unfold press
  rw [pressed]
  exact holds_receive holds quiet readers reads settled

/-- **Lines that are typed one by one take a terminal where they take a session.** -/
theorem holds_run (holds : terminal.Holds talk) {lines : List String}
    (printable : ∀ line ∈ lines, ∀ c ∈ line.toList, Text.isPrintable c = true)
    (settles : talk.Settles (lines.map Text.capitals)) :
    (terminal.run (lines.map fun line => .type [line])).Holds
      ((lines.map Text.capitals).foldl Talk.take talk) := by
  induction lines generalizing terminal talk with
  | nil => exact holds
  | cons line rest hypothesis =>
    obtain ⟨first, later⟩ := List.forall_mem_cons.mp printable
    obtain ⟨settled, settles'⟩ := settles
    exact hypothesis (holds_type holds first settled) later settles'

/-- A prompt loop that is started where nobody reads, on a terminal that is not set up, sets it up
and prompts. -/
theorem startLoop_atPrompt (unready : terminal.ready = false) (none : terminal.readers = [])
    (quiet : terminal.screen.Quiet) :
    terminal.startLoop.ready = true ∧
      terminal.startLoop.AtPrompt terminal.tasks terminal.session := by
  obtain ⟨after, readied, quiet'⟩ := @Screen.Lasting.setUp Screen.Quiet terminal.withTask
    Screen.lasting_quiet quiet
  have works : Works { terminal.withTask with
      desk := ⟨after, true, terminal.desk.notes⟩, ready := true, looping := true }
      terminal.session :=
    ⟨rfl, rfl, rfl, none, quiet'⟩
  have prompts := works.prompt terminal.tasks
  unfold startLoop
  rw [unready, if_neg Bool.false_ne_true, readied]
  exact ⟨ready_prompt .., prompts⟩

/-- A terminal whose prompt loop has just been started is where a session is at the start. -/
theorem holds_startLoop {screen : Screen} (quiet : screen.Quiet) :
    (Terminal.ofScreen screen).startLoop.Holds .fresh :=
  (@startLoop_atPrompt (Terminal.ofScreen screen) rfl rfl quiet).2.holds

end Holds

end Terminal

/-! ### The same lines -/

namespace Text

/-- The lines of a keyboard's text, without the marks at their ends. -/
def bareLines (text : String) : List String :=
  (inputLines text.toList).map fun line => String.ofList (withoutLineEnd line)

/-- A line of a keyboard's text ends at its line feed. -/
theorem inputLines_append {line : List Char} (whole : '\n' ∉ line) (rest : List Char) :
    inputLines (line ++ '\n' :: rest) = (line ++ ['\n']) :: inputLines rest := by
  induction line with
  | nil => rfl
  | cons c later hypothesis =>
    obtain ⟨first, whole'⟩ := List.ne_and_not_mem_of_not_mem_cons whole
    rw [List.cons_append, inputLines, if_neg first.symm, hypothesis whole']
    rfl

/-- Only the mark at its end is taken off a line without others. -/
theorem withoutLineEnd_append {line : List Char} (bare : ∀ c ∈ line, c ≠ '\n' ∧ c ≠ '\r') :
    withoutLineEnd (line ++ ['\n']) = line := by
  have kept : line.reverse.dropWhile (fun c => c == '\n' || c == '\r') = line.reverse := by
    cases shape : line.reverse with
    | nil => rfl
    | cons c rest =>
      have member : c ∈ line := List.mem_reverse.mp (shape ▸ List.mem_cons_self)
      obtain ⟨notFeed, notReturn⟩ := bare c member
      exact List.dropWhile_cons_of_neg (by simp [notFeed, notReturn])
  unfold withoutLineEnd
  rw [List.reverse_append, List.reverse_singleton, List.singleton_append,
    List.dropWhile_cons_of_pos (by decide), kept, List.reverse_reverse]

/-- **Any lines of characters that print are the lines of a text.** -/
theorem bareLines_join {lines : List String}
    (printable : ∀ line ∈ lines, ∀ c ∈ line.toList, isPrintable c = true) :
    bareLines (String.join (lines.map (· ++ "\n"))) = lines := by
  induction lines with
  | nil => rfl
  | cons line rest hypothesis =>
    obtain ⟨first, later⟩ := List.forall_mem_cons.mp printable
    have bare : ∀ c ∈ line.toList, c ≠ '\n' ∧ c ≠ '\r' := by
      intro c member
      have prints := first c member
      constructor
      · rintro rfl
        exact absurd prints (by decide)
      · rintro rfl
        exact absurd prints (by decide)
    have whole : '\n' ∉ line.toList := fun member => (bare _ member).1 rfl
    have text : (String.join ((line :: rest).map (· ++ "\n"))).toList =
        line.toList ++ '\n' :: (String.join (rest.map (· ++ "\n"))).toList := by
      simp
    rw [bareLines, text, inputLines_append whole, List.map_cons, withoutLineEnd_append bare,
      String.ofList_toList]
    exact congrArg _ (hypothesis later)

end Text

/-- **The two front ends agree.** A console reads the lines of a text to its end, at its prompt or
at a question; on a terminal the same lines are typed one by one. If they are made of characters
that print, their integers can be read, and none of them is given up, both come to the program,
the variables and the loops of a session that is given these lines in capitals. -/
theorem front_ends_agree {setup : Setup} {watched : Bool} {screen : Screen}
    (made : Screen.new setup watched = .ok screen) (tall : 1 ≤ setup.rows)
    (wide : 1 ≤ setup.columns) (clears : Bool) {input : String} {lines : List String}
    (spells : Text.bareLines input = lines)
    (printable : ∀ line ∈ lines, ∀ c ∈ line.toList, Text.isPrintable c = true)
    (readable : ∀ line ∈ lines, Readable (Text.capitals line))
    (terminates : Talk.fresh.Terminates (lines.map Text.capitals)) :
    let talk := (lines.map Text.capitals).foldl Talk.take .fresh
    let terminal := (Terminal.ofScreen screen).run
      (.startLoop :: lines.map fun line => .type [line])
    ∃ console, (Dialogue.console (Console.interactive clears)).converse input = .console console ∧
      console.turn = .ended (talk.asking.map fun _ => .endOfInput "") ∧
      console.session.Matches terminal.session ∧ terminal.session = talk.session := by
  intro talk terminal
  obtain ⟨roomy, reading, pending⟩ := Screen.new_fits made tall wide
  have settles : Talk.fresh.Settles (lines.map Text.capitals) :=
    Talk.settles_of_terminates (List.forall_mem_map.mpr readable) terminates
  have typed : terminal.Holds talk :=
    Terminal.holds_run (Terminal.holds_startLoop ⟨roomy, reading, pending⟩) printable settles
  have same : ((Text.inputLines input.toList).map String.ofList).map Console.typedLine =
      lines.map Text.capitals := by
    rw [← spells, Text.bareLines, List.map_map, List.map_map]
    refine List.map_congr_left fun line _ => ?_
    simp only [Function.comp_apply, Console.typedLine, String.toList_ofList]
  -- Both are where the session is before the input ends; the end takes nothing of it away.
  obtain ⟨console, held, holds⟩ :=
    Console.holds_hold (Console.holds_interactive clears) (same.symm ▸ settles)
  rw [same] at holds
  obtain ⟨ended, left⟩ := Console.holds_end holds
  refine ⟨console.reply none, ?_, ended, typed.session.symm ▸ left, typed.session⟩
  unfold Dialogue.converse
  rw [held]
  rfl

/-- A program that asks for a text, is run, and is answered in small letters. -/
theorem front_ends_agree_answered :
    let lines := ["10 input a$", "run", "hi"]
    ∃ screen, Screen.new ⟨2, 3, "]", "_"⟩ true = .ok screen ∧
      ∃ console, (Dialogue.console (Console.interactive true)).converse
          (String.join (lines.map (· ++ "\n"))) = .console console ∧
        console.turn = .ended none ∧
        console.session.Matches ((Terminal.ofScreen screen).run
          (.startLoop :: lines.map fun line => .type [line])).session ∧
        console.session.memory = Memory.empty.set "A$" (.text "HI") := by
  intro lines
  let entry : Entry := ⟨"10 INPUT A$", .input "" "A$"⟩
  let stored : Session := { Session.fresh with program := Program.empty.insert 10 entry }
  let running : Session := { stored with current := some 10, running := true }
  let asking : Activity := ⟨true, some ⟨[10], 0⟩, .awaiting Session.defaultPrompt "A$"⟩
  let answered : Session := { stored with memory := Memory.empty.set "A$" (.text "HI") }
  have isRead : tokens "10 INPUT A$" = .ok [⟨.number (.int 10), 0⟩, ⟨.keyword "INPUT", 3⟩,
      ⟨.identifier "A$", 9⟩, ⟨.endOfLine, 11⟩] := by cbv
  have isName : tokens "HI" = .ok [⟨.identifier "HI", 0⟩, ⟨.endOfLine, 2⟩] := by cbv
  have isLine : entry.IsLine 10 := ⟨by decide, by rintro ⟨⟩, _, isRead, by cbv⟩
  have enough : Session.patience = 999999999993 + 7 := rfl
  have stores : Talk.fresh.outcome "10 INPUT A$" = (stored, .finished) :=
    Talk.outcome_ofLine .fresh isLine
  have asks : Talk.outcome "RUN" ⟨stored, none⟩ =
      (running, .waiting Session.defaultPrompt asking) := by
    show Session.comesTo stored (.ofLine "RUN") = _
    rw [Session.comesTo, enough, Session.drive, Session.step_typedRun]
    rfl
  have ends : Talk.outcome "HI" ⟨running, some asking⟩ = (answered, .finished) := by
    show Session.comesTo _ _ = _
    rw [Session.comesTo, enough]
    rfl
  have capitals : lines.map Text.capitals = ["10 INPUT A$", "RUN", "HI"] := by decide
  have printable : ∀ line ∈ lines, ∀ c ∈ line.toList, Text.isPrintable c = true := by
    simp only [← List.all_eq_true]
    decide
  have readable : ∀ line ∈ lines, Readable (Text.capitals line) := by
    rw [← List.forall_mem_map, capitals]
    simp only [List.forall_mem_cons]
    exact ⟨readable_of_tokens isRead, readable_of_tokens tokens_run, readable_of_tokens isName,
      List.forall_mem_nil _⟩
  have terminates : Talk.fresh.Terminates (lines.map Text.capitals) := by
    rw [capitals]
    have last : Talk.Terminates ["HI"] ⟨running, some asking⟩ :=
      .cons ends (by rintro _ ⟨⟩) trivial
    exact .cons stores (by rintro _ ⟨⟩) (.cons asks (by rintro _ ⟨⟩) last)
  have first : Talk.fresh.take "10 INPUT A$" = ⟨stored, none⟩ := congrArg Talk.after stores
  have second : Talk.take ⟨stored, none⟩ "RUN" = ⟨running, some asking⟩ := congrArg Talk.after asks
  have third : Talk.take ⟨running, some asking⟩ "HI" = ⟨answered, none⟩ := congrArg Talk.after ends
  have talk : (lines.map Text.capitals).foldl Talk.take .fresh = ⟨answered, none⟩ := by
    rw [capitals, List.foldl_cons, first, List.foldl_cons, second, List.foldl_cons, third,
      List.foldl_nil]
  have made : Screen.new ⟨2, 3, "]", "_"⟩ true = .ok _ := rfl
  obtain ⟨console, held, ended, matched, same⟩ := front_ends_agree made (by decide) (by decide)
    true (Text.bareLines_join printable) printable readable terminates
  rw [talk] at ended same
  exact ⟨_, made, console, held, ended, matched, matched.memory.trans (congrArg _ same)⟩

end LineBasic
