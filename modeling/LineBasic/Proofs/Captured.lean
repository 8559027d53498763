/-
**Capturing what is written.**

A capture stands in front of the outlet that was there before: it keeps what is written and passes
it on. Captures may stand one in front of the other, and a block of lines with a capture in front
of it may be left by a fault. Whoever sees what comes through sees the same with all these captures
as without, and so does the session. Each capture keeps what was written in its block, all of it
and nothing else, and when the block is left the outlet that was there before is back.

* `Script` — lines in blocks, some of them attempts that a fault ends;
* `Script.onward_run`, `Mirrors.run` — what every script leaves of its host, and what two hosts make
  of it, with captures and without;
* `Rehearsal.Behind`, `Rehearsal.Hears`, `Rehearsal.Spares` — a host behind captures, beside one
  without, beside one who only listens, and beside any other while a capture is closed;
* `Script.captures_faithful` — captures change nothing, keep all, and are put away again.
-/

import LineBasic.Proofs.Mirror
import LineBasic.Proofs.Row

namespace LineBasic

/-! ### Lines in blocks -/

/-- What a host does with captures: lines are typed, some in a block with a capture in front of it,
some as an attempt; a fault leaves all blocks out to the next attempt, after which the host goes
on. -/
inductive Script where
  | done
  | line (line : String) (rest : Script)
  | block (inside rest : Script)
  | attempt (inside rest : Script)

namespace Rehearsal

/-- The host with a capture in front of the outlet that it writes to. -/
def opened (host : Rehearsal) : Rehearsal :=
  host.toOutlet (.capture [] (some host.place))

/-- The host that writes again to where another one does. -/
def restored (within host : Rehearsal) : Rehearsal :=
  { within with place := host.place }

end Rehearsal

namespace Script

/-- A script without blocks. -/
def ofLines (lines : List String) : Script :=
  lines.foldr .line .done

/-- Go through a script, with the captures of its blocks or without them; the fault that ends it
is handed over. -/
def run (capturing : Bool) : Script → Rehearsal → Session → Rehearsal × Session × Option Fault
  | done, host, session => (host, session, none)
  | line text rest, host, session =>
    match host.typeLines session [text] with
    | (host, session, some fault) => (host, session, some fault)
    | (host, session, none) => rest.run capturing host session
  | block inside rest, host, session =>
    match inside.run capturing (if capturing then host.opened else host) session with
    | (within, session, some fault) => (within.restored host, session, some fault)
    | (within, session, none) => rest.run capturing (within.restored host) session
  | attempt inside rest, host, session =>
    let (host, session, _) := inside.run capturing host session
    rest.run capturing host session

/-- Typing lines is going through them without blocks. -/
theorem run_ofLines (capturing : Bool) (lines : List String) (host : Rehearsal)
    (session : Session) : (ofLines lines).run capturing host session =
      host.typeLines session lines := by
  induction lines generalizing host session with
  | nil => rfl
  | cons line rest hypothesis =>
    rw [ofLines, List.foldr_cons, ← ofLines, run, Rehearsal.typeLines, Rehearsal.typeLines,
      Rehearsal.performEach, Rehearsal.performEach]
    rcases Rehearsal.perform Session.patience host session (.ofLine line) with
      ⟨host', session', progress⟩
    cases progress with
    | fault fault => rfl
    | _ => exact hypothesis host' session'

end Script

/-! ### What every script leaves of its host -/

namespace Rehearsal

/-- What remains of a host: it writes to where it did, and its captures have only grown. -/
structure Onward (before after : Rehearsal) : Prop where
  place : after.place = before.place
  board : before.board.Extends after.board

section Onward

variable {start before middle after : Rehearsal}

theorem Onward.refl (host : Rehearsal) : host.Onward host :=
  ⟨rfl, .refl _⟩

theorem Onward.trans (first : before.Onward middle) (second : middle.Onward after) :
    before.Onward after :=
  ⟨second.place.trans first.place, first.board.trans second.board⟩

theorem onward_deliver (host : Rehearsal) (effect : Effect) :
    host.Onward (host.deliver effect).1 := by
  have written : ∀ piece, host.Onward (host.write piece) := by
    intro piece
    rw [write_eq]
    exact ⟨rfl, Board.extends_send _ _ _⟩
  cases effect with
  | text text => exact written _
  | line text => exact written _
  | clear =>
    rw [deliver]
    split
    · exact ⟨rfl, .refl _⟩
    · exact ⟨rfl, .refl _⟩
  | note note => exact ⟨rfl, .refl _⟩

/-- A host goes on from where it was, beside itself. -/
theorem mirrors_onward (start : Rehearsal) :
    Mirrors fun first second => first = second ∧ start.Onward first where
  input := by
    rintro first second ⟨rfl, _⟩
    rfl
  answers := by
    rintro first second ⟨rfl, _⟩
    rfl
  asked prompt := by
    rintro ⟨rfl, onward⟩
    exact ⟨rfl, onward.place, onward.board⟩
  answered answers := by
    rintro ⟨rfl, onward⟩
    exact ⟨rfl, onward.place, onward.board⟩
  delivered effect := by
    rintro ⟨rfl, onward⟩
    exact ⟨rfl, onward.trans (onward_deliver _ effect)⟩

theorem onward_typeLines (host : Rehearsal) (session : Session) (lines : List String) :
    host.Onward (host.typeLines session lines).1 := by
  have same : host = host ∧ host.Onward host := ⟨rfl, .refl host⟩
  exact ((mirrors_onward host).typeLines same session lines).hosts.2

theorem extends_opened (host : Rehearsal) : host.board.Extends host.opened.board :=
  Board.extends_append _ _

theorem Onward.restored {host within : Rehearsal} (board : host.board.Extends within.board) :
    host.Onward (within.restored host) :=
  ⟨rfl, board⟩

end Onward

end Rehearsal

/-- **After every script its host writes to where it did**, and its captures have only grown. -/
theorem Script.onward_run (capturing : Bool) (script : Script) (host : Rehearsal)
    (session : Session) : host.Onward (script.run capturing host session).1 := by
  induction script generalizing host session with
  | done => exact .refl host
  | line line rest hypothesis =>
    have typed := host.onward_typeLines session [line]
    rw [run]
    generalize host.typeLines session [line] = result at typed ⊢
    obtain ⟨after, session', _ | fault⟩ := result
    · exact typed.trans (hypothesis after session')
    · exact typed
  | block inside rest within following =>
    have opens : host.board.Extends (if capturing then host.opened else host).board := by
      split
      · exact host.extends_opened
      · exact .refl _
    have ran := within (if capturing then host.opened else host) session
    rw [run]
    generalize inside.run capturing (if capturing then host.opened else host) session = result
      at ran ⊢
    obtain ⟨after, session', _ | fault⟩ := result
    · exact (Rehearsal.Onward.restored (opens.trans ran.board)).trans (following _ session')
    · exact Rehearsal.Onward.restored (opens.trans ran.board)
  | attempt inside rest within following =>
    have ran := within host session
    rw [run]
    generalize inside.run capturing host session = result at ran ⊢
    obtain ⟨after, session', fault⟩ := result
    exact ran.trans (following after session')

namespace Rehearsal

/-- Typing lines into a capture is going through them in a block. -/
theorem capture_eq (host : Rehearsal) (session : Session) (lines : List String) :
    host.capture session lines =
      let ran := (Script.block (.ofLines lines) .done).run true host session
      (ran.1, ran.2.1, ran.1.board.chunks host.board.outlets.length, ran.2.2) := by
  have typed := host.opened.onward_typeLines session lines
  rw [Script.run, Script.run_ofLines]
  simp only [if_true]
  unfold capture
  rw [show host.toOutlet (.capture [] (some host.place)) = host.opened from rfl]
  generalize host.opened.typeLines session lines = result at typed ⊢
  obtain ⟨within, after, fault⟩ := result
  have place : within.place = host.board.outlets.length := typed.place
  rw [← place]
  cases fault <;> rfl

/-- **A script comes to the same with captures and without**, before hosts that a session cannot
tell apart, if a capture in front of the first one changes nothing. -/
theorem Mirrors.run {alike : Rehearsal → Rehearsal → Prop} (mirrors : Mirrors alike)
    (opens : ∀ {first second}, alike first second → alike first.opened second)
    (closes : ∀ {first second within behind}, alike first second →
      first.board.Extends within.board → second.Onward behind → alike within behind →
      alike (within.restored first) (behind.restored second))
    {first second : Rehearsal} (same : alike first second) (script : Script) (session : Session) :
    Meets alike (script.run true first session) (script.run false second session) := by
  induction script generalizing first second session with
  | done => exact .both same _
  | line line rest hypothesis =>
    have typed := mirrors.typeLines same session [line]
    rw [Script.run, Script.run]
    generalize first.typeLines session [line] = result at typed ⊢
    generalize second.typeLines session [line] = result' at typed ⊢
    cases typed with
    | both same' ending =>
      obtain ⟨after, _ | fault⟩ := ending
      · exact hypothesis same' after
      · exact .both same' _
  | block inside rest within following =>
    have ran := within (opens same) session
    have onward := (inside.onward_run true first.opened session).board
    have onward' := inside.onward_run false second session
    rw [Script.run, Script.run]
    simp only [if_true, Bool.false_eq_true, if_false]
    generalize inside.run true first.opened session = result at ran onward ⊢
    generalize inside.run false second session = result' at ran onward' ⊢
    cases ran with
    | both same' ending =>
      have closed := closes same (first.extends_opened.trans onward) onward' same'
      obtain ⟨after, _ | fault⟩ := ending
      · exact following closed after
      · exact .both closed _
  | attempt inside rest within following =>
    have ran := within same session
    rw [Script.run, Script.run]
    generalize inside.run true first session = result at ran ⊢
    generalize inside.run false second session = result' at ran ⊢
    cases ran with
    | both same' ending => exact following same' _

end Rehearsal

/-! ### Hosts beside a host with captures -/

namespace Rehearsal

section Beside

variable {alike : Rehearsal → Rehearsal → Prop} {first second within : Rehearsal}
  {bound target size : Nat}

/-- A capture in front makes a row of captures one longer. -/
theorem leads_opened (leads : within.board.Leads bound target within.place)
    (inside : target < within.board.outlets.length) (room : bound ≤ within.board.outlets.length) :
    within.opened.board.Leads bound target within.opened.place := by
  have found : within.opened.board.outlets[within.opened.place]? =
      some (.capture [] (some within.place)) := List.getElem?_concat_length
  exact .onward found room (leads.inside inside) (leads.extended within.extends_opened)

/-! ### Beside a host without captures -/

/-- A host behind captures, beside one without them, whose board has a size. -/
structure Behind (size : Nat) (within outer : Rehearsal) : Prop where
  shares : within.Shares outer
  events : within.events = outer.events
  whole : outer.board.outlets.length = size
  stands : outer.place < size
  first : outer.board.outlets <+: within.board.outlets
  leads : within.board.Leads size outer.place within.place

/-- Behind captures the same is seen. -/
theorem Behind.write (behind : Behind size first second) (piece : Piece) :
    Behind size (first.write piece) (second.write piece) := by
  obtain ⟨kept, front, sent⟩ := behind.leads.send (.refl _) piece
  have inside : second.place < second.board.outlets.length := behind.whole ▸ behind.stands
  have whole : kept.outlets = second.board.outlets ++ kept.outlets.drop size := by
    obtain ⟨later, outlets⟩ := behind.first
    rw [← outlets, List.take_left' behind.whole] at front
    rw [← front, List.take_append_drop]
  have sent' : first.board.send first.place piece =
      (⟨(second.board.send second.place piece).1.outlets ++ kept.outlets.drop size⟩,
        (second.board.send second.place piece).2) := by
    rw [sent, ← Board.send_append _ _ _ inside, ← whole]
  have grows := first.board.extends_send first.place piece
  have shares := behind.shares.write piece
  rw [write_eq, write_eq] at shares ⊢
  refine ⟨shares, ?_, ?_, behind.stands, ?_, behind.leads.extended grows⟩
  · simp only [sent', behind.events]
  · exact (Board.length_send _ _ _).trans behind.whole
  · simp only [sent']
    exact List.prefix_append _ _

/-- A host behind captures and one without them are alike to a session. -/
theorem mirrors_behind (size : Nat) : Mirrors (Behind size) := by
  refine mirrors_of Behind.shares (fun event _ behind => ?_) (fun answers notes behind => ?_)
    fun piece behind => behind.write piece
  · exact { behind with
      shares := { behind.shares with }
      events := congrArg (event :: ·) behind.events }
  · exact { behind with shares := { behind.shares with answers := rfl, notes := rfl } }

/-- **Captures change nothing** for the session, and for whoever sees what comes through. -/
theorem behind_run {host : Rehearsal} (stands : host.place < host.board.outlets.length)
    (script : Script) (session : Session) :
    Meets (Behind host.board.outlets.length) (script.run true host session)
      (script.run false host session) := by
  refine (mirrors_behind _).run (fun behind => ?_) (fun before grows onward behind => ?_)
    ⟨⟨rfl, rfl, rfl, rfl⟩, rfl, rfl, stands, List.prefix_refl _, .here⟩ script session
  · have room := behind.whole ▸ behind.first.length_le
    exact { behind with
      shares := { behind.shares with }
      first := behind.first.trans (List.prefix_append _ _)
      leads := leads_opened behind.leads (behind.stands.trans_le room) room }
  · exact { behind with
      shares := { behind.shares with }
      stands := before.stands
      leads := before.leads.extended grows }

/-! ### Beside a host who only listens -/

/-- The host who hears all that is written, and shows nothing of what was before. -/
def listening (host : Rehearsal) : Rehearsal :=
  { host with board := ⟨[.channels true true]⟩, place := 0, events := [] }

/-- A host that writes to a capture, perhaps through others, beside one who only listens. -/
structure Hears (place : Nat) (within listener : Rehearsal) : Prop where
  shares : within.Shares listener
  board : listener.board = ⟨[.channels true true]⟩
  first : listener.place = 0
  captured : ∃ downstream, within.board.outlets[place]? =
    some (Outlet.capture ((Event.written listener.events).map Piece.chunk) downstream)
  leads : within.board.Leads (place + 1) place within.place

/-- Open channels let everything through. -/
theorem send_listening (piece : Piece) :
    Board.send ⟨[.channels true true]⟩ 0 piece = (⟨[.channels true true]⟩, [(0, piece)]) := by
  cases piece <;> simp [Board.send, Outlet.lets]

/-- What is heard is captured. -/
theorem Hears.write {place : Nat} (hears : Hears place first second) (piece : Piece) :
    Hears place (first.write piece) (second.write piece) := by
  obtain ⟨downstream, found⟩ := hears.captured
  obtain ⟨kept, front, sent⟩ := hears.leads.send (.refl _) piece
  have same : kept.outlets[place]? = first.board.outlets[place]? := by
    have inside : place < place + 1 := Nat.lt_succ_self place
    rw [← List.getElem?_take_of_lt inside, front, List.getElem?_take_of_lt inside]
  have heard : second.board.send second.place piece = (second.board, [(0, piece)]) := by
    rw [hears.board, hears.first, send_listening]
  have grows := first.board.extends_send first.place piece
  have shares := hears.shares.write piece
  rw [write_eq, write_eq] at shares ⊢
  refine ⟨shares, ?_, hears.first, ⟨downstream, ?_⟩, hears.leads.extended grows⟩
  · simp only [heard]
    exact hears.board
  · simp only [heard, sent, List.map_cons, List.map_nil, List.reverse_singleton,
      List.singleton_append, Event.written_ofPiece, List.map_append]
    exact Board.capture_send (same.trans found) piece

/-- A host that writes to a capture and one who listens are alike to a session. -/
theorem mirrors_hears (place : Nat) : Mirrors (Hears place) := by
  refine mirrors_of Hears.shares (fun {_ second} event unwritten hears => ?_)
    (fun answers notes hears => ?_) fun piece hears => hears.write piece
  · have same : Event.written (second.record event).events = Event.written second.events :=
      Event.written_of_unwritten unwritten _
    exact { hears with shares := { hears.shares with }, captured := same ▸ hears.captured }
  · exact { hears with shares := { hears.shares with answers := rfl, notes := rfl } }

/-- **A block's capture keeps what is heard in the block.** -/
theorem hears_run (host : Rehearsal) (script : Script) (session : Session) :
    Meets (Hears host.board.outlets.length) (script.run true host.opened session)
      (script.run false host.listening session) := by
  have start : Hears host.board.outlets.length host.opened host.listening :=
    ⟨⟨rfl, rfl, rfl, rfl⟩, rfl, rfl, ⟨some host.place, List.getElem?_concat_length⟩, .here⟩
  refine (mirrors_hears _).run (fun hears => ?_) (fun before grows _ hears => ?_) start script
    session
  · obtain ⟨downstream, found⟩ := hears.captured
    have inside := (List.getElem?_eq_some_iff.mp found).1
    exact { hears with
      shares := { hears.shares with }
      captured := ⟨downstream, (List.getElem?_append_left inside).trans found⟩
      leads := leads_opened hears.leads inside inside }
  · exact { hears with
      shares := { hears.shares with }
      first := before.first
      leads := before.leads.extended grows }

/-! ### Beside a host whose capture is closed -/

/-- A host that writes past an outlet, beside any other. -/
structure Spares (later : Nat) (kept : Outlet) (within other : Rehearsal) : Prop where
  shares : within.Shares other
  found : within.board.outlets[later]? = some kept
  leads : ∃ target < later, within.board.Leads (later + 1) target within.place

theorem Spares.write {later : Nat} {kept : Outlet} (spares : Spares later kept first second)
    (piece : Piece) : Spares later kept (first.write piece) (second.write piece) := by
  obtain ⟨target, below, leads⟩ := spares.leads
  obtain ⟨passed, front, sent⟩ := leads.send (.refl _) piece
  have same : passed.outlets[later]? = first.board.outlets[later]? := by
    have inside : later < later + 1 := Nat.lt_succ_self later
    rw [← List.getElem?_take_of_lt inside, front, List.getElem?_take_of_lt inside]
  have grows := first.board.extends_send first.place piece
  have shares := spares.shares.write piece
  rw [write_eq, write_eq] at shares ⊢
  refine ⟨shares, ?_, target, below, leads.extended grows⟩
  simp only [sent]
  rw [Board.outlet_send_of_later _ _ _ _ below, same]
  exact spares.found

theorem mirrors_spares (later : Nat) (kept : Outlet) : Mirrors (Spares later kept) := by
  refine mirrors_of Spares.shares (fun event _ spares => ?_) (fun answers notes spares => ?_)
    fun piece spares => spares.write piece
  · exact { spares with shares := { spares.shares with } }
  · exact { spares with shares := { spares.shares with answers := rfl, notes := rfl } }

/-- **Outlets behind the one that is written to stay as they are.** -/
theorem spares_run {host : Rehearsal} {later : Nat} {kept : Outlet}
    (found : host.board.outlets[later]? = some kept) (above : host.place < later)
    (script : Script) (session : Session) :
    (script.run true host session).1.board.outlets[later]? = some kept := by
  have start : Spares later kept host host :=
    ⟨⟨rfl, rfl, rfl, rfl⟩, found, host.place, above, .here⟩
  have ran : Meets (Spares later kept) (script.run true host session)
      (script.run false host session) := by
    refine (mirrors_spares _ _).run (fun spares => ?_) (fun before grows _ spares => ?_) start
      script session
    · obtain ⟨target, below, leads⟩ := spares.leads
      have inside := (List.getElem?_eq_some_iff.mp spares.found).1
      exact {
        shares := { spares.shares with }
        found := (List.getElem?_append_left inside).trans spares.found
        leads := ⟨target, below, leads_opened leads (below.trans inside) inside⟩ }
    · obtain ⟨target, below, leads⟩ := before.leads
      exact { spares with
        shares := { spares.shares with }
        leads := ⟨target, below, leads.extended grows⟩ }
  exact ran.hosts.found

end Beside

end Rehearsal

/-! ### The blocks of a script -/

/-- A block that a host has come to with a session. -/
structure Block where
  host : Rehearsal
  session : Session
  inside : Script

/-- All that is written in a block: what someone hears who listens to it without its captures. -/
def Block.written (block : Block) : List Piece :=
  Event.written (block.inside.run false block.host.listening block.session).1.events

/-- The place of a block's capture. -/
def Block.place (block : Block) : Nat :=
  block.host.board.outlets.length

namespace Script

/-- The blocks that a host comes to in a script, those inside others too. -/
def entered : Script → Rehearsal → Session → List Block
  | done, _, _ => []
  | line text rest, host, session =>
    match host.typeLines session [text] with
    | (_, _, some _) => []
    | (host, session, none) => rest.entered host session
  | block inside rest, host, session =>
    ⟨host, session, inside⟩ :: (inside.entered host.opened session ++
      match inside.run true host.opened session with
      | (_, _, some _) => []
      | (within, session, none) => rest.entered (within.restored host) session)
  | attempt inside rest, host, session =>
    inside.entered host session ++
      let (host, session, _) := inside.run true host session
      rest.entered host session

section Blocks

variable {host : Rehearsal}

/-- The captures of a script's blocks stand behind the outlets that were there before it. -/
theorem room_entered (script : Script) (host : Rehearsal) (session : Session) :
    ∀ block ∈ script.entered host session, host.board.outlets.length ≤ block.place := by
  induction script generalizing host session with
  | done => exact List.forall_mem_nil _
  | line text rest hypothesis =>
    have typed := (host.onward_typeLines session [text]).board.room
    rw [entered]
    generalize host.typeLines session [text] = result at typed ⊢
    obtain ⟨after, session', _ | fault⟩ := result
    · exact fun block member => typed.trans (hypothesis after session' block member)
    · exact List.forall_mem_nil _
  | block inside rest within following =>
    have opens := host.extends_opened
    have ran := (inside.onward_run true host.opened session).board
    rw [entered]
    refine List.forall_mem_cons.mpr ⟨Nat.le_refl _, List.forall_mem_append.mpr ⟨?_, ?_⟩⟩
    · exact fun block member => opens.room.trans (within host.opened session block member)
    · generalize inside.run true host.opened session = result at ran ⊢
      obtain ⟨after, session', _ | fault⟩ := result
      · exact fun block member =>
          (opens.trans ran).room.trans (following (after.restored host) session' block member)
      · exact List.forall_mem_nil _
  | attempt inside rest within following =>
    have ran := (inside.onward_run true host session).board
    rw [entered]
    refine List.forall_mem_append.mpr ⟨within host session, ?_⟩
    generalize inside.run true host session = result at ran ⊢
    obtain ⟨after, session', fault⟩ := result
    exact fun block member => ran.room.trans (following after session' block member)

/-- **Each capture keeps what was written in its block**, and nothing after it. -/
theorem captured_entered (stands : host.place < host.board.outlets.length) (script : Script)
    (session : Session) :
    ∀ block ∈ script.entered host session, ∃ downstream,
      (script.run true host session).1.board.outlets[block.place]? =
        some (.capture (block.written.map Piece.chunk) downstream) := by
  induction script generalizing host session with
  | done => exact List.forall_mem_nil _
  | line text rest hypothesis =>
    have typed := host.onward_typeLines session [text]
    rw [entered, run]
    generalize host.typeLines session [text] = result at typed ⊢
    obtain ⟨after, session', _ | fault⟩ := result
    · exact hypothesis (typed.place ▸ stands.trans_le typed.board.room) session'
    · exact List.forall_mem_nil _
  | block inside rest within following =>
    have heard := (Rehearsal.hears_run host inside session).hosts.captured
    have nested := @within host.opened (by simp [Rehearsal.opened, Rehearsal.toOutlet, Board.add])
      session
    have grows := host.extends_opened.trans (inside.onward_run true host.opened session).board
    have far := fun block member => host.extends_opened.room.trans
      (inside.room_entered host.opened session block member)
    rw [entered, run]
    simp only [if_true]
    generalize inside.run true host.opened session = result at heard nested grows ⊢
    obtain ⟨after, session', ended⟩ := result
    -- what was captured in the block is still there when the script ends, since from then on the
    -- host writes to an outlet in front of all these captures
    have kept : ∀ block ∈ Block.mk host session inside :: inside.entered host.opened session,
        host.place < block.place ∧ ∃ downstream, after.board.outlets[block.place]? =
          some (.capture (block.written.map Piece.chunk) downstream) :=
      List.forall_mem_cons.mpr ⟨⟨stands, heard⟩,
        fun block member => ⟨stands.trans_le (far block member), nested block member⟩⟩
    cases ended with
    | none =>
      intro block member
      rcases List.mem_append.mp (List.cons_append ▸ member) with before | later
      · obtain ⟨above, downstream, found⟩ := kept block before
        exact ⟨downstream,
          @Rehearsal.spares_run (after.restored host) _ _ found above rest session'⟩
      · exact @following (after.restored host) (stands.trans_le grows.room) session' block later
    | some fault =>
      rw [List.append_nil]
      exact fun block member => (kept block member).2
  | attempt inside rest within following =>
    have nested := within stands session
    have ran := inside.onward_run true host session
    have far := inside.room_entered host session
    rw [entered, run]
    generalize inside.run true host session = result at nested ran ⊢
    obtain ⟨after, session', fault⟩ := result
    have stands' : after.place < after.board.outlets.length :=
      ran.place ▸ stands.trans_le ran.board.room
    refine List.forall_mem_append.mpr ⟨fun block member => ?_, following stands' session'⟩
    obtain ⟨downstream, found⟩ := nested block member
    have above : after.place < block.place := ran.place ▸ stands.trans_le (far block member)
    exact ⟨downstream, Rehearsal.spares_run found above rest session'⟩

/-- **Captures change nothing, keep all, and are put away again**, in every script of lines, blocks
and attempts. The session and the fault that ends the script are the same as without captures, and
so is all that is seen, answered and noted, and what the outlets hold that were there before. The
capture of each block that is come to keeps what is written in it, a line with its line feed. When
a block ends its capture is what the host writes to, and after it, as after the whole script, the
host writes again to where it did. -/
theorem captures_faithful (stands : host.place < host.board.outlets.length) (script : Script)
    (session : Session) :
    (script.run true host session).2 = (script.run false host session).2 ∧
      (script.run true host session).1.events = (script.run false host session).1.events ∧
      (script.run true host session).1.answers = (script.run false host session).1.answers ∧
      (script.run true host session).1.notes = (script.run false host session).1.notes ∧
      (script.run false host session).1.board.outlets <+:
        (script.run true host session).1.board.outlets ∧
      (script.run true host session).1.place = host.place ∧
      ∀ block ∈ script.entered host session,
        (script.run true host session).1.board.chunks block.place =
            block.written.map Piece.chunk ∧
          (block.inside.run true block.host.opened block.session).1.place = block.place ∧
          ((Script.block block.inside .done).run true block.host block.session).1.place =
            block.host.place := by
  have behind := Rehearsal.behind_run stands script session
  refine ⟨behind.endings, behind.hosts.events, behind.hosts.shares.answers,
    behind.hosts.shares.notes, behind.hosts.first, (script.onward_run true host session).place,
    fun block member => ⟨?_, (block.inside.onward_run true _ _).place,
      (Script.onward_run true _ _ _).place⟩⟩
  obtain ⟨downstream, found⟩ := captured_entered stands script session block member
  rw [Board.chunks, found]
  rfl

/-- A `PRINT` that is typed into a fresh session writes an empty line. -/
theorem typeLines_print (host : Rehearsal) :
    host.typeLines .fresh ["PRINT"] = (host.write (.line ""), .fresh, none) := by
  have isRead : tokens "PRINT" = .ok [⟨.keyword "PRINT", 0⟩, ⟨.endOfLine, 5⟩] := by cbv
  have parsed : Parser.line [⟨.keyword "PRINT", 0⟩, ⟨.endOfLine, 5⟩] = .ok (.print [] []) := by cbv
  have reads : Session.step .fresh (.ofLine "PRINT") =
      (.fresh, .next ⟨true, none, .execute (.print [] [])⟩ []) := by
    show Session.readLine .fresh (.ofLine "PRINT") "PRINT" = _
    have inked : Text.isBlankLine "PRINT" = false := by decide
    simp only [Session.readLine, inked, isRead, parsed, Bool.false_eq_true, if_false,
      Activity.inStage, Activity.ofLine]
  have drives : Session.drive Rehearsal.deliver Session.patience host .fresh (.ofLine "PRINT") =
      (host.write (.line ""), .fresh, .finished) := by
    have enough : Session.patience = 999999999996 + 4 := rfl
    rw [enough, Session.drive, reads]
    rfl
  have enough : Session.patience = 999999999999 + 1 := rfl
  rw [Rehearsal.typeLines, Rehearsal.performEach, enough, Rehearsal.perform, drives]
  rfl

/-- A block inside another, with an empty line printed in each. -/
theorem captures_faithful_print :
    ∃ (host : Rehearsal) (script : Script), host.place < host.board.outlets.length ∧
      (script.run true host .fresh).1.board.chunks 1 = ["\n", "\n"] ∧
      (script.run true host .fresh).1.board.chunks 2 = ["\n"] ∧
      (script.run true host .fresh).1.place = 0 := by
  let host : Rehearsal := Rehearsal.unwired []
  let inner : Script := .line "PRINT" .done
  let script : Script := .block (.block inner (.line "PRINT" .done)) .done
  have stands : host.place < host.board.outlets.length := by decide
  obtain ⟨_, _, _, _, _, place, blocks⟩ := captures_faithful stands script .fresh
  have outer := (blocks ⟨host, .fresh, .block inner (.line "PRINT" .done)⟩ List.mem_cons_self).1
  have nested := (blocks ⟨host.opened, .fresh, inner⟩
    (List.mem_cons_of_mem _ (List.mem_append_left _ List.mem_cons_self))).1
  refine ⟨host, script, stands, outer.trans ?_, nested.trans ?_, place⟩
  · simp only [Block.written, inner, Script.run, typeLines_print, Bool.false_eq_true, if_false,
      Rehearsal.write_eq, Rehearsal.restored, Rehearsal.listening, Rehearsal.send_listening]
    rfl
  · simp only [Block.written, inner, Script.run, typeLines_print, Rehearsal.write_eq,
      Rehearsal.listening, Rehearsal.send_listening]
    rfl

end Blocks

end Script

end LineBasic
