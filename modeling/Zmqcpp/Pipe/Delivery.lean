import Zmqcpp.Pipe.Traffic

set_option autoImplicit false

namespace Zmqcpp

open Transition PipePair

/-- A pair of pipes with a record of what each end has written and read. -/
structure Traffic (Frame : Type) where
  pair : PipePair Frame
  written : List (PipeItem Frame) := []
  read : List (PipeItem Frame) := []
  peerWritten : List (PipeItem Frame) := []
  peerRead : List (PipeItem Frame) := []

namespace Traffic

variable {Frame : Type}

def initial (hwms : Nat × Nat) : Traffic Frame := { pair := PipePair.initial hwms }

def swap (t : Traffic Frame) : Traffic Frame where
  pair := t.pair.swap
  written := t.peerWritten
  read := t.peerRead
  peerWritten := t.written
  peerRead := t.read

def act (t : Traffic Frame) (action : PipePair.Action Frame) : Option (Traffic Frame) :=
  (t.pair.act action).map fun pair =>
    { t with
      pair
      written := t.written ++ t.pair.wrote action
      read := t.read ++ t.pair.took action }

def step (t : Traffic Frame) : Side × PipePair.Action Frame → Option (Traffic Frame)
  | (.this, action) => t.act action
  | (.peer, action) => (t.swap.act action).map swap

structure Channelled (t : Traffic Frame) : Prop where
  sound : CreditChannel.Sound PipeItem.counted PipeItem.isDelimiter
    (t.pair.outward t.written t.peerRead)
  small : t.pair.this.hwm < UInt64.size
  lwm : t.pair.peer.lwm = Pipe.computeLwm t.pair.this.hwm
  delimits : t.pair.this.Delimits

structure Carried (t : Traffic Frame) : Prop where
  straight : Straight t.pair
  this : t.Channelled
  peer : t.swap.Channelled

theorem Carried.swap {t : Traffic Frame} (carried : t.Carried) : t.swap.Carried :=
  ⟨carried.straight.swap, carried.peer, carried.this⟩

theorem Channelled.fits {t : Traffic Frame} (channelled : t.Channelled) : Fits t.pair.this where
  small := channelled.small
  known := by
    have accounted := channelled.sound.accounted
    have credit := accounted.credit_le
    have written := accounted.writtenCount
    have first := channelled.sound.delivered.first.sublist.countP_le (p := PipeItem.counted)
    dsimp only [outward] at credit written first
    omega
  bounded := channelled.sound.accounted.bounded

theorem sound_leads {c next : CreditChannel (PipeItem Frame)} (leads : Leads c next)
    (sound : CreditChannel.Sound PipeItem.counted PipeItem.isDelimiter c) :
    CreditChannel.Sound PipeItem.counted PipeItem.isDelimiter next :=
  leads.invariant _ (fun _ _ _ sound taken => sound.step PipeItem.counted_of_isDelimiter taken) sound

theorem Carried.act {t next : Traffic Frame} {action : PipePair.Action Frame} (carried : t.Carried)
    (smooth : action ≠ .hiccup) (taken : t.act action = some next) : next.Carried := by
  obtain ⟨pair, moved, same⟩ := Option.map_eq_some_iff.mp taken
  subst same
  have moves := moves_act carried.straight carried.this.fits carried.this.delimits smooth moved
  refine ⟨⟨carried.straight.sound.act moved, moves.smooth carried.straight.smooth, ?_⟩, ?_, ?_⟩
  · rw [moves.inpipe, moves.peer]
    exact carried.straight.apart
  · exact
      { sound := sound_leads (moves.outward t.written t.peerRead) carried.this.sound
        small := by
          show pair.this.hwm < UInt64.size
          rw [moves.hwm]
          exact carried.this.small
        lwm := by
          show pair.peer.lwm = Pipe.computeLwm pair.this.hwm
          rw [moves.hwm, moves.peer]
          exact carried.this.lwm
        delimits := moves.delimits carried.this.delimits }
  · exact
      { sound := sound_leads (moves.inward t.peerWritten t.read) carried.peer.sound
        small := by
          show pair.peer.hwm < UInt64.size
          rw [moves.peer]
          exact carried.peer.small
        lwm := by
          show pair.this.lwm = Pipe.computeLwm pair.peer.hwm
          rw [moves.lwm, moves.peer]
          exact carried.peer.lwm
        delimits := by
          show pair.peer.Delimits
          rw [moves.peer]
          exact carried.peer.delimits }

theorem Carried.step {t next : Traffic Frame} {action : Side × PipePair.Action Frame}
    (carried : t.Carried) (smooth : action.2 ≠ .hiccup) (taken : t.step action = some next) :
    next.Carried := by
  obtain ⟨side, action⟩ := action
  cases side with
  | this => exact carried.act smooth taken
  | peer =>
      obtain ⟨other, moved, same⟩ := Option.map_eq_some_iff.mp taken
      subst same
      exact (carried.swap.act smooth moved).swap

theorem initial_channelled (hwm other : Nat) (small : hwm < UInt64.size) :
    ({ pair := PipePair.initial (hwm, other) } : Traffic Frame).Channelled where
  sound := CreditChannel.sound_initial hwm (Pipe.computeLwm hwm)
  small := small
  lwm := rfl
  delimits := fun todo => by cases todo

theorem initial_carried (hwms : Nat × Nat) (small : hwms.1 < UInt64.size ∧ hwms.2 < UInt64.size) :
    (initial hwms : Traffic Frame).Carried where
  straight :=
    { sound := PipePair.sound_initial hwms
      smooth := ⟨rfl, rfl⟩
      apart := Nat.zero_ne_one }
  this := initial_channelled hwms.1 hwms.2 small.1
  peer :=
    { sound := CreditChannel.sound_initial hwms.2 (Pipe.computeLwm hwms.2)
      small := small.2
      lwm := rfl
      delimits := fun todo => by cases todo }

theorem carried_of_run {hwms : Nat × Nat} (small : hwms.1 < UInt64.size ∧ hwms.2 < UInt64.size)
    {actions : List (Side × PipePair.Action Frame)} {final : Traffic Frame}
    (smooth : ∀ action ∈ actions, action.2 ≠ .hiccup)
    (reached : run step (initial hwms) actions = some final) : final.Carried :=
  run_invariant Carried (fun _ _ _ carried smooth taken => carried.step smooth taken)
    (initial_carried hwms small) (along_of_forall smooth _) reached

def facing (t : Traffic Frame) : Side → Traffic Frame
  | .this => t
  | .peer => t.swap

theorem Carried.facing {t : Traffic Frame} (carried : t.Carried) (side : Side) :
    (t.facing side).Carried := by
  cases side with
  | this => exact carried
  | peer => exact carried.swap

theorem computeLwm_pos {hwm : Nat} (limited : 0 < hwm) :
    0 < Pipe.computeLwm hwm ∧ Pipe.computeLwm hwm ≤ hwm := by
  unfold Pipe.computeLwm Pipe.maxWmDelta
  split <;> omega

/-- What an end has read is what the other has written, in its order, and the rest lies in the pipe
between them; of messages that count no more lie there than the high-water mark says. -/
theorem delivers {hwms : Nat × Nat} (small : hwms.1 < UInt64.size ∧ hwms.2 < UInt64.size)
    {actions : List (Side × PipePair.Action Frame)} {final : Traffic Frame}
    (smooth : ∀ action ∈ actions, action.2 ≠ .hiccup)
    (reached : run step (initial hwms) actions = some final) (side : Side) :
    let t := final.facing side
    t.peerRead <+: t.written ∧
      (t.pair.peer.alive = true → t.written = t.peerRead ++
        (t.pair.content t.pair.peer.inpipe).flushed ++
        (t.pair.content t.pair.peer.inpipe).complete) ∧
      (0 < t.pair.this.hwm →
        t.written.countP PipeItem.counted ≤
          t.peerRead.countP PipeItem.counted + t.pair.this.hwm) := by
  have channelled := ((carried_of_run small smooth reached).facing side).this
  refine ⟨channelled.sound.delivered.first, fun alive => ?_, channelled.sound.accounted.unread_le⟩
  exact channelled.sound.delivered.held (by simp [outward, alive])

/-- When no command is on its way, an end that sleeps has nothing flushed to read; and an end that
is blocked, and has flushed what it wrote, has left its peer awake and with something to read. -/
theorem no_lost_wakeup {hwms : Nat × Nat} (small : hwms.1 < UInt64.size ∧ hwms.2 < UInt64.size)
    {actions : List (Side × PipePair.Action Frame)} {final : Traffic Frame}
    (smooth : ∀ action ∈ actions, action.2 ≠ .hiccup)
    (reached : run step (initial hwms) actions = some final) (side : Side)
    (sent : final.pair.sent = []) (inbox : final.pair.inbox = [])
    (idle : (final.facing side).pair.this.todo = .nothing)
    (reads : (final.facing side).pair.peer.state.reads = true)
    (alive : (final.facing side).pair.peer.alive = true) :
    let pair := (final.facing side).pair
    (pair.peer.inActive = false → (pair.content pair.peer.inpipe).flushed = []) ∧
      (pair.this.state = .active → pair.this.outActive = false →
        (pair.content pair.peer.inpipe).complete = [] →
        pair.peer.inActive = true ∧ (pair.content pair.peer.inpipe).flushed ≠ []) := by
  have channelled := ((carried_of_run small smooth reached).facing side).this
  have mail : (final.facing side).pair.sent = [] ∧ (final.facing side).pair.inbox = [] := by
    cases side with
    | this => exact ⟨sent, inbox⟩
    | peer => exact ⟨inbox, sent⟩
  have sound := channelled.sound
  refine ⟨fun asleep => ?_, fun active blocked flushed => ?_⟩
  · rcases sound.wakeful.woken asleep (by simp [outward, reads]) with rests | waking | coming
    · exact sound.wakeful.rests rests
    · simp [outward, idle, PipeTodo.wakes] at waking
    · simp [outward, mail.1] at coming
  · have closed : ((final.facing side).pair.outward (final.facing side).written
        (final.facing side).peerRead).closed = false := by
      simp [outward, active, PipeState.writes]
    have down : ((final.facing side).pair.outward (final.facing side).written
        (final.facing side).peerRead).writerUp = false := by
      simp [outward, blocked]
    have full := sound.accounted.blocked closed down
    simp only [CreditChannel.full, Bool.and_eq_true, decide_eq_true_eq] at full
    obtain ⟨positive, within⟩ := computeLwm_pos full.1
    refine sound.not_both_asleep ?_ ?_ closed (by simp [outward, reads]) down flushed ?_ ?_ ?_
    · show 0 < (final.facing side).pair.peer.lwm
      rw [channelled.lwm]
      exact positive
    · show (final.facing side).pair.peer.lwm ≤ _
      rw [channelled.lwm]
      exact within
    · simp [outward, mail.2, acks]
    · simp [outward, idle, PipeTodo.wakes]
    · simp [outward, mail.1]

-- A message of an end that is blocked by it.
def blockedWriter : List (Side × PipePair.Action Nat) :=
  [(.this, .write 7 false false), (.this, .flush), (.this, .checkWrite)]

theorem delivers_blocked : ∃ final, run step (initial (1, 1)) blockedWriter = some final ∧
    final.peerRead <+: final.written ∧ final.written.countP PipeItem.counted ≤ 1 := by
  have reached : ∃ final, run step (initial (1, 1)) blockedWriter = some final ∧
      final.peerRead = [] ∧ final.pair.this.hwm = 1 := ⟨_, rfl, rfl, rfl⟩
  obtain ⟨final, reached, unread, hwm⟩ := reached
  have smooth : ∀ action ∈ blockedWriter, action.2 ≠ .hiccup := by simp [blockedWriter]
  have facts := delivers (by decide) smooth reached .this
  simp only [facing, unread, hwm] at facts
  exact ⟨final, reached, unread ▸ facts.1, facts.2.2 Nat.one_pos⟩

theorem no_lost_wakeup_blocked : ∃ final,
    run step (initial (1, 1)) blockedWriter = some final ∧ final.pair.this.outActive = false ∧
      final.pair.peer.inActive = true ∧
      (final.pair.content final.pair.peer.inpipe).flushed ≠ [] := by
  have reached : ∃ final, run step (initial (1, 1)) blockedWriter = some final ∧
      final.pair.sent = [] ∧ final.pair.inbox = [] ∧ final.pair.this.todo = .nothing ∧
      final.pair.peer.state.reads = true ∧ final.pair.peer.alive = true ∧
      final.pair.this.state = .active ∧ final.pair.this.outActive = false ∧
      (final.pair.content final.pair.peer.inpipe).complete = [] :=
    ⟨_, rfl, rfl, rfl, rfl, rfl, rfl, rfl, rfl, rfl⟩
  obtain ⟨final, reached, sent, inbox, idle, reads, alive, active, blocked, flushed⟩ := reached
  have smooth : ∀ action ∈ blockedWriter, action.2 ≠ .hiccup := by simp [blockedWriter]
  have facts := no_lost_wakeup (by decide) smooth reached .this sent inbox idle reads alive
  exact ⟨final, reached, blocked, facts.2 active blocked flushed⟩

section Patience

/-- The end does not ask for the connection to be closed, nor for the closing not to wait. -/
def Patient : PipePair.Action Frame → Prop
  | .terminate _ | .setNodelay | .hiccup => False
  | _ => True

structure Awaits (p : Pipe) (read : List (PipeItem Frame)) : Prop where
  delay : p.delay = true
  ends : p.state.reads = true ∨
    ((p.state = .delimiterReceived ∨ p.state = .termAckSent) ∧ .delimiter ∈ read)

theorem Awaits.same {p next : Pipe} {read : List (PipeItem Frame)} (awaits : Awaits p read)
    (delay : next.delay = p.delay) (state : next.state = p.state) (more : List (PipeItem Frame)) :
    Awaits next (read ++ more) where
  delay := delay.trans awaits.delay
  ends := by
    rw [state]
    rcases awaits.ends with reads | ⟨ended, member⟩
    · exact .inl reads
    · exact .inr ⟨ended, List.mem_append_left _ member⟩

-- What a call leaves of an end that does not ask.
structure Settled (s next : PipePair Frame) : Prop where
  delay : next.this.delay = s.this.delay
  state : next.this.state = s.this.state

theorem Settled.trans {s middle next : PipePair Frame} (first : Settled s middle)
    (second : Settled middle next) : Settled s next :=
  ⟨second.delay.trans first.delay, second.state.trans first.state⟩

theorem Settled.awaits {s next : PipePair Frame} {read : List (PipeItem Frame)}
    (settled : Settled s next) (awaits : Awaits s.this read) (more : List (PipeItem Frame)) :
    Awaits next.this (read ++ more) :=
  awaits.same settled.delay settled.state more

theorem settled_onPipe (s : PipePair Frame) (pipe : Option Nat)
    (call : Upipe (PipeItem Frame) → Upipe (PipeItem Frame)) : Settled s (s.onPipe pipe call) := by
  unfold onPipe
  split
  next => exact ⟨rfl, rfl⟩
  next => split <;> exact ⟨rfl, rfl⟩

theorem settled_checkWrite (s : PipePair Frame) : Settled s s.checkWrite.1 := by
  unfold checkWrite
  split
  next => exact ⟨rfl, rfl⟩
  next => split <;> exact ⟨rfl, rfl⟩

theorem settled_write (s : PipePair Frame) (body : Frame) (more identity : Bool) :
    Settled s (s.write body more identity) := by
  unfold write
  split
  next =>
    dsimp only
    split
    next => exact ⟨rfl, rfl⟩
    next => exact settled_onPipe s _ _
  next => exact settled_checkWrite s

theorem settled_flush (s : PipePair Frame) : Settled s s.flush := by
  unfold flush
  split
  next => exact ⟨rfl, rfl⟩
  next =>
    split
    next => exact ⟨rfl, rfl⟩
    next =>
      split
      next => exact ⟨rfl, rfl⟩
      next => split <;> exact ⟨rfl, rfl⟩

theorem settled_go {s next : PipePair Frame} (taken : s.go = some next) : Settled s next := by
  unfold go at taken
  split at taken
  next => cases taken
  next =>
    cases taken
    have rested : Settled s { s with this := { s.this with todo := .nothing } } := ⟨rfl, rfl⟩
    have rolled (s : PipePair Frame) : Settled s s.rollback := by constructor <;> rw [rollback_this]
    exact ((rested.trans (rolled _)).trans (settled_onPipe _ _ _)).trans (settled_flush _)
  next =>
    cases taken
    exact ⟨rfl, rfl⟩

theorem awaits_delimiter {s : PipePair Frame} {read : List (PipeItem Frame)}
    (awaits : Awaits s.this read)
    (stored : Upipe (PipeItem Frame)) :
    Awaits (s.store s.this.inpipe stored).processDelimiter.this (read ++ [.delimiter]) := by
  unfold processDelimiter
  split
  next => exact ⟨awaits.delay, .inr ⟨.inl rfl, by simp⟩⟩
  next => exact ⟨awaits.delay, .inr ⟨.inr rfl, by simp⟩⟩

theorem settled_count (s : PipePair Frame) (item : PipeItem Frame) : Settled s (s.count item) := by
  unfold count
  dsimp only
  generalize (if item.counted = true then s.this.msgsRead + 1 else s.this.msgsRead) = msgsRead
  split <;> exact ⟨rfl, rfl⟩

theorem awaits_read {s : PipePair Frame} (straight : Straight s) (alive : s.this.alive = true)
    {read : List (PipeItem Frame)} (awaits : Awaits s.this read) :
    Awaits s.read.this (read ++ s.took .read) := by
  unfold PipePair.read took
  split
  next reads =>
    have there := straight.reads alive
    simp only [there]
    cases front : (s.content s.this.inpipe).flushed with
    | nil =>
        have slept : Settled s (s.store s.this.inpipe
            { s.content s.this.inpipe with asleep := true }).sleep := ⟨rfl, rfl⟩
        rw [read_nothing front]
        exact slept.awaits awaits _
    | cons item rest =>
        simp only [Upipe.read, front]
        cases item with
        | delimiter => exact awaits_delimiter awaits _
        | frame body more identity =>
            have taken : Settled s (s.store s.this.inpipe
                { s.content s.this.inpipe with flushed := rest }) := ⟨rfl, rfl⟩
            exact (taken.trans (settled_count _ _)).awaits awaits _
  next => exact awaits.same rfl rfl _

theorem awaits_checkRead {s : PipePair Frame} (straight : Straight s) (alive : s.this.alive = true)
    {read : List (PipeItem Frame)} (awaits : Awaits s.this read) :
    Awaits s.checkRead.this (read ++ s.took .checkRead) := by
  unfold PipePair.checkRead took
  split
  next reads =>
    have there := straight.reads alive
    simp only [there]
    cases front : (s.content s.this.inpipe).flushed with
    | nil =>
        have slept : Settled s (s.store s.this.inpipe
            (s.content s.this.inpipe).checkRead.1).sleep := ⟨rfl, rfl⟩
        exact slept.awaits awaits _
    | cons item rest =>
        cases item with
        | delimiter => exact awaits_delimiter awaits _
        | frame body more identity => exact awaits.same rfl rfl _
  next => exact awaits.same rfl rfl _

theorem awaits_process {s : PipePair Frame} (straight : Straight s) {command : PipeCommand}
    {rest : List PipeCommand} (inbox : s.inbox = command :: rest) (alive : s.this.alive = true)
    {read : List (PipeItem Frame)} (awaits : Awaits s.this read) :
    Awaits ({ s with inbox := rest }.processCommand command).this read := by
  have same (next : Pipe) (delay : next.delay = s.this.delay) (state : next.state = s.this.state) :
      Awaits next read := by
    simpa using awaits.same delay state []
  have peer := straight.sound.peer
  rw [inbox] at peer
  cases command with
  | activateRead =>
      simp only [processCommand]
      split <;> exact same _ rfl rfl
  | activateWrite msgsRead =>
      simp only [processCommand]
      split <;> exact same _ rfl rfl
  | hiccup pipe =>
      have none_sent := straight.smooth.2
      rw [inbox] at none_sent
      cases none_sent
  | pipeTerm =>
      have unanswered : ¬s.this.gotTerm := (peer.term.mp (by simp)).2
      have delay := awaits.delay
      simp only [processCommand, processPipeTerm]
      rcases awaits.ends with reads | ⟨received | answered, member⟩
      · cases state : s.this.state with
        | active =>
            simp only [delay, if_true]
            exact ⟨rfl, .inl rfl⟩
        | waitingForDelimiter => exact absurd (.inl state) unanswered
        | delimiterReceived => simp [state, PipeState.reads] at reads
        | termAckSent => simp [state, PipeState.reads] at reads
        | termReqSent1 => simp [state, PipeState.reads] at reads
        | termReqSent2 => simp [state, PipeState.reads] at reads
      · simp only [received]
        exact ⟨delay, .inr ⟨.inr rfl, member⟩⟩
      · exact absurd (.inr (.inl answered)) unanswered
  | pipeTermAck =>
      obtain ⟨-, position⟩ := peer.acknowledged straight.sound.this alive
      have answered : s.this.state = .termAckSent := by
        rcases position with (once | twice) | answered
        · rcases awaits.ends with reads | ⟨received | answered, -⟩
          · simp [once, PipeState.reads] at reads
          · cases once.symm.trans received
          · cases once.symm.trans answered
        · rcases awaits.ends with reads | ⟨received | answered, -⟩
          · simp [twice, PipeState.reads] at reads
          · cases twice.symm.trans received
          · cases twice.symm.trans answered
        · exact answered
      simp only [processCommand, processPipeTermAck, answered]
      exact same _ rfl answered.symm

theorem awaits_call {s next : PipePair Frame} {action : PipePair.Action Frame}
    (straight : Straight s) (alive : s.this.alive = true) (patient : Patient action)
    {read : List (PipeItem Frame)} (awaits : Awaits s.this read)
    (taken : s.call action = some next) :
    Awaits next.this (read ++ s.took action) := by
  cases action with
  | checkRead =>
      cases taken
      exact awaits_checkRead straight alive awaits
  | read =>
      cases taken
      exact awaits_read straight alive awaits
  | checkWrite =>
      cases taken
      exact (settled_checkWrite s).awaits awaits _
  | write body more identity =>
      cases taken
      exact (settled_write s body more identity).awaits awaits _
  | rollback =>
      cases taken
      have rolled : Settled s s.rollback := by constructor <;> rw [rollback_this]
      exact rolled.awaits awaits _
  | flush =>
      cases taken
      exact (settled_flush s).awaits awaits _
  | terminate delay => exact patient.elim
  | hiccup => exact patient.elim
  | setNodelay => exact patient.elim
  | process => cases taken
  | go => cases taken

theorem awaits_act {s next : PipePair Frame} {action : PipePair.Action Frame}
    (straight : Straight s) (patient : Patient action) {read : List (PipeItem Frame)}
    (awaits : Awaits s.this read) (taken : s.act action = some next) :
    Awaits next.this (read ++ s.took action) := by
  unfold PipePair.act at taken
  split at taken
  next => exact (settled_go taken).awaits awaits _
  next =>
    split at taken
    next => cases taken
    next command rest inbox =>
      obtain ⟨-, taken⟩ := Option.ite_none_left_eq_some.mp taken
      split at taken
      next dead =>
        have gone := (straight.sound.peer.gone (by simpa using dead)).2
        cases inbox.symm.trans gone
      next alive =>
        cases taken
        simpa [took] using awaits_process straight inbox (by simpa using alive) awaits
  next =>
    obtain ⟨guard, taken⟩ := Option.ite_none_right_eq_some.mp taken
    simp only [Bool.and_eq_true, decide_eq_true_eq] at guard
    exact awaits_call straight guard.1 patient awaits taken

def LetsFinish (side : Side) (action : Side × PipePair.Action Frame) : Prop :=
  action.2 ≠ .hiccup ∧ (action.1 ≠ side → Patient action.2)

theorem Carried.act_peer {t next : Traffic Frame} {action : PipePair.Action Frame}
    (carried : t.Carried) (smooth : action ≠ .hiccup) (taken : t.act action = some next) :
    next.pair.peer = t.pair.peer ∧ next.peerRead = t.peerRead := by
  obtain ⟨pair, moved, same⟩ := Option.map_eq_some_iff.mp taken
  subst same
  exact ⟨(moves_act carried.straight carried.this.fits carried.this.delimits smooth moved).peer, rfl⟩

theorem Carried.awaits_act {t next : Traffic Frame} {action : PipePair.Action Frame}
    (carried : t.Carried) (patient : Patient action) (awaits : Awaits t.pair.this t.read)
    (taken : t.act action = some next) : Awaits next.pair.this next.read := by
  obtain ⟨pair, moved, same⟩ := Option.map_eq_some_iff.mp taken
  subst same
  exact Traffic.awaits_act carried.straight patient awaits moved

theorem Carried.awaits_step {t next : Traffic Frame} {side : Side}
    {action : Side × PipePair.Action Frame} (carried : t.Carried)
    (awaits : Awaits (t.facing side).pair.peer (t.facing side).peerRead)
    (allowed : LetsFinish side action) (taken : t.step action = some next) :
    Awaits (next.facing side).pair.peer (next.facing side).peerRead := by
  obtain ⟨by_, action⟩ := action
  obtain ⟨smooth, patient⟩ := allowed
  cases side with
  | this =>
      cases by_ with
      | this =>
          obtain ⟨peer, read⟩ := carried.act_peer smooth taken
          simp only [Traffic.facing, peer, read] at awaits ⊢
          exact awaits
      | peer =>
          obtain ⟨other, moved, same⟩ := Option.map_eq_some_iff.mp taken
          subst same
          exact carried.swap.awaits_act (patient (by simp)) awaits moved
  | peer =>
      cases by_ with
      | this => exact carried.awaits_act (patient (by simp)) awaits taken
      | peer =>
          obtain ⟨other, moved, same⟩ := Option.map_eq_some_iff.mp taken
          subst same
          obtain ⟨peer, read⟩ := carried.swap.act_peer smooth moved
          simp only [Traffic.facing, Traffic.swap, PipePair.swap] at awaits peer read ⊢
          rw [peer, read]
          exact awaits

/-- When an end is gone, or its peer has acknowledged the end, the peer has read all that the end
had written, as long as the peer has not asked for the connection to be closed without delay. -/
theorem nothing_lost_on_close {hwms : Nat × Nat}
    (small : hwms.1 < UInt64.size ∧ hwms.2 < UInt64.size)
    {actions : List (Side × PipePair.Action Frame)} {final : Traffic Frame} (side : Side)
    (allowed : ∀ action ∈ actions, LetsFinish side action)
    (reached : run step (initial hwms) actions = some final)
    (closed : (final.facing side).pair.this.alive = false ∨
      (final.facing side).pair.peer.alive = false ∨
      (final.facing side).pair.peer.state = .termAckSent) :
    (final.facing side).peerRead.filter (fun item => !item.isDelimiter) =
      (final.facing side).written.filter fun item => !item.isDelimiter := by
  obtain ⟨carried, awaits⟩ : final.Carried ∧
      Awaits (final.facing side).pair.peer (final.facing side).peerRead := by
    refine run_invariant
      (fun t => t.Carried ∧ Awaits (t.facing side).pair.peer (t.facing side).peerRead) ?_
      ⟨initial_carried hwms small, ?_⟩ (along_of_forall allowed _) reached
    · intro t action next held allowed taken
      exact ⟨held.1.step allowed.1 taken, held.1.awaits_step held.2 allowed taken⟩
    · cases side <;> exact ⟨rfl, .inl rfl⟩
  have faced := carried.facing side
  have sound := faced.this.sound
  have dead (gone : (final.facing side).pair.peer.alive = false) :
      (final.facing side).pair.peer.state.reads = false := by
    simpa [outward] using sound.delivered.dropped (by simp [outward, gone])
  have answered (acked : (final.facing side).pair.peer.state = .termAckSent) :
      (final.facing side).pair.peer.state.reads = false := by
    rw [acked]
    rfl
  have stopped : (final.facing side).pair.peer.state.reads = false := by
    rcases closed with gone | peerGone | acked
    · rcases (faced.straight.sound.peer.gone gone).1 with peerGone | acked | twice
      · exact dead peerGone
      · exact answered acked
      · rw [twice]
        rfl
    · exact dead peerGone
    · exact answered acked
  rcases awaits.ends with reads | ⟨-, member⟩
  · cases stopped.symm.trans reads
  · exact sound.delivered.all_read member rfl

-- Two messages are read after the end that wrote them has asked to close.
def closing : List (Side × PipePair.Action Nat) :=
  [(.this, .write 7 true false), (.this, .write 8 false false), (.this, .write 9 false false),
    (.this, .flush), (.this, .terminate true), (.this, .go), (.peer, .process), (.peer, .read),
    (.peer, .read), (.peer, .read), (.peer, .read), (.this, .process), (.this, .process),
    (.this, .process), (.this, .process), (.peer, .process)]

theorem nothing_lost_on_close_read : ∃ final, run step (initial (2, 2)) closing = some final ∧
    final.pair.this.alive = false ∧
    final.peerRead.filter (fun item => !item.isDelimiter) =
      [.frame 7 true false, .frame 8 false false, .frame 9 false false] := by
  have reached : ∃ final, run step (initial (2, 2)) closing = some final ∧
      final.pair.this.alive = false ∧
      final.written.filter (fun item => !item.isDelimiter) =
        [.frame 7 true false, .frame 8 false false, .frame 9 false false] := ⟨_, rfl, rfl, rfl⟩
  obtain ⟨final, reached, gone, written⟩ := reached
  have allowed : ∀ action ∈ closing, LetsFinish .this action := by
    simp [closing, LetsFinish, Patient]
  refine ⟨final, reached, gone, ?_⟩
  rw [← written]
  exact nothing_lost_on_close (by decide) .this allowed reached (.inl gone)

end Patience

end Traffic

end Zmqcpp
