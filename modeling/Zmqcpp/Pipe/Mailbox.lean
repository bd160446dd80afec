import Zmqcpp.Pipe.Ypipe

set_option autoImplicit false

/-!
# Mailboxes

Any number of threads send commands to a mailbox, one receives them. It waits on a signal when
there is nothing to read.
-/

namespace Zmqcpp

open Transition

/-- Where the thread that holds the lock is in send. -/
inductive Sending (Command : Type)
  | write (cmd : Command)
  | flush
  | unlock (ok : Bool)
  deriving DecidableEq, Repr

/-- Where the receiver is in recv: about to take the command that it has found, to take the signal
back, in its wait, or about to read what it has been woken for. -/
inductive Receiving
  | idle
  | take
  | drain
  | wait
  | woken
  deriving DecidableEq, Repr

/-- mailbox_t, its constructor done. `signals` is the content of the signaler, `signalling` the
threads that have left the lock and are yet to send a signal. -/
structure Mailbox (Command : Type) where
  cpipe : Ypipe Command := ({} : Ypipe Command).read
  holder : Option (Nat × Sending Command) := none
  signalling : List Nat := []
  signals : Nat := 0
  active : Bool := false
  receiver : Receiving := .idle
  -- An assertion has failed.
  aborted : Bool := false
  deriving DecidableEq, Repr

namespace Mailbox

variable {Command : Type}

inductive Action (Command : Type)
  | lock (thread : Nat) (cmd : Command)
  | sender
  | signal (thread : Nat)
  | recv
  | receiver
  | giveUp
  deriving DecidableEq, Repr

def sender (m : Mailbox Command) : Option (Mailbox Command) :=
  match m.holder with
  | none => none
  | some (thread, .write cmd) =>
      (m.cpipe.step (.write cmd false)).map fun cpipe =>
        { m with cpipe, holder := some (thread, .flush) }
  | some (thread, .flush) =>
      if m.cpipe.waking then
        (m.cpipe.step .wake).map fun cpipe =>
          { m with cpipe, holder := some (thread, .unlock false) }
      else
        (m.cpipe.step .flush).map fun cpipe =>
          { m with
            cpipe
            holder := some (thread, if cpipe.waking then .flush else .unlock true) }
  | some (thread, .unlock ok) =>
      some
        { m with
          holder := none
          signalling := if ok then m.signalling else thread :: m.signalling }

def recv (m : Mailbox Command) : Option (Mailbox Command) :=
  if m.active then
    (m.cpipe.step .read).map fun cpipe =>
      if cpipe.taking then { m with cpipe, receiver := .take }
      else { m with cpipe, active := false, receiver := .drain }
  else some { m with receiver := .wait }

def receive (m : Mailbox Command) : Option (Mailbox Command) :=
  match m.receiver with
  | .idle => none
  | .take => (m.cpipe.step .take).map fun cpipe => { m with cpipe, receiver := .idle }
  -- signaler_t::recv gives one signal back when there are two; it asserts that there are no more.
  | .drain =>
      if m.signals = 1 ∨ m.signals = 2 then
        some { m with signals := m.signals - 1, receiver := .wait }
      else some { m with aborted := true }
  | .wait => if 0 < m.signals then some { m with active := true, receiver := .woken } else none
  | .woken =>
      (m.cpipe.step .read).map fun cpipe =>
        if cpipe.taking then { m with cpipe, receiver := .take }
        else { m with cpipe, aborted := true }

def step (m : Mailbox Command) : Action Command → Option (Mailbox Command)
  | .lock thread cmd =>
      if m.holder = none ∧ thread ∉ m.signalling then
        some { m with holder := some (thread, .write cmd) }
      else none
  | .sender => m.sender
  | .signal thread =>
      if thread ∈ m.signalling then
        some { m with signalling := m.signalling.erase thread, signals := m.signals + 1 }
      else none
  | .recv => if m.receiver = .idle then m.recv else none
  | .receiver => m.receive
  -- The wait times out or is interrupted.
  | .giveUp => if m.receiver = .wait then some { m with receiver := .idle } else none

def sent (m : Mailbox Command) : List Command := m.cpipe.items

def received (m : Mailbox Command) : List Command :=
  m.cpipe.outcomes.filterMap PipeOutcome.delivered

-- Signals that are in the signaler or about to be.
def owed (m : Mailbox Command) : Nat :=
  m.signals + m.signalling.length +
    match m.holder with
    | some (_, .unlock false) => 1
    | _ => 0

-- One signal while the receiver is not asleep, and one more until it has taken back the last.
def due (m : Mailbox Command) : Nat :=
  (if m.cpipe.c = none then 0 else 1) + if m.receiver = .drain then 1 else 0

def flushing (m : Mailbox Command) : Prop := ∃ thread, m.holder = some (thread, .flush)

structure Sound (m : Mailbox Command) : Prop where
  valid : m.cpipe.Valid
  framed : Ypipe.Framed (fun _ => false) m.cpipe
  complete : m.cpipe.f = m.cpipe.items.length
  flushed : ¬m.flushing → m.cpipe.w = m.cpipe.items.length
  waking : m.cpipe.waking = true → m.flushing
  taking : m.cpipe.taking = true ↔ m.receiver = .take
  balance : m.owed = m.due
  awake : m.active = true → m.cpipe.c ≠ none ∧ 0 < m.signals
  asleep : m.receiver = .drain ∨ m.receiver = .wait → m.active = false
  drain : m.receiver = .drain → 0 < m.signals
  running : m.receiver = .take ∨ m.receiver = .woken → m.active = true
  unread : m.active = false ∨ m.receiver = .woken → m.cpipe.c ≠ none →
    m.cpipe.front < m.cpipe.w
  alive : m.aborted = false

theorem sound_initial : ({} : Mailbox Command).Sound where
  valid := Ypipe.read_valid Ypipe.valid_initial rfl
  framed := by
    have first := Ypipe.framed_initial fun _ : Command => false
    exact Ypipe.step_framed .read Ypipe.valid_initial first trivial rfl
  complete := rfl
  flushed := fun _ => rfl
  waking := by simp [Ypipe.read, Ypipe.checkRead, cas]
  taking := by simp [Ypipe.read, Ypipe.checkRead, cas]
  balance := rfl
  awake := by simp
  asleep := by simp
  drain := by simp
  running := by simp
  unread := by simp [Ypipe.read, Ypipe.checkRead, cas]
  alive := rfl

theorem Sound.lock {m : Mailbox Command} (sound : m.Sound) (free : m.holder = none) (thread : Nat)
    (cmd : Command) : { m with holder := some (thread, .write cmd) }.Sound := by
  have none_flushing : ¬m.flushing := by simp [flushing, free]
  refine { sound with flushed := fun _ => sound.flushed none_flushing, waking := ?_, balance := ?_ }
  · intro waking
    exact absurd (sound.waking waking) none_flushing
  · simpa [owed, due, free] using sound.balance

theorem Sound.write {m : Mailbox Command} (sound : m.Sound) {thread : Nat} {cmd : Command}
    (holds : m.holder = some (thread, .write cmd)) {cpipe : Ypipe Command}
    (taken : m.cpipe.step (.write cmd false) = some cpipe) :
    { m with cpipe, holder := some (thread, .flush) }.Sound := by
  obtain ⟨idle, same⟩ := Option.ite_none_left_eq_some.mp taken
  cases same
  refine
    { sound with
      valid := Ypipe.step_valid _ _ _ sound.valid taken
      framed := Ypipe.write_framed sound.valid sound.framed cmd
      complete := by simp [Ypipe.write]
      flushed := fun none_flushing => absurd ⟨thread, rfl⟩ none_flushing
      waking := fun _ => ⟨thread, rfl⟩
      balance := ?_ }
  simpa [owed, due, holds, Ypipe.write] using sound.balance

-- The flush under the lock hands everything over; it has woken the reader when it returns false.
theorem Sound.handed {m : Mailbox Command} (sound : m.Sound) {thread : Nat}
    (holds : m.holder = some (thread, .flush)) {cpipe : Ypipe Command} {ok : Bool}
    (valid : cpipe.Valid) (framed : Ypipe.Framed (fun _ => false) cpipe)
    (items : cpipe.items = m.cpipe.items) (front : cpipe.front = m.cpipe.front)
    (w : cpipe.w = m.cpipe.f) (f : cpipe.f = m.cpipe.f) (taking : cpipe.taking = m.cpipe.taking)
    (awake : cpipe.waking = false)
    (shared : if ok then cpipe.c = none ↔ m.cpipe.c = none
      else m.cpipe.c = none ∧ cpipe.c ≠ none ∧ m.cpipe.w < m.cpipe.f) :
    { m with cpipe, holder := some (thread, .unlock ok) }.Sound := by
  have read := sound.valid.read_flushed
  have complete := sound.complete
  have below := sound.valid.flushed_complete
  refine
    { valid, framed
      complete := by simp only [items, f, complete]
      flushed := fun _ => by simp only [items, w, complete]
      waking := fun waking => absurd waking (by simp [awake])
      taking := by simpa only [taking] using sound.taking
      asleep := sound.asleep
      drain := sound.drain
      running := sound.running
      alive := sound.alive
      balance := ?_, awake := ?_, unread := ?_ }
  · have balance := sound.balance
    cases ok with
    | true =>
        have same : cpipe.c = none ↔ m.cpipe.c = none := shared
        simpa [owed, due, holds, same] using balance
    | false =>
        obtain ⟨before, after, -⟩ := shared
        simp only [owed, due, holds, before, after, if_true, if_false] at balance ⊢
        omega
  · intro active
    obtain ⟨reading, signalled⟩ := sound.awake active
    refine ⟨?_, signalled⟩
    cases ok with
    | true => exact fun none => reading (shared.mp none)
    | false => exact shared.2.1
  · intro passive reading
    show cpipe.front < cpipe.w
    rw [front, w]
    cases ok with
    | true =>
        have unread := sound.unread passive fun none => reading (shared.mpr none)
        omega
    | false =>
        have more := shared.2.2
        omega

theorem Sound.flush {m : Mailbox Command} (sound : m.Sound) {thread : Nat}
    (holds : m.holder = some (thread, .flush)) (idle : m.cpipe.waking = false)
    {cpipe : Ypipe Command} (taken : m.cpipe.step .flush = some cpipe) :
    { m with
      cpipe
      holder := some (thread, if cpipe.waking then .flush else .unlock true) }.Sound := by
  have valid := Ypipe.step_valid _ _ _ sound.valid taken
  have framed := Ypipe.step_framed .flush sound.valid sound.framed trivial taken
  obtain ⟨-, same⟩ := Option.ite_none_left_eq_some.mp taken
  cases same
  cases awake : m.cpipe.flush.waking with
  | false =>
      obtain ⟨items, front, w, f, taking, shared⟩ := Ypipe.flush_awake sound.valid awake
      exact sound.handed holds valid framed items front w f taking awake shared
  | true =>
      rcases Ypipe.flush_cases m.cpipe sound.valid with ⟨-, same⟩ | ⟨-, -, same⟩ | ⟨-, -, same⟩
      · simp [same, idle] at awake
      · simp [same, idle] at awake
      · simp only [if_true]
        rw [same] at valid framed ⊢
        refine
          { sound with
            valid, framed
            flushed := fun none_flushing => absurd ⟨thread, rfl⟩ none_flushing
            waking := fun _ => ⟨thread, rfl⟩
            balance := by simpa [owed, due, holds] using sound.balance }

theorem Sound.wake {m : Mailbox Command} (sound : m.Sound) {thread : Nat}
    (holds : m.holder = some (thread, .flush)) (waking : m.cpipe.waking = true)
    {cpipe : Ypipe Command} (taken : m.cpipe.step .wake = some cpipe) :
    { m with cpipe, holder := some (thread, .unlock false) }.Sound := by
  have valid := Ypipe.step_valid _ _ _ sound.valid taken
  have framed := Ypipe.step_framed .wake sound.valid sound.framed trivial taken
  obtain ⟨shared, more⟩ := sound.valid.waking waking
  obtain ⟨-, same⟩ := Option.ite_none_right_eq_some.mp taken
  cases same
  exact sound.handed holds valid framed rfl rfl rfl rfl rfl rfl
    (show m.cpipe.c = none ∧ some m.cpipe.f ≠ none ∧ m.cpipe.w < m.cpipe.f from
      ⟨shared, Option.some_ne_none _, more⟩)

theorem Sound.unlock {m : Mailbox Command} (sound : m.Sound) {thread : Nat} {ok : Bool}
    (holds : m.holder = some (thread, .unlock ok)) :
    { m with
      holder := none
      signalling := if ok then m.signalling else thread :: m.signalling }.Sound := by
  have none_flushing : ¬m.flushing := by simp [flushing, holds]
  refine
    { sound with
      flushed := fun _ => sound.flushed none_flushing
      waking := fun waking => absurd (sound.waking waking) none_flushing
      balance := ?_ }
  have balance := sound.balance
  cases ok with
  | true => simpa [owed, due, holds] using balance
  | false =>
      simp only [owed, due, holds] at balance ⊢
      simp only [Bool.false_eq_true, if_false, List.length_cons]
      omega

theorem Sound.sender {m next : Mailbox Command} (sound : m.Sound) (taken : m.sender = some next) :
    next.Sound := by
  unfold Mailbox.sender at taken
  split at taken
  next => cases taken
  next thread cmd holds =>
    obtain ⟨cpipe, stepped, same⟩ := Option.map_eq_some_iff.mp taken
    subst same
    exact sound.write holds stepped
  next thread holds =>
    split at taken
    next waking =>
      obtain ⟨cpipe, stepped, same⟩ := Option.map_eq_some_iff.mp taken
      subst same
      exact sound.wake holds waking stepped
    next idle =>
      obtain ⟨cpipe, stepped, same⟩ := Option.map_eq_some_iff.mp taken
      subst same
      exact sound.flush holds (by simpa using idle) stepped
  next thread ok holds =>
    cases taken
    exact sound.unlock holds

theorem Sound.signal {m : Mailbox Command} (sound : m.Sound) {thread : Nat}
    (member : thread ∈ m.signalling) :
    { m with signalling := m.signalling.erase thread, signals := m.signals + 1 }.Sound := by
  have some_left := List.length_pos_of_mem member
  refine
    { sound with
      balance := ?_
      awake := fun active => ⟨(sound.awake active).1, Nat.succ_pos _⟩
      drain := fun _ => Nat.succ_pos _ }
  have balance := sound.balance
  simp only [owed, due, List.length_erase_of_mem member] at balance ⊢
  omega

-- A receiver that reads while it is awake finds a command or goes to sleep.
theorem Sound.read {m : Mailbox Command} (sound : m.Sound) (active : m.active = true)
    (position : m.receiver = .idle ∨ m.receiver = .woken) {cpipe : Ypipe Command}
    (taken : m.cpipe.step .read = some cpipe) :
    (cpipe.taking = true ∧ { m with cpipe, receiver := .take }.Sound) ∨
      (cpipe.taking = false ∧ m.cpipe.front = m.cpipe.w ∧
        (m.receiver = .idle → { m with cpipe, active := false, receiver := .drain }.Sound)) := by
  have valid := Ypipe.step_valid _ _ _ sound.valid taken
  have framed := Ypipe.step_framed .read sound.valid sound.framed trivial taken
  have balance := sound.balance
  obtain ⟨reading, signalled⟩ := sound.awake active
  obtain ⟨idle, same⟩ := Option.ite_none_left_eq_some.mp taken
  cases same
  have elsewhere : m.receiver ≠ .drain := by rcases position with same | same <;> simp [same]
  rcases Ypipe.read_cases m.cpipe sound.valid with ⟨ahead, r, same⟩ | ⟨empty, r, same⟩
  · refine .inl ⟨by rw [same], ?_⟩
    rw [same] at valid framed ⊢
    refine
      { sound with
        valid, framed
        taking := by simp
        balance := ?_
        asleep := by simp
        drain := by simp
        running := fun _ => active
        unread := fun _ _ => ahead }
    simpa [owed, due, reading, elsewhere] using balance
  · refine .inr ⟨by simpa [same] using idle, empty, fun waits => ?_⟩
    rw [same] at valid framed ⊢
    refine
      { sound with
        valid, framed
        taking := by simpa using idle
        balance := ?_
        awake := by simp
        asleep := fun _ => rfl
        drain := fun _ => signalled
        running := by simp
        unread := fun _ none => absurd rfl none }
    simpa [owed, due, reading, elsewhere] using balance

theorem Sound.recv {m next : Mailbox Command} (sound : m.Sound) (idle : m.receiver = .idle)
    (taken : m.recv = some next) : next.Sound := by
  unfold Mailbox.recv at taken
  split at taken
  next active =>
    obtain ⟨cpipe, stepped, same⟩ := Option.map_eq_some_iff.mp taken
    subst same
    rcases sound.read active (.inl idle) stepped with ⟨found, after⟩ | ⟨empty, -, after⟩
    · rw [if_pos found]
      exact after
    · rw [if_neg (by simp [empty])]
      exact after idle
  next passive =>
    cases taken
    have taking := sound.taking
    rw [idle] at taking
    refine
      { sound with
        taking := by simpa using taking
        balance := ?_
        asleep := fun _ => by simpa using passive
        drain := by simp
        running := by simp
        unread := fun _ => sound.unread (.inl (by simpa using passive)) }
    simpa [owed, due, idle] using sound.balance

theorem Sound.take {m : Mailbox Command} (sound : m.Sound) (takes : m.receiver = .take)
    {cpipe : Ypipe Command} (taken : m.cpipe.step .take = some cpipe) :
    { m with cpipe, receiver := .idle }.Sound := by
  have active := sound.running (.inl takes)
  have valid := Ypipe.step_valid _ _ _ sound.valid taken
  have framed := Ypipe.step_framed .take sound.valid sound.framed trivial taken
  obtain ⟨taking, same⟩ := Option.ite_none_right_eq_some.mp taken
  obtain ⟨value, -, same⟩ := Option.map_eq_some_iff.mp same
  subst same
  refine
    { sound with
      valid, framed
      taking := by simp
      balance := ?_
      asleep := by simp
      drain := by simp
      running := by simp
      unread := by simp [active] }
  simpa [owed, due, takes] using sound.balance

-- There is a signal to take back, and never more than two.
theorem Sound.drains {m : Mailbox Command} (sound : m.Sound) (drains : m.receiver = .drain) :
    m.signals = 1 ∨ m.signals = 2 := by
  have some_signal := sound.drain drains
  have balance := sound.balance
  have bounded : m.due ≤ 2 := by
    rw [due, if_pos drains]
    split <;> omega
  unfold owed at balance
  omega

theorem Sound.receive {m next : Mailbox Command} (sound : m.Sound) (taken : m.receive = some next) :
    next.Sound := by
  have taking := sound.taking
  have balance := sound.balance
  unfold Mailbox.receive at taken
  split at taken
  next => cases taken
  next takes =>
    obtain ⟨cpipe, stepped, same⟩ := Option.map_eq_some_iff.mp taken
    subst same
    exact sound.take takes stepped
  next drains =>
    rw [if_pos (sound.drains drains)] at taken
    cases taken
    have some_signal := sound.drain drains
    have passive := sound.asleep (.inl drains)
    refine
      { sound with
        taking := by simpa [drains] using taking
        balance := ?_
        awake := by simp [passive]
        asleep := fun _ => passive
        drain := by simp
        running := by simp
        unread := fun _ => sound.unread (.inl passive) }
    simp only [owed, due, drains, if_true] at balance ⊢
    simp only [reduceCtorEq, if_false]
    omega
  next waits =>
    obtain ⟨signalled, same⟩ := Option.ite_none_right_eq_some.mp taken
    cases same
    have passive := sound.asleep (.inr waits)
    -- A signal is there for a reader that is not asleep.
    have reading : m.cpipe.c ≠ none := by
      intro none
      simp only [owed, due, waits, none, if_true, reduceCtorEq, if_false] at balance
      omega
    refine
      { sound with
        taking := by simpa [waits] using taking
        balance := by simpa [owed, due, waits] using balance
        awake := fun _ => ⟨reading, signalled⟩
        asleep := by simp
        drain := by simp
        running := fun _ => rfl
        unread := fun _ => sound.unread (.inl passive) }
  next woken =>
    obtain ⟨cpipe, stepped, same⟩ := Option.map_eq_some_iff.mp taken
    subst same
    have active := sound.running (.inr woken)
    have unread := sound.unread (.inr woken) (sound.awake active).1
    rcases sound.read active (.inr woken) stepped with ⟨found, after⟩ | ⟨-, empty, -⟩
    · rw [if_pos found]
      exact after
    · omega

theorem Sound.step {m next : Mailbox Command} (sound : m.Sound) {action : Action Command}
    (taken : m.step action = some next) : next.Sound := by
  cases action with
  | lock thread cmd =>
      obtain ⟨⟨free, -⟩, same⟩ := Option.ite_none_right_eq_some.mp taken
      cases same
      exact sound.lock free thread cmd
  | sender => exact sound.sender taken
  | signal thread =>
      obtain ⟨member, same⟩ := Option.ite_none_right_eq_some.mp taken
      cases same
      exact sound.signal member
  | recv =>
      obtain ⟨idle, taken⟩ := Option.ite_none_right_eq_some.mp taken
      exact sound.recv idle taken
  | receiver => exact sound.receive taken
  | giveUp =>
      obtain ⟨waits, same⟩ := Option.ite_none_right_eq_some.mp taken
      cases same
      have passive := sound.asleep (.inr waits)
      have taking := sound.taking
      refine
        { sound with
          taking := by simpa [waits] using taking
          balance := ?_
          asleep := by simp
          drain := by simp
          running := by simp
          unread := fun _ => sound.unread (.inl passive) }
      simpa [owed, due, waits] using sound.balance

theorem reached_sound {actions : List (Action Command)} {final : Mailbox Command}
    (reached : run step {} actions = some final) : final.Sound :=
  run_invariant Sound (fun _ _ _ sound _ taken => sound.step taken) sound_initial
    (along_true _ actions) reached

theorem Sound.received_eq {m : Mailbox Command} (sound : m.Sound) :
    m.received = m.sent.take m.cpipe.front :=
  sound.framed.delivered

theorem Sound.front_eq {m : Mailbox Command} (sound : m.Sound) :
    m.received.length = m.cpipe.front := by
  have read := sound.valid.read_flushed
  have flushed := sound.valid.flushed_complete
  have written := sound.valid.complete_written
  rw [sound.received_eq, List.length_take, sent]
  omega

-- While there is something to read a signal is there or about to be.
theorem Sound.signalled {m : Mailbox Command} (sound : m.Sound)
    (unread : m.cpipe.front < m.cpipe.w) : 0 < m.owed := by
  have reading : m.cpipe.c ≠ none := by
    rcases sound.valid.shared with shared | ⟨-, empty⟩
    · simp [shared]
    · omega
  rw [sound.balance, due, if_neg reading]
  omega

-- A receiver that waits with a signal there gets the oldest command that it has not received.
theorem Sound.handed_over {m : Mailbox Command} (sound : m.Sound) (waits : m.receiver = .wait)
    (signalled : 0 < m.signals) : ∃ next,
      run Mailbox.step m [.receiver, .receiver, .receiver] = some next ∧
        next.received = m.sent.take (m.received.length + 1) := by
  have passes : m.step .receiver = some { m with active := true, receiver := .woken } := by
    simp [Mailbox.step, Mailbox.receive, waits, signalled]
  have woken := sound.step passes
  have unread := woken.unread (.inr rfl) (woken.awake rfl).1
  have idle : m.cpipe.taking = false := by simpa [waits] using sound.taking
  rcases Ypipe.read_cases m.cpipe sound.valid with ⟨-, r, same⟩ | ⟨empty, -⟩
  · have reads : { m with active := true, receiver := .woken : Mailbox Command }.step .receiver =
        some { m with
          active := true
          cpipe := { m.cpipe with r := r, taking := true }
          receiver := .take } := by
      simp [Mailbox.step, Mailbox.receive, Ypipe.step, idle, same]
    have found := woken.step reads
    obtain ⟨value, first, taken⟩ := Ypipe.take_some found.valid rfl
    have takes : { m with
          active := true
          cpipe := { m.cpipe with r := r, taking := true }
          receiver := .take : Mailbox Command }.step .receiver =
        some { m with
          active := true
          cpipe :=
            { m.cpipe with
              r := r
              front := m.cpipe.front + 1
              taking := false
              outcomes := m.cpipe.outcomes ++ [.read (some value)] }
          receiver := .idle } := by
      simp [Mailbox.step, Mailbox.receive, Ypipe.step, taken]
    have received := (found.step takes).received_eq
    refine ⟨_, run_cons_some.mpr ⟨_, passes, run_cons_some.mpr ⟨_, reads, run_cons_some.mpr
      ⟨_, takes, rfl⟩⟩⟩, ?_⟩
    rw [received, sound.front_eq]
    rfl
  · exact absurd empty (Nat.ne_of_lt unread)

-- The command that an action brings to the lock.
def lockedCommand : Action Command → Option Command
  | .lock _ cmd => some cmd
  | _ => none

-- The command that the holder of the lock has yet to write.
def unwritten (m : Mailbox Command) : List Command :=
  match m.holder with
  | some (_, .write cmd) => [cmd]
  | _ => []

theorem read_items {s : Ypipe Command} (valid : s.Valid) : s.read.items = s.items := by
  rcases Ypipe.read_cases s valid with ⟨-, r, same⟩ | ⟨-, r, same⟩ <;> rw [same]

theorem sender_sent {m next : Mailbox Command} (sound : m.Sound) (taken : m.sender = some next) :
    next.sent ++ next.unwritten = m.sent ++ m.unwritten := by
  unfold Mailbox.sender at taken
  split at taken
  next => cases taken
  next thread cmd holds =>
    obtain ⟨cpipe, stepped, same⟩ := Option.map_eq_some_iff.mp taken
    obtain ⟨-, written⟩ := Option.ite_none_left_eq_some.mp stepped
    subst same
    cases written
    simp [sent, unwritten, holds, Ypipe.write]
  next thread holds =>
    split at taken
    next waking =>
      obtain ⟨cpipe, stepped, same⟩ := Option.map_eq_some_iff.mp taken
      obtain ⟨-, woken⟩ := Option.ite_none_right_eq_some.mp stepped
      subst same
      cases woken
      simp [sent, unwritten, holds, Ypipe.wake]
    next idle =>
      obtain ⟨cpipe, stepped, same⟩ := Option.map_eq_some_iff.mp taken
      obtain ⟨-, flushed⟩ := Option.ite_none_left_eq_some.mp stepped
      subst same
      cases flushed
      rcases Ypipe.flush_cases m.cpipe sound.valid with ⟨-, same⟩ | ⟨-, -, same⟩ | ⟨-, -, same⟩ <;>
        rw [same] <;> cases m.cpipe.waking <;> simp [sent, unwritten, holds]
  next thread ok holds =>
    cases taken
    simp [sent, unwritten, holds]

theorem receive_sent {m next : Mailbox Command} (sound : m.Sound) (taken : m.receive = some next) :
    next.sent ++ next.unwritten = m.sent ++ m.unwritten := by
  unfold Mailbox.receive at taken
  split at taken
  next => cases taken
  next =>
    obtain ⟨cpipe, stepped, same⟩ := Option.map_eq_some_iff.mp taken
    obtain ⟨-, stepped⟩ := Option.ite_none_right_eq_some.mp stepped
    obtain ⟨value, -, took⟩ := Option.map_eq_some_iff.mp stepped
    subst same
    subst took
    rfl
  next =>
    split at taken <;> cases taken <;> rfl
  next =>
    obtain ⟨-, same⟩ := Option.ite_none_right_eq_some.mp taken
    cases same
    rfl
  next =>
    obtain ⟨cpipe, stepped, same⟩ := Option.map_eq_some_iff.mp taken
    obtain ⟨-, read⟩ := Option.ite_none_left_eq_some.mp stepped
    subst same
    cases read
    split <;> simp [sent, unwritten, read_items sound.valid]

theorem step_sent {m next : Mailbox Command} (sound : m.Sound) {action : Action Command}
    (taken : m.step action = some next) :
    next.sent ++ next.unwritten = m.sent ++ m.unwritten ++ (lockedCommand action).toList := by
  cases action with
  | lock thread cmd =>
      obtain ⟨⟨free, -⟩, same⟩ := Option.ite_none_right_eq_some.mp taken
      cases same
      simp [sent, unwritten, free, lockedCommand]
  | sender => simpa [lockedCommand] using sender_sent sound taken
  | signal thread =>
      obtain ⟨-, same⟩ := Option.ite_none_right_eq_some.mp taken
      cases same
      simp [sent, unwritten, lockedCommand]
  | recv =>
      obtain ⟨-, taken⟩ := Option.ite_none_right_eq_some.mp taken
      unfold Mailbox.recv at taken
      split at taken
      next =>
        obtain ⟨cpipe, stepped, same⟩ := Option.map_eq_some_iff.mp taken
        obtain ⟨-, read⟩ := Option.ite_none_left_eq_some.mp stepped
        subst same
        cases read
        split <;> simp [sent, unwritten, read_items sound.valid, lockedCommand]
      next =>
        cases taken
        simp [sent, unwritten, lockedCommand]
  | receiver => simpa [lockedCommand] using receive_sent sound taken
  | giveUp =>
      obtain ⟨-, same⟩ := Option.ite_none_right_eq_some.mp taken
      cases same
      simp [sent, unwritten, lockedCommand]

theorem run_sent {m final : Mailbox Command} (sound : m.Sound) {actions : List (Action Command)}
    (reached : run Mailbox.step m actions = some final) :
    final.sent ++ final.unwritten = m.sent ++ m.unwritten ++ actions.filterMap lockedCommand := by
  induction actions generalizing m with
  | nil =>
      cases reached
      simp
  | cons action rest ih =>
      obtain ⟨next, taken, remaining⟩ := run_cons_some.mp reached
      rw [ih (sound.step taken) remaining, step_sent sound taken, List.append_assoc]
      cases locked : lockedCommand action <;> simp [locked]

/-- In every interleaving of senders and receiver no assertion fails, the commands are received once
each in the order in which their senders took the lock, and when no send is under way a receiver
that waits gets the oldest command that is left. -/
theorem no_command_lost {actions : List (Action Command)} {final : Mailbox Command}
    (reached : run step {} actions = some final) :
    final.aborted = false ∧
      final.sent ++ final.unwritten = actions.filterMap lockedCommand ∧
      final.received = final.sent.take final.received.length ∧
      (final.holder = none → final.signalling = [] → final.receiver = .wait →
        final.received.length < final.sent.length →
        ∃ next, run step final [.receiver, .receiver, .receiver] = some next ∧
          next.received = final.sent.take (final.received.length + 1)) := by
  have sound := reached_sound reached
  refine ⟨sound.alive, ?_, ?_, fun free quiet waits unread => ?_⟩
  · rw [run_sent sound_initial reached]
    rfl
  · rw [sound.front_eq]
    exact sound.received_eq
  · have handed := sound.flushed (by simp [flushing, free])
    rw [sound.front_eq, sent] at unread
    have signalled := sound.signalled (by omega)
    simp only [owed, free, quiet, List.length_nil] at signalled
    exact sound.handed_over waits (by omega)

-- Two senders overtake each other between the lock and the signal.
def overtaken : List (Action Nat) :=
  [.lock 1 10, .sender, .sender, .sender, .sender, .lock 2 20, .recv, .sender, .sender, .sender,
    .signal 1]

theorem no_command_lost_overtaken : ∃ final, run step {} overtaken = some final ∧
    ∃ next, run step final [.receiver, .receiver, .receiver] = some next ∧
      next.received = [10] := by
  have reached : ∃ final, run step {} overtaken = some final ∧ final.holder = none ∧
      final.signalling = [] ∧ final.receiver = .wait ∧ final.received = [] ∧
      final.sent = [10, 20] := ⟨_, rfl, rfl, rfl, rfl, rfl, rfl⟩
  obtain ⟨final, reached, free, quiet, waits, received, sent⟩ := reached
  have delivers := (no_command_lost reached).2.2.2 free quiet waits (by simp [received, sent])
  rw [received, sent] at delivers
  exact ⟨final, reached, delivers⟩

end Mailbox

end Zmqcpp
