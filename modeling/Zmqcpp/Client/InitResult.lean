import Zmqcpp.Client.InitWait
import Zmqcpp.Client.StaleSockets

set_option autoImplicit false

/-!
# The result of Init

A layer on the client that records the events each poll thread has handled and what Init has
sampled.
-/

namespace Zmqcpp

-- What the read of m_transportState that ends Init's wait has found, and whether Closed or
-- Disconnected had been handled in the session by then.
structure Sample where
  state : EnumTransportState := .undefine
  broken : Bool := false
  deriving DecidableEq, Repr

structure InitHistory where
  client : ZmqClientBase
  -- The poll threads that have come to their loop.
  up : Nat → Bool := fun _ => false
  -- The events for which a poll thread has stored a state, the latest first.
  events : Nat → List MonitorEvent := fun _ => []
  sample : Tid → Sample := fun _ => {}

def EnumTransportState.connected : EnumTransportState → Bool
  | .transporting | .transported => true
  | _ => false

theorem EnumTransportState.connected_of_undefine_lt {state : EnumTransportState}
    (above : .undefine < state) (polling : state ≠ .transportedPollFinish) :
    state.connected = true := by
  cases state <;> first | rfl | exact absurd above (by decide) | exact absurd rfl polling

-- RecvPoll is in its loops, or leaves them.
def RecvPollPc.begun : RecvPollPc → Bool
  | .setFailed | .finished => false
  | pc => decide (4 ≤ pc.stage)

-- The poll thread whose first state Init waits for, up to the return of Init.
def InitPc.waitsFor (recvthread : Option Nat) : InitPc → Option Nat
  | .storeThread session => some session
  | .testState | .readResult => recvthread
  | _ => none

def Task.waitsFor (recvthread : Option Nat) : Task → Option Nat
  | .reset (.init _ _ pc) => pc.waitsFor recvthread
  | _ => none

theorem Task.init_of_waitsFor {task : Task} {recvthread : Option Nat} {session : Nat}
    (waits : task.waitsFor recvthread = some session) : ∃ connectStateFn recvFn pc,
      task = .reset (.init connectStateFn recvFn pc) ∧ pc.waitsFor recvthread = some session := by
  unfold Task.waitsFor at waits
  split at waits
  · exact ⟨_, _, _, rfl, waits⟩
  · cases waits

-- Init's next step is a read of m_transportState in its wait.
def Task.samples : Task → Bool
  | .reset (.init _ _ .testState) => true
  | _ => false

theorem Task.controls_of_storesUndefine {task : Task} (stores : task.storesUndefine = true) :
    task.controls = true := by
  cases task <;> first | rfl | cases stores

-- The event whose handler stores m_transportState in the thread's next step.
def RecvPollPc.handles : RecvPollPc → List MonitorEvent
  | .storeState _ event => [event]
  | _ => []

theorem MonitorLoop.next_begun (loop : MonitorLoop) : loop.next.begun = true := by
  cases loop with
  | poll => rfl
  | drain timeoutCount =>
      simp only [MonitorLoop.next]
      split_ifs <;> rfl

theorem afterClient_begun (monitor : Bool) : (afterClient monitor).begun = true := by
  cases monitor <;> rfl

theorem afterBack_begun (client monitor : Bool) : (afterBack client monitor).begun = true := by
  cases client <;> cases monitor <;> rfl

theorem afterPoll_begun (back client monitor : Bool) :
    (afterPoll back client monitor).begun = true := by
  cases back <;> cases client <;> cases monitor <;> rfl

namespace ZmqClientBase

variable {s next : ZmqClientBase} {action : Action} {thread : Tid} {session : Nat}

theorem recvPollStep_begun {polled : ZmqClientBase} {env : Env} {pc after : RecvPollPc}
    (taken : s.recvPollStep session env pc = some (polled, after)) (ends : after ≠ .finished) :
    after.begun = true ↔ pc.begun = true ∨ pc = .setTransporting := by
  cases pc with
  | poll =>
      cases taken
      exact iff_of_true (afterPoll_begun _ _ _) (.inl rfl)
  | backSocketRecv client monitor =>
      cases taken
      exact iff_of_true (afterBack_begun client monitor) (.inl rfl)
  | recviov monitor =>
      cases taken
      split_ifs
      · exact iff_of_true rfl (.inl rfl)
      · exact iff_of_true (afterClient_begun monitor) (.inl rfl)
  | recvCallback monitor =>
      simp only [recvPollStep] at taken
      split at taken <;> cases taken
      · exact iff_of_true (afterClient_begun monitor) (.inl rfl)
      · exact iff_of_true rfl (.inl rfl)
  | inRecvFunc monitor =>
      simp only [recvPollStep, Option.ite_none_right_eq_some] at taken
      obtain ⟨-, taken⟩ := taken
      cases taken
      exact iff_of_true (afterClient_begun monitor) (.inl rfl)
  | monitorRecv loop =>
      have before : (RecvPollPc.monitorRecv loop).begun = true := by cases loop <;> rfl
      simp only [recvPollStep] at taken
      split at taken <;> cases taken
      · exact iff_of_true loop.next_begun (.inl before)
      · exact iff_of_true loop.next_begun (.inl before)
      · apply iff_of_true _ (.inl before)
        split_ifs <;> cases loop <;> rfl
  | connectCallback loop event =>
      have before : (RecvPollPc.connectCallback loop event).begun = true := by cases loop <;> rfl
      simp only [recvPollStep] at taken
      split at taken <;> cases taken
      · exact iff_of_true loop.next_begun (.inl before)
      · cases loop <;> exact iff_of_true rfl (.inl rfl)
  | inConnectStateFunc loop =>
      simp only [recvPollStep, Option.ite_none_right_eq_some] at taken
      obtain ⟨-, taken⟩ := taken
      cases taken
      apply iff_of_true loop.next_begun
      cases loop <;> exact .inl rfl
  | storeState loop event =>
      simp only [recvPollStep] at taken
      split_ifs at taken <;> cases taken <;> cases loop <;> exact iff_of_true rfl (.inl rfl)
  | clearRun loop event =>
      cases taken
      cases loop <;> exact iff_of_true rfl (.inl rfl)
  | connectClient | bindBack =>
      simp only [recvPollStep] at taken
      split_ifs at taken <;> cases taken <;> decide
  | finished => cases taken
  | setPollFinish | setFailed =>
      cases taken
      exact absurd rfl ends
  | testRun =>
      cases taken
      split_ifs <;> exact iff_of_true rfl (.inl rfl)
  | testStopMonitor timeoutCount =>
      cases taken
      split_ifs <;> exact iff_of_true rfl (.inl rfl)
  | newClientSocket | newBackSocket | setMonitorSocket | setClientOptions | setBackOptions =>
      cases taken
      split_ifs <;> decide
  | setTransporting =>
      cases taken
      exact iff_of_true rfl (.inr rfl)
  | closeSockets | updateLastPong =>
      cases taken
      exact iff_of_true rfl (.inl rfl)
  | clearStopMonitor | setThreadId | makeIdentity | setInprocAddress | setRun =>
      cases taken
      decide

-- m_transportState is stored by RecvPoll, and as UNDEFINE by Stop and Init.
theorem step_stores (taken : s.step action = some next) :
    next.transportState = s.transportState ∨
      (∃ thread env, action = .task thread env ∧ (s.task thread).storesUndefine = true) ∨
      ∃ session env, action = .recvPoll session env := by
  cases step_stateStore taken with
  | same same => exact .inl same
  | stop thread env after own here => exact .inr (.inl ⟨thread, env, own, by rw [here]; rfl⟩)
  | init thread env connectStateFn recvFn own here =>
      exact .inr (.inl ⟨thread, env, own, by rw [here]; rfl⟩)
  | transporting session env own | event session env loop event own | pollFinish session env own
  | failed session env own => exact .inr (.inr ⟨session, env, own⟩)

theorem step_waitsFor (serial : s.Serial) (taken : s.step action = some next)
    (waits : (next.task thread).waitsFor next.recvthread = some session) :
    (s.task thread).waitsFor s.recvthread = some session ∨
      ∃ env connectStateFn recvFn, action = .task thread env ∧
        s.task thread = .reset (.init connectStateFn recvFn .newThread) ∧ session = s.sessions := by
  obtain ⟨connectStateFn, recvFn, pc, entered, waits⟩ := Task.init_of_waitsFor waits
  rcases step_into_init taken entered with here | ⟨rfl, -⟩ | ⟨env, before, rfl, here, flow⟩
  · left
    rw [here]
    cases pc with
    | testState | readResult =>
        rcases step_recvthread taken with same | ⟨other, _, _, number, storing⟩
        · exact same.symm.trans waits
        · cases serial thread other (by rw [here]; rfl) (by rw [storing]; rfl)
          rw [here] at storing
          cases storing
    | _ => exact waits
  · cases waits
  · rw [step_init here taken] at waits
    rw [here]
    cases flow with
    | newThread =>
        cases waits
        exact .inr ⟨env, connectStateFn, recvFn, rfl, rfl, rfl⟩
    | storeThread | waits | sampled => exact .inl waits
    | _ => cases waits

end ZmqClientBase

namespace InitHistory

open ZmqClientBase

-- Closed or Disconnected has been handled in the session of m_recvthread.
def broken (h : InitHistory) : Bool :=
  h.client.recvthread.any fun session => (h.events session).any fun event => event ≠ .connected

def recordUp (h : InitHistory) : Action → Nat → Bool
  | .recvPoll session _ =>
      Function.update h.up session (h.up session || decide (h.client.poll session = .setTransporting))
  | _ => h.up

def recordEvents (h : InitHistory) : Action → Nat → List MonitorEvent
  | .recvPoll session _ =>
      Function.update h.events session ((h.client.poll session).handles ++ h.events session)
  | _ => h.events

def recordSample (h : InitHistory) : Action → Tid → Sample
  | .task thread _ =>
      if (h.client.task thread).samples then
        Function.update h.sample thread { state := h.client.transportState, broken := h.broken }
      else h.sample
  | _ => h.sample

def step (h : InitHistory) (action : Action) : Option InitHistory :=
  (h.client.step action).map fun client =>
    { client
      up := h.recordUp action
      events := h.recordEvents action
      sample := h.recordSample action }

/-- Init's result in a session: false once Closed or Disconnected has been handled before the sample
that ends the wait or the poll thread has finished, and true only on TRANSPORTING or TRANSPORTED. -/
structure Timely (h : InitHistory) (sample : Sample) (session : Nat) (value : Bool) : Prop where
  lost : sample.broken = true ∨ h.client.poll session = .finished → value = false
  connected : value = true →
    sample.state.connected = true ∧ h.client.transportState.connected = true

def TimelyResult (h : InitHistory) (action : Action) : Prop :=
  ∀ thread env connectStateFn recvFn session next value, action = .task thread env →
    h.client.task thread = .reset (.init connectStateFn recvFn .readResult) →
      h.client.recvthread = some session → h.step action = some next →
        next.client.task thread = .reset (.result value) → h.Timely (h.sample thread) session value

/-- When Init reads its result, its poll thread has not finished after its set-up, and if Closed or
Disconnected had been handled, the last event that stored a state is not Connected. -/
def StillSampled (h : InitHistory) (action : Action) : Prop :=
  ∀ thread env connectStateFn recvFn session, action = .task thread env →
    h.client.task thread = .reset (.init connectStateFn recvFn .readResult) →
      h.client.recvthread = some session → h.client.crashed = false →
        (h.client.poll session = .finished → h.up session = false) ∧
          ((h.sample thread).broken = true → (h.events session).head? ≠ some .connected)

-- The state that a poll thread's stores have left.
def stored (h : InitHistory) (session : Nat) : EnumTransportState :=
  if h.client.poll session = .finished then
    if h.up session then .transportedPollFinish else .transportFailed
  else
    match h.events session with
    | .connected :: _ => .transported
    | _ :: _ => .transportFailed
    | [] => if h.up session then .transporting else .undefine

structure Phase (h : InitHistory) (session : Nat) : Prop where
  begun : h.client.poll session ≠ .finished → h.up session = (h.client.poll session).begun
  quiet : h.up session = false → h.events session = []

variable {h next : InitHistory} {action : Action} {thread : Tid} {session : Nat}

theorem finished_of_stored (ended : h.stored session = .transportedPollFinish) :
    h.client.poll session = .finished ∧ h.up session = true := by
  unfold stored at ended
  split at ended
  · next finished =>
      split_ifs at ended with up
      exact ⟨finished, up⟩
  · split at ended
    · cases ended
    · cases ended
    · split_ifs at ended

theorem step_client (taken : h.step action = some next) : h.client.step action = some next.client := by
  simp only [step, Option.map_eq_some_iff] at taken
  obtain ⟨client, taken, rfl⟩ := taken
  exact taken

theorem step_records (taken : h.step action = some next) :
    next.up = h.recordUp action ∧ next.events = h.recordEvents action ∧
      next.sample = h.recordSample action := by
  simp only [step, Option.map_eq_some_iff] at taken
  obtain ⟨client, taken, rfl⟩ := taken
  exact ⟨rfl, rfl, rfl⟩

theorem kept_other (taken : h.step action = some next) (other : ∀ env, action ≠ .recvPoll session env) :
    next.client.poll session = h.client.poll session ∧ next.up session = h.up session ∧
      next.events session = h.events session := by
  refine ⟨?_, ?_⟩
  · rcases step_poll session (step_client taken) with same | ⟨env, _, _, own, -⟩
    · exact same
    · exact absurd own (other env)
  · obtain ⟨up, events, -⟩ := step_records taken
    rw [up, events]
    cases action with
    | recvPoll number env =>
        have different : session ≠ number := by
          rintro rfl
          exact other env rfl
        simp [recordUp, recordEvents, different]
    | _ => exact ⟨rfl, rfl⟩

theorem stored_other (taken : h.step action = some next)
    (other : ∀ env, action ≠ .recvPoll session env) : next.stored session = h.stored session := by
  obtain ⟨poll, up, events⟩ := kept_other taken other
  simp only [stored, poll, up, events]

theorem step_own {env : Env} (taken : h.step (.recvPoll session env) = some next) :
    ∃ polled pc, h.client.Running session ∧
      h.client.recvPollStep session env (h.client.poll session) = some (polled, pc) ∧
      next.client = polled.setPoll session pc ∧
      next.up session = (h.up session || decide (h.client.poll session = .setTransporting)) ∧
      next.events session = (h.client.poll session).handles ++ h.events session := by
  obtain ⟨polled, pc, created, moved, reached⟩ := step_recvPoll (step_client taken)
  obtain ⟨up, events, -⟩ := step_records taken
  refine ⟨polled, pc, ⟨created, fun finished => ?_⟩, moved, reached, ?_, ?_⟩
  · rw [finished] at moved
    cases moved
  · simp [up, recordUp]
  · simp [events, recordEvents]

theorem Phase.step (phase : h.Phase session) (taken : h.step action = some next) :
    next.Phase session := by
  by_cases own : ∃ env, action = .recvPoll session env
  · obtain ⟨env, rfl⟩ := own
    obtain ⟨polled, pc, running, moved, reached, up, events⟩ := step_own taken
    have before := phase.begun running.2
    refine ⟨?_, ?_⟩
    · intro ends
      have after : next.client.poll session = pc := by simp [reached]
      rw [after] at ends ⊢
      rw [up, before, Bool.eq_iff_iff, recvPollStep_begun moved ends]
      simp
    · intro down
      simp only [up, Bool.or_eq_false_iff] at down
      rw [events, phase.quiet down.1, List.append_nil]
      rw [before] at down
      cases here : h.client.poll session with
      | storeState loop event =>
          rw [here] at down
          cases loop <;> cases down.1
      | _ => rfl
  · obtain ⟨poll, up, events⟩ := kept_other taken (not_exists.mp own)
    refine ⟨?_, ?_⟩
    · rw [poll, up]
      exact phase.begun
    · rw [up, events]
      exact phase.quiet

-- A poll thread's own stores are the ones that its history tells.
theorem stored_own {env : Env} (phase : h.Phase session)
    (current : h.client.transportState = h.stored session)
    (taken : h.step (.recvPoll session env) = some next) :
    next.client.transportState = next.stored session := by
  obtain ⟨polled, pc, running, moved, reached, up, events⟩ := step_own taken
  have before := phase.begun running.2
  have after : next.client.poll session = pc := by simp [reached]
  have state : next.client.transportState = polled.transportState := by rw [reached]; rfl
  rw [state, stored, after, up, events]
  rw [stored, if_neg running.2] at current
  cases here : h.client.poll session with
  | setTransporting =>
      rw [here] at moved before
      cases moved
      simp [RecvPollPc.handles, phase.quiet before]
  | storeState loop event =>
      rw [here] at moved
      simp only [recvPollStep] at moved
      split_ifs at moved with connects <;> cases moved
      · simp [RecvPollPc.handles, connects]
      · cases event <;> simp [RecvPollPc.handles] at connects ⊢
  | setPollFinish =>
      rw [here] at moved before
      cases moved
      simp [before, RecvPollPc.begun, RecvPollPc.stage]
  | setFailed =>
      rw [here] at moved before
      cases moved
      simp [before, RecvPollPc.begun]
  | _ =>
      have going : pc ≠ .finished := by
        intro ends
        rcases recvPollStep_ends moved ends with same | same <;> (rw [here] at same; cases same)
      rw [(recvPollStep_frame moved).transportState (by simp [here]) (by simp [here])
        (by simp [here]) (by simp [here]), if_neg going, current]
      simp [RecvPollPc.handles]

structure Explained (h : InitHistory) (session : Nat) (sample : Sample) : Prop where
  state : sample.state.connected = true ∨ sample.broken = true ∨ h.client.poll session = .finished
  broken : sample.broken = true → h.events session ≠ []

structure Tracked (h : InitHistory) : Prop where
  serial : h.client.Serial
  sound : h.client.slot.Sound
  unstarted : h.client.Unstarted
  phase : ∀ session, h.Phase session
  starting : ∀ thread connectStateFn recvFn,
    h.client.task thread = .reset (.init connectStateFn recvFn .newThread) →
      h.client.transportState = .undefine
  waits : ∀ thread session, (h.client.task thread).waitsFor h.client.recvthread = some session →
    h.client.transportState = h.stored session ∧ ∀ other, h.client.Running other → other = session
  sampled : ∀ thread connectStateFn recvFn session,
    h.client.task thread = .reset (.init connectStateFn recvFn .readResult) →
      h.client.recvthread = some session → h.Explained session (h.sample thread)

theorem running_of_step {env : Env} (taken : h.step (.recvPoll session env) = some next) :
    h.client.Running session := by
  obtain ⟨polled, pc, running, -⟩ := step_own taken
  exact running

theorem poll_finished (taken : h.step action = some next)
    (finished : h.client.poll session = .finished) : next.client.poll session = .finished := by
  rcases step_poll session (step_client taken) with same | ⟨env, polled, pc, -, -, moved, -⟩
  · exact same.trans finished
  · rw [finished] at moved
    cases moved

theorem Explained.step {sample : Sample} (explained : h.Explained session sample)
    (taken : h.step action = some next) : next.Explained session sample := by
  refine ⟨?_, fun broken => ?_⟩
  · rcases explained.state with connected | broken | finished
    · exact .inl connected
    · exact .inr (.inl broken)
    · exact .inr (.inr (poll_finished taken finished))
  · have before := explained.broken broken
    by_cases own : ∃ env, action = .recvPoll session env
    · obtain ⟨env, rfl⟩ := own
      obtain ⟨polled, pc, -, -, -, -, events⟩ := step_own taken
      simp [events, before]
    · rw [(kept_other taken (not_exists.mp own)).2.2]
      exact before

-- No poll thread is left while Init is between its joinable test and the next thread.
theorem Tracked.none_running (tracked : h.Tracked) {connectStateFn recvFn : Option Nat}
    (here : h.client.task thread = .reset (.init connectStateFn recvFn .newThread))
    (session : Nat) : ¬h.client.Running session := by
  rw [← slot_running]
  apply tracked.sound.entered_idle thread
  simp [slot, here, Task.hold, InitPc.hold]

theorem Tracked.starting_step (tracked : h.Tracked) (taken : h.step action = some next)
    {connectStateFn recvFn : Option Nat}
    (entered : next.client.task thread = .reset (.init connectStateFn recvFn .newThread)) :
    next.client.transportState = .undefine := by
  have moved := step_client taken
  rcases step_into_init moved entered with here | ⟨same, -⟩ | ⟨env, before, rfl, here, flow⟩
  · have undefine := tracked.starting thread connectStateFn recvFn here
    rcases step_stores moved with same | ⟨other, env, rfl, stores⟩ | ⟨session, env, rfl⟩
    · exact same.trans undefine
    · cases tracked.serial thread other (by rw [here]; rfl) (Task.controls_of_storesUndefine stores)
      rw [here] at stores
      cases stores
    · exact absurd (running_of_step taken) (tracked.none_running here session)
  · cases same
  · cases flow
    rw [step_init here moved]
    rfl

-- The poll thread that Init has created stores nothing before its first step.
theorem Tracked.started (tracked : h.Tracked) {env : Env} {connectStateFn recvFn : Option Nat}
    (here : h.client.task thread = .reset (.init connectStateFn recvFn .newThread))
    (taken : h.step (.task thread env) = some next) :
    next.client.transportState = next.stored h.client.sessions ∧
      ∀ other, next.client.Running other → other = h.client.sessions := by
  have moved := step_client taken
  have undefine := tracked.starting thread connectStateFn recvFn here
  have fresh := tracked.unstarted h.client.sessions (Nat.le_refl _)
  have down : h.up h.client.sessions = false := by
    have begun := (tracked.phase h.client.sessions).begun
    rw [fresh] at begun
    exact begun (by simp)
  refine ⟨?_, ?_⟩
  · rw [stored_other taken (by simp), stored, fresh, down,
      (tracked.phase h.client.sessions).quiet down, step_init here moved]
    exact undefine
  · rintro other ⟨created, running⟩
    by_contra different
    rw [step_init here moved] at created running
    have below : other < h.client.sessions + 1 := created
    exact tracked.none_running here other ⟨by omega, running⟩

theorem Tracked.waits_step (tracked : h.Tracked) (taken : h.step action = some next)
    (waits : (next.client.task thread).waitsFor next.client.recvthread = some session) :
    next.client.transportState = next.stored session ∧
      ∀ other, next.client.Running other → other = session := by
  have moved := step_client taken
  rcases step_waitsFor tracked.serial moved waits with before | ⟨env, _, _, rfl, here, rfl⟩
  · obtain ⟨current, alone⟩ := tracked.waits thread session before
    obtain ⟨connectStateFn, recvFn, pc, here, waiting⟩ := Task.init_of_waitsFor before
    have controls : (h.client.task thread).controls = true := by
      rw [here]
      rfl
    refine ⟨?_, ?_⟩
    · by_cases own : ∃ env, action = .recvPoll session env
      · obtain ⟨env, rfl⟩ := own
        exact stored_own (tracked.phase session) current taken
      · rw [stored_other taken (not_exists.mp own), ← current]
        rcases step_stores moved with same | ⟨other, env, rfl, stores⟩ | ⟨other, env, rfl⟩
        · exact same
        · cases tracked.serial thread other controls (Task.controls_of_storesUndefine stores)
          rw [here] at stores
          cases pc with
          | setUndefine => cases waiting
          | _ => cases stores
        · cases alone other (running_of_step taken)
          exact absurd ⟨env, rfl⟩ own
    · rintro other ⟨created, running⟩
      apply alone other
      refine ⟨?_, fun finished => running (poll_finished taken finished)⟩
      rcases step_sessions moved with same | ⟨creator, env, _, _, rfl, creates, -⟩
      · rw [← same]
        exact created
      · cases tracked.serial thread creator controls (by rw [creates]; rfl)
        rw [here] at creates
        cases creates
        cases waiting
  · exact tracked.started here taken

theorem recordSample_other (other : (h.client.task thread).samples = false) :
    h.recordSample action thread = h.sample thread := by
  unfold recordSample
  split
  · next actor env =>
      split_ifs with samples
      · have different : thread ≠ actor := by
          rintro rfl
          rw [samples] at other
          cases other
        exact Function.update_of_ne different _ _
      · rfl
  · rfl

theorem Tracked.sample_explained (tracked : h.Tracked) {connectStateFn recvFn : Option Nat}
    (here : h.client.task thread = .reset (.init connectStateFn recvFn .testState))
    (stored : h.client.recvthread = some session) (ends : h.client.transportState ≠ .undefine) :
    h.Explained session { state := h.client.transportState, broken := h.broken } := by
  have current := (tracked.waits thread session (by rw [here]; exact stored)).1
  have seen : h.broken = (h.events session).any fun event => event ≠ .connected := by
    simp [broken, stored]
  rw [seen]
  refine ⟨?_, fun broken none => ?_⟩
  · rw [current] at ends ⊢
    simp only [InitHistory.stored] at ends ⊢
    by_cases finished : h.client.poll session = .finished
    · exact .inr (.inr finished)
    · rw [if_neg finished] at ends ⊢
      cases events : h.events session with
      | nil =>
          rw [events] at ends
          cases up : h.up session with
          | true => exact .inl rfl
          | false => simp [up] at ends
      | cons event rest => cases event <;> simp [EnumTransportState.connected]
  · simp [none] at broken

theorem Tracked.sampled_step (tracked : h.Tracked) (taken : h.step action = some next)
    {connectStateFn recvFn : Option Nat}
    (entered : next.client.task thread = .reset (.init connectStateFn recvFn .readResult))
    (stored : next.client.recvthread = some session) :
    next.Explained session (next.sample thread) := by
  have moved := step_client taken
  have waits : (h.client.task thread).waitsFor h.client.recvthread = some session ∨ _ :=
    step_waitsFor tracked.serial moved (by rw [entered]; exact stored)
  rcases step_into_init moved entered with here | ⟨same, -⟩ | ⟨env, before, rfl, here, flow⟩
  · rw [here] at waits
    rcases waits with before | ⟨_, _, _, _, other, -⟩
    · rw [(step_records taken).2.2, recordSample_other (by rw [here]; rfl)]
      exact (tracked.sampled thread _ _ session here before).step taken
    · cases other
  · cases same
  · cases flow with
    | sampled ends =>
        rw [here] at waits
        rcases waits with before | ⟨_, _, _, _, other, -⟩
        · have sample : next.sample thread =
              { state := h.client.transportState, broken := h.broken } := by
            simp [(step_records taken).2.2, recordSample, here, Task.samples]
          rw [sample]
          exact (tracked.sample_explained here before ends).step taken
        · cases other

theorem Tracked.step (tracked : h.Tracked) (one : OneController h.client action)
    (taken : h.step action = some next) : next.Tracked where
  serial := tracked.serial.step one (step_client taken)
  sound := sound_step tracked.sound tracked.serial.guardAlone (step_client taken)
  unstarted := tracked.unstarted.step (step_client taken)
  phase session := (tracked.phase session).step taken
  starting _ _ _ := tracked.starting_step taken
  waits _ _ := tracked.waits_step taken
  sampled _ _ _ _ := tracked.sampled_step taken

theorem readResult_step (env : Env) {connectStateFn recvFn : Option Nat}
    (here : h.client.task thread = .reset (.init connectStateFn recvFn .readResult))
    (safe : h.client.crashed = false) : ∃ next, h.step (.task thread env) = some next := by
  simp [InitHistory.step, ZmqClientBase.step, safe, here, taskStep, resetStep]

theorem readResult_value {env : Env} {connectStateFn recvFn : Option Nat}
    (here : h.client.task thread = .reset (.init connectStateFn recvFn .readResult))
    (taken : h.step (.task thread env) = some next) : next.client.task thread =
      .reset (.result (decide (EnumTransportState.undefine < h.client.transportState))) := by
  rw [step_init here (step_client taken), setTask_task, Function.update_self]
  rfl

theorem Tracked.timely (tracked : h.Tracked) (still : h.StillSampled action) :
    h.TimelyResult action := by
  rintro thread env connectStateFn recvFn session next value rfl here held taken returns
  rw [readResult_value here taken] at returns
  cases returns
  obtain ⟨finishes, breaks⟩ := still thread env connectStateFn recvFn session rfl here held
    (step_not_crashed (step_client taken))
  have explained := tracked.sampled thread connectStateFn recvFn session here held
  have current := (tracked.waits thread session (by rw [here]; exact held)).1
  have lost (fails : (h.sample thread).broken = true ∨ h.client.poll session = .finished) :
      h.stored session = .transportFailed := by
    by_cases finished : h.client.poll session = .finished
    · simp [stored, finished, finishes finished]
    · have broken := fails.resolve_right finished
      have events := explained.broken broken
      have last := breaks broken
      rw [stored, if_neg finished]
      cases here : h.events session with
      | nil => exact absurd here events
      | cons event rest =>
          rw [here] at last
          cases event with
          | connected => exact absurd rfl last
          | _ => rfl
  constructor
  · intro fails
    rw [current, lost fails]
    decide
  · intro value
    rw [current] at value ⊢
    have alive : ¬((h.sample thread).broken = true ∨ h.client.poll session = .finished) := by
      intro fails
      rw [lost fails] at value
      exact absurd value (by decide)
    push Not at alive
    refine ⟨explained.state.resolve_right (by simpa using alive), ?_⟩
    apply EnumTransportState.connected_of_undefine_lt (of_decide_eq_true value)
    intro ended
    exact alive.2 (finished_of_stored ended).1

theorem Tracked.still (tracked : h.Tracked) (timely : h.TimelyResult action) :
    h.StillSampled action := by
  rintro thread env connectStateFn recvFn session rfl here held safe
  obtain ⟨next, taken⟩ := readResult_step env here safe
  obtain ⟨lost, -⟩ := timely thread env connectStateFn recvFn session next _ rfl here held taken
    (readResult_value here taken)
  rw [(tracked.waits thread session (by rw [here]; exact held)).1] at lost
  have finishes (finished : h.client.poll session = .finished) : h.up session = false := by
    by_contra up
    have ended : h.stored session = .transportedPollFinish := by simp [stored, finished, up]
    have value := lost (.inr finished)
    rw [ended] at value
    cases value
  refine ⟨finishes, fun broken last => ?_⟩
  by_cases finished : h.client.poll session = .finished
  · rw [(tracked.phase session).quiet (finishes finished)] at last
    cases last
  · have up : h.stored session = .transported := by
      rw [stored, if_neg finished]
      cases events : h.events session with
      | nil => simp [events] at last
      | cons event rest =>
          rw [events, List.head?_cons, Option.some.injEq] at last
          rw [last]
    have value := lost (.inl broken)
    rw [up] at value
    cases value

theorem constructed_tracked (build : Build) (lastpong : UInt32) (bStopMonitor : Bool) :
    Tracked { client := constructed build lastpong bStopMonitor } where
  serial left right controls := by cases controls
  sound := constructed_sound build lastpong bStopMonitor
  unstarted _ _ := rfl
  phase session := ⟨fun _ => rfl, fun _ => rfl⟩
  starting thread connectStateFn recvFn here := by cases here
  waits thread session waits := by cases waits
  sampled thread connectStateFn recvFn session here := by cases here

theorem init_result_timely (build : Build) (lastpong : UInt32) (bStopMonitor : Bool)
    (actions : List Action)
    (one : Transition.Along ZmqClientBase.step OneController
      (constructed build lastpong bStopMonitor) actions) :
    Transition.Along step TimelyResult { client := constructed build lastpong bStopMonitor } actions ↔
      Transition.Along step StillSampled { client := constructed build lastpong bStopMonitor }
        actions := by
  have initial := constructed_tracked build lastpong bStopMonitor
  have layered : Transition.Along step (fun h action => OneController h.client action)
      { client := constructed build lastpong bStopMonitor } actions :=
    Transition.along_layer InitHistory.client (fun _ _ _ taken => step_client taken) one
  constructor
  · intro timely
    refine Transition.along_imp Tracked (fun h action next tracked allowed taken => ?_)
      (fun h action tracked allowed => tracked.still allowed.2) initial
      (Transition.along_and layered timely)
    exact tracked.step allowed.1 taken
  · intro still
    refine Transition.along_imp Tracked (fun h action next tracked allowed taken => ?_)
      (fun h action tracked allowed => tracked.timely allowed.2) initial
      (Transition.along_and layered still)
    exact tracked.step allowed.1 taken

def sampledCheck (h : InitHistory) : Action → Bool
  | .task thread _ =>
      match h.client.task thread with
      | .reset (.init _ _ .readResult) =>
          h.client.recvthread.all fun session =>
            (decide (h.client.poll session ≠ .finished) || !h.up session) &&
              (!(h.sample thread).broken || decide ((h.events session).head? ≠ some .connected))
      | _ => true
  | _ => true

theorem stillSampled_of_check (checked : h.sampledCheck action = true) : h.StillSampled action := by
  rintro thread env connectStateFn recvFn session rfl here held -
  simp only [sampledCheck, here, held, Option.all_some, Bool.and_eq_true, Bool.or_eq_true,
    decide_eq_true_eq, Bool.not_eq_true'] at checked
  refine ⟨fun finished => ?_, fun broken => ?_⟩
  · exact checked.1.resolve_left (not_not_intro finished)
  · exact checked.2.resolve_left (by simp [broken])

theorem init_result_timely_connected :
    (Transition.run ZmqClientBase.step (constructed .other 0 false) connectedSteps).isSome ∧
    Transition.Along step TimelyResult { client := constructed .other 0 false } connectedSteps := by
  have one : Transition.Along ZmqClientBase.step OneController (constructed .other 0 false)
      connectedSteps :=
    only_along (controllerCheck [.user 0]) (fun _ _ only _ checked => only.oneController checked)
      (constructed_only _ _ _ _) (by decide +kernel)
  refine ⟨by decide +kernel, (init_result_timely .other 0 false connectedSteps one).mpr ?_⟩
  exact Transition.along_of_accepts (fun _ => True) sampledCheck (fun _ _ _ _ _ _ => trivial)
    (fun _ _ _ checked => stillSampled_of_check checked) trivial (by decide +kernel)

-- The connection is closed and the poll thread ends before Init samples the state.
def closedSteps : List Action :=
  callSteps (.user 0) (.resetAddr "tcp://a:1" none none) 19 ++ pollSteps 0 14 ++
    [.recvPoll 0 { monitor := true }, .recvPoll 0 { event := some .closed }] ++ pollSteps 0 6 ++
    [.recvPoll 0 { event := some .stopped }] ++ pollSteps 0 2 ++ taskSteps (.user 0) 1

theorem closed_result_true : ∃ sampled,
    Transition.run step { client := constructed .other 0 false } closedSteps = some sampled ∧
    Transition.Along ZmqClientBase.step OneController (constructed .other 0 false) closedSteps ∧
    ¬sampled.TimelyResult (.task (.user 0) {}) := by
  have accepted : (Transition.run step { client := constructed .other 0 false } closedSteps).any
      (fun sampled =>
        decide (sampled.client.task (.user 0) = .reset (.init none none .readResult) ∧
          sampled.client.recvthread = some 0 ∧ (sampled.sample (.user 0)).broken = true) &&
        (sampled.step (.task (.user 0) {})).any fun returned =>
          decide (returned.client.task (.user 0) = .reset (.result true))) = true := by
    decide +kernel
  obtain ⟨sampled, run, checked⟩ := Transition.reached_of_check accepted
  simp only [Bool.and_eq_true, decide_eq_true_eq, Option.any_eq_true] at checked
  obtain ⟨⟨here, held, broken⟩, returned, taken, result⟩ := checked
  have one : Transition.Along ZmqClientBase.step OneController (constructed .other 0 false)
      closedSteps :=
    only_along (controllerCheck [.user 0]) (fun _ _ only _ checked => only.oneController checked)
      (constructed_only _ _ _ _) (by decide +kernel)
  refine ⟨sampled, run, one, fun timely => ?_⟩
  have value := (timely _ _ _ _ 0 returned true rfl here held taken result).lost (.inl broken)
  cases value

end InitHistory

end Zmqcpp
