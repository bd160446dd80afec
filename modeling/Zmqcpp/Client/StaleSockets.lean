import Zmqcpp.Client.FrontSockets
import Zmqcpp.Client.PollThread

set_option autoImplicit false

namespace Zmqcpp

def Call.controls : Call → Bool
  | .reset | .resetAddr _ _ _ | .resetIp _ _ _ _ => true
  | _ => false

def Task.controls : Task → Bool
  | .reset _ => true
  | _ => false

def InitPc.beforeThread : InitPc → Bool
  | .storeThread _ | .testState | .readResult => false
  | _ => true

def StopPc.afterDelete : StopPc → Bool
  | .testJoinable | .testThreadId | .join | .joining _ | .clearIdentity => true
  | _ => false

-- Reset(addr, ...) is between its DeleteFrontSockets and the creation of its poll thread.
def Task.between : Task → Bool
  | .reset (.stop (.start _ _ _) pc) => pc.afterDelete
  | .reset (.setAddress _ _ _) => true
  | .reset (.init _ _ pc) => pc.beforeThread
  | _ => false

theorem Task.controls_of_hold {task : Task} (inside : task.hold ≠ .outside) :
    task.controls = true := by
  unfold Task.hold at inside
  split at inside
  · rfl
  · exact absurd rfl inside

namespace ZmqClientBase

variable {s next : ZmqClientBase} {action : Action}

def FrontsFresh (s : ZmqClientBase) : Prop :=
  s.frontMutex = none → ∀ session, session < s.sessions → (s.poll session).stage = 4 →
    ∃ addr, s.backAddress session = some addr ∧ ∀ owner socket,
      (owner, some socket) ∈ s.frontsockets → s.frontAddress socket = some addr

def OneController (s : ZmqClientBase) (action : Action) : Prop :=
  (∀ thread call, action = .call thread call → call.controls = true →
    ∀ other, (s.task other).controls = false) ∧
  (∀ env connectStateFunc recvFunc, action = .onTimeout env →
    s.onTimeout = .workRoutine (.copyAddress connectStateFunc recvFunc) →
      ∀ other, (s.task other).controls = false)

def Rebinding (s : ZmqClientBase) : Prop :=
  (∃ thread, (s.task thread).between = true) ∨
    ∃ session, session < s.sessions ∧ (s.poll session).stage = 0

def ConnectSettled (s : ZmqClientBase) (action : Action) : Prop :=
  ∀ thread env todo socket, action = .task thread env →
    s.task thread = .send (.setup (.connect :: todo) socket) → ¬s.Rebinding

def Serial (s : ZmqClientBase) : Prop :=
  ∀ left right, (s.task left).controls = true → (s.task right).controls = true → left = right

def Begins (s : ZmqClientBase) (action : Action) (thread : Tid) : Prop :=
  (∃ call, action = .call thread call ∧ call.controls = true) ∨
    thread = .timer ∧ ∃ env connectStateFunc recvFunc, action = .onTimeout env ∧
      s.onTimeout = .workRoutine (.copyAddress connectStateFunc recvFunc)

theorem step_controls {thread : Tid} (taken : s.step action = some next)
    (controls : (next.task thread).controls = true) :
    (s.task thread).controls = true ∨ s.Begins action thread := by
  cases step_task thread taken with
  | same same =>
      rw [same] at controls
      exact .inl controls
  | call call called idle task =>
      rw [task] at controls
      exact .inr (.inl ⟨call, called, by cases call <;> first | rfl | cases controls⟩)
  | flow env own flow =>
      left
      generalize s.task thread = task at flow
      generalize next.task thread = after at flow controls
      cases flow with
      | send pc rest flow => cases rest <;> cases controls
      | startTimer pc rest => cases rest <;> cases controls
      | setAutoConnect | result | setHeartbeatInterval | setHeartbeatDelay => cases controls
      | _ => rfl
  | autoConnect env connectStateFunc recvFunc timer ticked here task =>
      exact .inr (.inr ⟨timer, env, connectStateFunc, recvFunc, ticked, here⟩)

theorem OneController.idle {thread : Tid} (one : OneController s action)
    (begins : s.Begins action thread) (other : Tid) : (s.task other).controls = false := by
  rcases begins with ⟨call, called, controls⟩ | ⟨-, env, connectStateFunc, recvFunc, ticked, here⟩
  · exact one.1 thread call called controls other
  · exact one.2 env connectStateFunc recvFunc ticked here other

theorem Begins.unique {left right : Tid} (leftBegins : s.Begins action left)
    (rightBegins : s.Begins action right) : left = right := by
  rcases leftBegins with ⟨call, rfl, -⟩ | ⟨rfl, env, -, -, rfl, -⟩
  · rcases rightBegins with ⟨also, same, -⟩ | ⟨-, env, -, -, same, -⟩
    · cases same
      rfl
    · cases same
  · rcases rightBegins with ⟨also, same, -⟩ | ⟨rfl, -⟩
    · cases same
    · rfl

theorem Serial.step (serial : s.Serial) (one : OneController s action)
    (taken : s.step action = some next) : next.Serial := by
  intro left right leftControls rightControls
  rcases step_controls taken leftControls with leftBefore | leftBegins
  · rcases step_controls taken rightControls with rightBefore | rightBegins
    · exact serial left right leftBefore rightBefore
    · have idle := one.idle rightBegins left
      rw [leftBefore] at idle
      cases idle
  · rcases step_controls taken rightControls with rightBefore | rightBegins
    · have idle := one.idle leftBegins right
      rw [rightBefore] at idle
      cases idle
    · exact leftBegins.unique rightBegins

theorem Serial.guardAlone (serial : s.Serial) : GuardAlone s action := by
  intro thread env connectStateFn recvFn same here _ other
  by_contra inside
  have controls := Task.controls_of_hold inside
  have own := serial other thread controls (by rw [here]; rfl)
  rw [own, here] at inside
  exact inside rfl

theorem afterInit_between {env : Env} {connectStateFn recvFn : Option Nat} {pc : InitPc}
    (between : (Task.reset (.afterInit connectStateFn recvFn
      (s.initStep env connectStateFn recvFn pc).2)).between = true) : pc.beforeThread = true := by
  cases pc with
  | storeThread => cases between
  | testState =>
      simp only [initStep] at between
      split_ifs at between <;> cases between
  | readResult => cases between
  | _ => rfl

-- The stretch between deletion and creation is entered with an empty map.
theorem step_between {thread : Tid} (taken : s.step action = some next)
    (between : (next.task thread).between = true) :
    (s.task thread).between = true ∨
      (s.task thread).deleting = true ∧ s.frontsockets = [] := by
  cases step_task thread taken with
  | same same =>
      rw [same] at between
      exact .inl between
  | call call called idle task =>
      rw [task] at between
      cases call <;> cases between
  | flow env own flow =>
      generalize s.task thread = task at flow
      generalize next.task thread = after at flow between
      cases flow with
      | stop after pc rest flow =>
          cases after with
          | finish => cases rest <;> cases between
          | start addr connectStateFn recvFn =>
              cases flow with
              | empty entries => exact .inr ⟨rfl, entries⟩
              | joinable | notJoinable | samePollThread | otherThread | join | joined
              | clearIdentity => exact .inl rfl
              | _ => cases between
      | init env connectStateFn recvFn pc => exact .inl (afterInit_between between)
      | setAddress => exact .inl rfl
      | stopTimer pc rest => cases rest <;> cases between
      | send pc rest flow => cases rest <;> cases between
      | startTimer pc rest => cases rest <;> cases between
      | _ => cases between
  | autoConnect env connectStateFunc recvFunc timer ticked here task =>
      rw [task] at between
      cases between

theorem step_rebinding (taken : s.step action = some next) (rebinding : next.Rebinding) :
    s.Rebinding ∨ s.frontsockets = [] ∧ ∃ thread, (s.task thread).deleting = true := by
  rcases rebinding with ⟨thread, between⟩ | ⟨session, created, early⟩
  · rcases step_between taken between with before | ⟨deleting, empty⟩
    · exact .inl (.inl ⟨thread, before⟩)
    · exact .inr ⟨empty, thread, deleting⟩
  · left
    have earlier : (s.poll session).stage = 0 := by
      have grows := step_stage session taken
      omega
    rcases step_sessions taken with same | ⟨thread, env, connectStateFn, recvFn, -, here, -⟩
    · rw [same] at created
      exact .inr ⟨session, created, earlier⟩
    · exact .inl ⟨thread, by rw [here]; rfl⟩

theorem deleting_empty {thread : Tid} (taken : s.step action = some next)
    (before : (s.task thread).deleting = true) (after : (next.task thread).deleting = false) :
    s.frontsockets = [] := by
  cases step_task thread taken with
  | same same =>
      rw [same, before] at after
      cases after
  | call call called idle task =>
      rw [idle] at before
      cases before
  | flow env own flow =>
      generalize s.task thread = task at flow before
      generalize next.task thread = moved at flow after
      cases flow with
      | stop start pc rest flow =>
          cases flow with
          | empty entries => exact entries
          | null | head | disconnected | held | unheld | closed => cases after
          | _ => cases before
      | _ => cases before
  | autoConnect env connectStateFunc recvFunc timer ticked here task idle =>
      rw [idle] at before
      cases before

structure Fronts (s : ZmqClientBase) : Prop where
  serial : s.Serial
  sound : s.slot.Sound
  locked : s.Locked
  stored : ∀ owner socket, (owner, some socket) ∈ s.frontsockets → socket.serial < s.serial
  unstored : ∀ thread todo socket, s.connecting thread = some (todo, socket) →
    socket.serial < s.serial ∧ ∀ owner, (owner, some socket) ∉ s.frontsockets
  emptied : s.Rebinding → ∀ owner socket, (owner, some socket) ∉ s.frontsockets
  connected : ∀ thread todo socket, s.connecting thread = some (todo, socket) →
    FrontSetup.connect ∉ todo → s.frontAddress socket = some s.inprocAddress ∧ ¬s.Rebinding
  current : (∀ thread, (s.task thread).deleting = false) → ∀ owner socket,
    (owner, some socket) ∈ s.frontsockets → s.frontAddress socket = some s.inprocAddress
  unstarted : ∀ session, s.sessions ≤ session → (s.poll session).stage = 0
  bound : ∀ session, session < s.sessions → 2 ≤ (s.poll session).stage →
    (s.poll session).stage ≤ 4 → s.backAddress session = some s.inprocAddress

theorem Fronts.fresh (fronts : s.Fronts) : s.FrontsFresh := by
  intro free session created looping
  refine ⟨s.inprocAddress, fronts.bound session created (by omega) (by omega), ?_⟩
  apply fronts.current
  intro thread
  by_contra deleting
  simp only [Bool.not_eq_false] at deleting
  have held := fronts.locked thread (Task.locks_of_deleting deleting)
  rw [free] at held
  cases held

theorem Fronts.not_deleting {thread other : Tid} {setup : List FrontSetup × FrontSocket}
    (fronts : s.Fronts) (connecting : s.connecting thread = some setup) :
    (s.task other).deleting = false := by
  by_contra deleting
  simp only [Bool.not_eq_false] at deleting
  have same := fronts.locked.unique (locks_of_connecting connecting)
    (Task.locks_of_deleting deleting)
  rw [← same] at deleting
  unfold ZmqClientBase.connecting at connecting
  split at connecting
  · next here =>
      rw [here] at deleting
      cases deleting
  · next here =>
      rw [here] at deleting
      cases deleting
  · cases connecting

theorem Fronts.still_settled {thread : Tid} {setup : List FrontSetup × FrontSocket}
    (fronts : s.Fronts) (connecting : s.connecting thread = some setup) (settled : ¬s.Rebinding)
    (taken : s.step action = some next) :
    next.inprocAddress = s.inprocAddress ∧ ¬next.Rebinding := by
  refine ⟨?_, ?_⟩
  · rcases step_inprocAddress taken with same | ⟨session, env, -, created, stores⟩
    · exact same
    · refine absurd (.inr ⟨session, created, ?_⟩) settled
      rw [stores]
      rfl
  · intro rebinding
    rcases step_rebinding taken rebinding with before | ⟨-, other, deleting⟩
    · exact settled before
    · rw [fronts.not_deleting connecting] at deleting
      cases deleting

theorem recvPollStep_bound {polled : ZmqClientBase} {session : Nat} {env : Env}
    {pc after : RecvPollPc} (taken : s.recvPollStep session env pc = some (polled, after))
    (low : 2 ≤ after.stage) (high : after.stage ≤ 4) :
    2 ≤ pc.stage ∧ polled.backAddress = s.backAddress ∨
      1 ≤ pc.stage ∧ polled.backAddress session = some s.inprocAddress := by
  cases pc with
  | bindBack =>
      simp only [recvPollStep] at taken
      split_ifs at taken <;> cases taken
      · right
        simp [RecvPollPc.stage]
      · simp [RecvPollPc.stage] at high
  | closeSockets =>
      cases taken
      simp [RecvPollPc.stage] at high
  | connectClient =>
      simp only [recvPollStep] at taken
      split_ifs at taken <;> cases taken
      · simp [RecvPollPc.stage] at low
      · simp [RecvPollPc.stage] at high
  | clearStopMonitor | setThreadId | makeIdentity | setInprocAddress =>
      cases taken
      simp [RecvPollPc.stage] at low
  | newClientSocket | newBackSocket | setMonitorSocket | setClientOptions | setBackOptions =>
      cases taken
      split_ifs at low high <;> simp [RecvPollPc.stage] at low high
  | monitorRecv loop | storeState loop | clearRun loop | connectCallback loop
  | inConnectStateFunc loop =>
      left
      refine ⟨?_, (recvPollStep_frame taken).backAddress (by simp) (by simp)⟩
      cases loop <;> simp [RecvPollPc.stage, MonitorLoop.stage]
  | _ =>
      left
      exact ⟨by simp [RecvPollPc.stage], (recvPollStep_frame taken).backAddress (by simp) (by simp)⟩

theorem connecting_of_stores {owner : Tid} {socket : FrontSocket}
    (stores : s.task owner = .send (.setup [] socket)) : s.connecting owner = some ([], socket) := by
  simp [connecting, stores]

theorem Fronts.stored_step (fronts : s.Fronts) (taken : s.step action = some next) (owner : Tid)
    (socket : FrontSocket) (member : (owner, some socket) ∈ next.frontsockets) :
    socket.serial < next.serial := by
  have grows := step_serial taken
  rcases step_entry taken member with before | ⟨env, own, stores⟩
  · have old := fronts.stored owner socket before
    omega
  · have old := (fronts.unstored owner [] socket (connecting_of_stores stores)).1
    omega

theorem Fronts.absent_step (fronts : s.Fronts) (taken : s.step action = some next) {thread : Tid}
    {socket : FrontSocket} (locks : (s.task thread).locks = true)
    (absent : ∀ owner, (owner, some socket) ∉ s.frontsockets)
    (elsewhere : ∀ env, action = .task thread env → s.task thread ≠ .send (.setup [] socket))
    (owner : Tid) : (owner, some socket) ∉ next.frontsockets := by
  intro member
  rcases step_entry taken member with inside | ⟨env, own, stores⟩
  · exact absent owner inside
  · have same := fronts.locked.unique locks (locks_of_connecting (connecting_of_stores stores))
    subst same
    exact elsewhere env own stores

theorem Fronts.unstored_step (fronts : s.Fronts) (taken : s.step action = some next) (thread : Tid)
    (todo : List FrontSetup) (socket : FrontSocket)
    (connecting : next.connecting thread = some (todo, socket)) :
    socket.serial < next.serial ∧ ∀ owner, (owner, some socket) ∉ next.frontsockets := by
  have grows := step_serial taken
  rcases step_connecting taken connecting with ⟨before, moving⟩ | ⟨env, first, own, here⟩ |
    ⟨-, lookup, rfl, serial⟩
  · obtain ⟨old, absent⟩ := fronts.unstored thread todo socket before
    exact ⟨by omega, fronts.absent_step taken (locks_of_connecting before) absent moving⟩
  · have before : s.connecting thread = some (first :: todo, socket) := by
      simp [ZmqClientBase.connecting, here]
    obtain ⟨old, absent⟩ := fronts.unstored thread (first :: todo) socket before
    refine ⟨by omega, fronts.absent_step taken (locks_of_connecting before) absent ?_⟩
    simp [here]
  · have absent (owner : Tid) : (owner, some ⟨thread, s.serial⟩) ∉ s.frontsockets :=
      fun inside => absurd (fronts.stored owner _ inside) (lt_irrefl _)
    have locks : (s.task thread).locks = true := by
      rw [lookup]
      rfl
    refine ⟨by simp [serial], fronts.absent_step taken locks absent ?_⟩
    simp [lookup]

theorem Fronts.emptied_step (fronts : s.Fronts) (taken : s.step action = some next)
    (rebinding : next.Rebinding) (owner : Tid) (socket : FrontSocket) :
    (owner, some socket) ∉ next.frontsockets := by
  intro member
  rcases step_entry taken member with before | ⟨env, own, stores⟩
  · rcases step_rebinding taken rebinding with still | ⟨empty, -⟩
    · exact fronts.emptied still owner socket before
    · simp [empty] at before
  · have connecting := connecting_of_stores stores
    have settled := (fronts.connected owner [] socket connecting (by simp)).2
    exact (fronts.still_settled connecting settled taken).2 rebinding

theorem Fronts.connected_step (fronts : s.Fronts) (settled : ConnectSettled s action)
    (taken : s.step action = some next) (thread : Tid) (todo : List FrontSetup)
    (socket : FrontSocket) (connecting : next.connecting thread = some (todo, socket))
    (done : FrontSetup.connect ∉ todo) :
    next.frontAddress socket = some next.inprocAddress ∧ ¬next.Rebinding := by
  have kept {setup : List FrontSetup} (before : s.connecting thread = some (setup, socket))
      (past : FrontSetup.connect ∉ setup) :
      next.frontAddress socket = some next.inprocAddress ∧ ¬next.Rebinding := by
    obtain ⟨address, still⟩ := fronts.connected thread setup socket before past
    obtain ⟨same, later⟩ := fronts.still_settled before still taken
    refine ⟨?_, later⟩
    rw [same]
    rcases step_frontAddress socket taken with unchanged | ⟨other, env, rest, -, here, -⟩ |
      ⟨other, deleting⟩
    · rw [unchanged]
      exact address
    · have also : s.connecting other = some (.connect :: rest, socket) := by
        simp [ZmqClientBase.connecting, here]
      have same := fronts.locked.unique (locks_of_connecting before) (locks_of_connecting also)
      subst same
      rw [before] at also
      cases also
      simp at past
    · rw [fronts.not_deleting before] at deleting
      cases deleting
  rcases step_connecting taken connecting with ⟨before, -⟩ | ⟨env, first, own, here⟩ | ⟨rfl, -⟩
  · exact kept before done
  · have before : s.connecting thread = some (first :: todo, socket) := by
      simp [ZmqClientBase.connecting, here]
    by_cases connects : first = .connect
    · subst connects own
      have still := settled thread env todo socket rfl here
      obtain ⟨same, later⟩ := fronts.still_settled before still taken
      refine ⟨?_, later⟩
      obtain ⟨sent, rest, moved, rfl⟩ := step_send here taken
      cases moved
      simp [setTask]
    · exact kept before (by simp [done, Ne.symm connects])
  · simp [frontSetup] at done

theorem Fronts.current_step (fronts : s.Fronts) (taken : s.step action = some next)
    (idle : ∀ thread, (next.task thread).deleting = false) (owner : Tid) (socket : FrontSocket)
    (member : (owner, some socket) ∈ next.frontsockets) :
    next.frontAddress socket = some next.inprocAddress := by
  rcases step_entry taken member with before | ⟨env, own, stores⟩
  · have quiet (thread : Tid) : (s.task thread).deleting = false := by
      by_contra deleting
      simp only [Bool.not_eq_false] at deleting
      simp [deleting_empty taken deleting (idle thread)] at before
    have address := fronts.current quiet owner socket before
    have same : next.inprocAddress = s.inprocAddress := by
      rcases step_inprocAddress taken with same | ⟨session, env, -, created, stores⟩
      · exact same
      · have rebinding : s.Rebinding := by
          refine .inr ⟨session, created, ?_⟩
          rw [stores]
          rfl
        exact absurd before (fronts.emptied rebinding owner socket)
    rw [same]
    rcases step_frontAddress socket taken with unchanged | ⟨other, env, rest, -, here, -⟩ |
      ⟨other, deleting⟩
    · rw [unchanged]
      exact address
    · have connecting : s.connecting other = some (.connect :: rest, socket) := by
        simp [connecting, here]
      exact absurd before ((fronts.unstored other _ socket connecting).2 owner)
    · rw [quiet other] at deleting
      cases deleting
  · have connecting := connecting_of_stores stores
    obtain ⟨address, still⟩ := fronts.connected owner [] socket connecting (by simp)
    rw [(fronts.still_settled connecting still taken).1]
    subst own
    obtain ⟨sent, rest, moved, rfl⟩ := step_send stores taken
    cases moved
    exact address

theorem Fronts.unstarted_step (fronts : s.Fronts) (taken : s.step action = some next)
    (session : Nat) (later : next.sessions ≤ session) : (next.poll session).stage = 0 := by
  have grows := step_sessions_le taken
  rcases step_poll session taken with same | ⟨_, _, _, _, created, -⟩
  · rw [same]
    exact fronts.unstarted session (by omega)
  · omega

-- The address a running poll thread has bound outlives the steps of the others.
theorem Fronts.inprocAddress_kept (fronts : s.Fronts) (taken : s.step action = some next)
    {session : Nat} (created : session < s.sessions) (low : 1 ≤ (s.poll session).stage)
    (high : (s.poll session).stage ≤ 4) : next.inprocAddress = s.inprocAddress := by
  rcases step_inprocAddress taken with same | ⟨other, env, -, also, stores⟩
  · exact same
  · have running : s.Running session := by
      refine ⟨created, fun finished => ?_⟩
      simp [finished, RecvPollPc.stage] at high
    have storing : s.Running other := ⟨also, by simp [stores]⟩
    rw [← slot_running] at running storing
    have same := fronts.sound.unique running storing
    simp [same, stores, RecvPollPc.stage] at low

theorem Fronts.bound_step (fronts : s.Fronts) (taken : s.step action = some next) (session : Nat)
    (low : 2 ≤ (next.poll session).stage) (high : (next.poll session).stage ≤ 4) :
    next.backAddress session = some next.inprocAddress := by
  have grows := step_stage session taken
  by_cases own : ∃ env, action = .recvPoll session env
  · obtain ⟨env, rfl⟩ := own
    obtain ⟨polled, pc, created, moved, rfl⟩ := step_recvPoll taken
    have after : ((polled.setPoll session pc).poll session).stage = pc.stage := by simp
    rw [after] at low high grows
    rcases recvPollStep_bound moved low high with ⟨inside, kept⟩ | ⟨inside, binds⟩
    · have same := fronts.inprocAddress_kept taken created (by omega) (by omega)
      have bound := fronts.bound session created inside (by omega)
      rw [same, ← bound, ← kept]
      rfl
    · have same := fronts.inprocAddress_kept taken created inside (by omega)
      rw [same]
      exact binds
  · have same : next.poll session = s.poll session := by
      rcases step_poll session taken with same | ⟨env, _, _, mine, -⟩
      · exact same
      · exact absurd ⟨env, mine⟩ own
    have kept : next.backAddress session = s.backAddress session := by
      rcases step_backAddress session taken with kept | mine
      · exact kept
      · exact absurd mine own
    rw [same] at low high
    have created : session < s.sessions := by
      by_contra later
      have start := fronts.unstarted session (by omega)
      omega
    rw [kept, fronts.inprocAddress_kept taken created (by omega) high]
    exact fronts.bound session created low high

theorem Fronts.step (fronts : s.Fronts) (one : OneController s action)
    (settled : ConnectSettled s action) (taken : s.step action = some next) : next.Fronts where
  serial := fronts.serial.step one taken
  sound := sound_step fronts.sound fronts.serial.guardAlone taken
  locked := fronts.locked.step taken
  stored := fronts.stored_step taken
  unstored := fronts.unstored_step taken
  emptied := fronts.emptied_step taken
  connected := fronts.connected_step settled taken
  current := fronts.current_step taken
  unstarted := fronts.unstarted_step taken
  bound session _ := fronts.bound_step taken session

theorem constructed_fronts (build : Build) (lastpong : UInt32) (bStopMonitor : Bool) :
    (constructed build lastpong bStopMonitor).Fronts where
  serial left right controls := by cases controls
  sound := constructed_sound build lastpong bStopMonitor
  locked := constructed_locked build lastpong bStopMonitor
  stored owner socket member := by cases member
  unstored thread todo socket connecting := by cases connecting
  emptied _ owner socket member := by cases member
  connected thread todo socket connecting := by cases connecting
  current _ owner socket member := by cases member
  unstarted _ _ := rfl
  bound session created := absurd created (Nat.not_lt_zero session)

theorem fronts_fresh (build : Build) (lastpong : UInt32) (bStopMonitor : Bool)
    (actions : List Action) (reached : ZmqClientBase)
    (one : Transition.Along step OneController (constructed build lastpong bStopMonitor) actions)
    (settled : Transition.Along step ConnectSettled (constructed build lastpong bStopMonitor) actions)
    (run : Transition.run step (constructed build lastpong bStopMonitor) actions = some reached) :
    reached.FrontsFresh := by
  have initial := constructed_fronts build lastpong bStopMonitor
  have both := Transition.along_and one settled
  have fronts := Transition.run_invariant Fronts
    (fun _ _ _ fronts allowed taken => fronts.step allowed.1 allowed.2 taken) initial both run
  exact fronts.fresh

def controllerCheck (threads : List Tid) (s : ZmqClientBase) : Action → Bool
  | .call _ call => !call.controls || threads.all fun other => !(s.task other).controls
  | .onTimeout _ => threads.all fun other => !(s.task other).controls
  | _ => true

theorem Only.oneController {threads : List Tid} (only : s.Only threads)
    (checked : controllerCheck threads s action = true) : OneController s action := by
  have others (idle : ∀ other ∈ threads, (s.task other).controls = false) (other : Tid) :
      (s.task other).controls = false := by
    by_cases listed : other ∈ threads
    · exact idle other listed
    · rw [only other listed]
      rfl
  refine ⟨?_, ?_⟩
  · intro thread call called controls
    subst called
    apply others
    simpa [controllerCheck, controls] using checked
  · intro env connectStateFunc recvFunc ticked _
    subst ticked
    apply others
    simpa [controllerCheck] using checked

def connectCheck (threads : List Tid) (s : ZmqClientBase) : Action → Bool
  | .task thread _ =>
      match s.task thread with
      | .send (.setup (.connect :: _) _) =>
          (threads.all fun other => !(s.task other).between) &&
            (List.range s.sessions).all fun session => decide ((s.poll session).stage ≠ 0)
      | _ => true
  | _ => true

theorem Only.connectSettled {threads : List Tid} (only : s.Only threads)
    (checked : connectCheck threads s action = true) : ConnectSettled s action := by
  intro thread env todo socket same here rebinding
  subst same
  simp only [connectCheck, here, Bool.and_eq_true, List.all_eq_true, List.mem_range,
    decide_eq_true_eq] at checked
  rcases rebinding with ⟨other, between⟩ | ⟨session, created, early⟩
  · by_cases listed : other ∈ threads
    · simpa [between] using checked.1 other listed
    · rw [only other listed] at between
      cases between
  · exact checked.2 session created early

-- Thread 1 has sent in the first session and the second session has begun.
def secondSession (sending : List Action) : List Action :=
  connectedSteps ++ sending ++ pollSteps 0 4 ++ [.recvPoll 0 { event := some .stopped }] ++
    pollSteps 0 2 ++ taskSteps (.user 0) 17 ++ List.replicate 14 (.recvPoll 1 { uuid := 1 })

def sendsBefore : List Action :=
  callSteps (.user 1) .sendData 19 ++ callSteps (.user 0) (.resetAddr "tcp://b:1" none none) 7

-- Thread 1 passes the state check before Reset("tcp://b:1", ...) empties the map.
def sendsAcross : List Action :=
  callSteps (.user 1) .sendData 1 ++ callSteps (.user 0) (.resetAddr "tcp://b:1" none none) 4 ++
    taskSteps (.user 1) 18

theorem fronts_fresh_second : ∃ reached,
    Transition.run step (constructed .other 0 false)
      (secondSession sendsBefore ++ callSteps (.user 1) .sendData 19) = some reached ∧
    reached.FrontsFresh ∧ reached.frontMutex = none ∧ (reached.poll 1).stage = 4 ∧
    reached.backAddress 1 = some ⟨some 1⟩ ∧
    reached.frontsockets = [(.user 1, some ⟨.user 1, 1⟩)] := by
  have accepted : (Transition.run step (constructed .other 0 false)
      (secondSession sendsBefore ++ callSteps (.user 1) .sendData 19)).any
        (fun state => decide (state.frontMutex = none ∧ (state.poll 1).stage = 4 ∧
          state.backAddress 1 = some ⟨some 1⟩ ∧
          state.frontsockets = [(.user 1, some ⟨.user 1, 1⟩)])) = true := by
    decide +kernel
  obtain ⟨reached, run, checked⟩ := Transition.reached_of_check accepted
  have one : Transition.Along step OneController (constructed .other 0 false)
      (secondSession sendsBefore ++ callSteps (.user 1) .sendData 19) :=
    only_along (controllerCheck [.user 0, .user 1])
      (fun _ _ only _ checked => only.oneController checked) (constructed_only _ _ _ _)
      (by decide +kernel)
  have settled : Transition.Along step ConnectSettled (constructed .other 0 false)
      (secondSession sendsBefore ++ callSteps (.user 1) .sendData 19) :=
    only_along (connectCheck [.user 0, .user 1])
      (fun _ _ only _ checked => only.connectSettled checked) (constructed_only _ _ _ _)
      (by decide +kernel)
  exact ⟨reached, run, fronts_fresh .other 0 false _ reached one settled run, by simpa using checked⟩

-- The socket made for the first session is in the map of the second.
theorem front_kept : ∃ reached,
    Transition.run step (constructed .other 0 false) (secondSession sendsAcross) = some reached ∧
    Transition.Along step OneController (constructed .other 0 false) (secondSession sendsAcross) ∧
    ¬reached.FrontsFresh := by
  have accepted : (Transition.run step (constructed .other 0 false)
      (secondSession sendsAcross)).any
        (fun state => decide (state.frontMutex = none ∧ 1 < state.sessions ∧
          (state.poll 1).stage = 4 ∧ state.backAddress 1 = some ⟨some 1⟩ ∧
          (.user 1, some ⟨.user 1, 0⟩) ∈ state.frontsockets ∧
          state.frontAddress ⟨.user 1, 0⟩ = some ⟨some 0⟩)) = true := by
    decide +kernel
  obtain ⟨reached, run, checked⟩ := Transition.reached_of_check accepted
  simp only [decide_eq_true_eq] at checked
  obtain ⟨free, created, looping, binding, member, connected⟩ := checked
  have one : Transition.Along step OneController (constructed .other 0 false)
      (secondSession sendsAcross) :=
    only_along (controllerCheck [.user 0, .user 1])
      (fun _ _ only _ checked => only.oneController checked) (constructed_only _ _ _ _)
      (by decide +kernel)
  refine ⟨reached, run, one, fun fresh => ?_⟩
  obtain ⟨addr, bound, all⟩ := fresh free 1 created looping
  have front := all _ _ member
  rw [binding] at bound
  rw [connected, ← bound] at front
  exact absurd front (by decide)

end ZmqClientBase

end Zmqcpp
