import Zmqcpp.Client.Threads

set_option autoImplicit false

namespace Zmqcpp

namespace ZmqClientBase

variable {s next : ZmqClientBase} {action : Action}

/-- Stop stores UNDEFINE, or OnEventClosed or OnEventDisconnected stores TRANSPORT_FAILED. -/
def Finishing (s : ZmqClientBase) (action : Action) : Prop :=
  (∃ thread env after, action = .task thread env ∧
    s.task thread = .reset (.stop after .setUndefine)) ∨
  ∃ session env loop event, action = .recvPoll session env ∧
    s.poll session = .storeState loop event ∧ event ≠ .connected

-- A poll thread from number `first` on stores TRANSPORTING.
def Restarts (first : Nat) (s : ZmqClientBase) (action : Action) : Prop :=
  ∃ session env, action = .recvPoll session env ∧ first ≤ session ∧
    s.poll session = .setTransporting

structure Down (s : ZmqClientBase) : Prop where
  state : s.transportState < .transporting
  refused : ∀ thread env next, s.task thread = .send .testState →
    s.step (.task thread env) = some next → next.task thread = .send (.result false)

/-- The state stays below TRANSPORTING until a poll thread created from here on stores it. -/
def StaysDown (s : ZmqClientBase) (rest : List Action) : Prop :=
  ∀ reached, Transition.run step s rest = some reached →
    Transition.Along step (fun state action => ¬Restarts s.sessions state action) s rest →
      reached.Down

def FinishedStaysDown (start : ZmqClientBase) (actions : List Action) : Prop :=
  ∀ earlier action rest reached finished, actions = earlier ++ action :: rest →
    Transition.run step start earlier = some reached → Finishing reached action →
      reached.step action = some finished → finished.StaysDown rest

/-- OnEventConnected runs only in a session that is up, and a session is finished only once every
poll thread is past its set-up. -/
def EventsInSession (s : ZmqClientBase) (action : Action) : Prop :=
  (∀ session env loop, action = .recvPoll session env →
    s.poll session = .storeState loop .connected → ¬s.transportState < .transporting) ∧
  (Finishing s action → ∀ session, session < s.sessions → 3 < (s.poll session).stage)

structure Ended (first : Nat) (s : ZmqClientBase) : Prop where
  state : s.transportState < .transporting
  created : first ≤ s.sessions
  settled : ∀ session, session < first → 3 < (s.poll session).stage

theorem Ended.step {first : Nat} (ended : s.Ended first) (inSession : EventsInSession s action)
    (noRestart : ¬Restarts first s action) (taken : s.step action = some next) :
    next.Ended first := by
  refine ⟨?_, le_trans ended.created (step_sessions_le taken), ?_⟩
  · rcases step_transportState taken with same | low | ⟨session, env, rfl, created, stores⟩
    · rw [same]
      exact ended.state
    · exact low
    · rcases stores with sets | ⟨loop, connects⟩
      · by_cases earlier : session < first
        · have past := ended.settled session earlier
          rw [sets] at past
          simp [RecvPollPc.stage] at past
        · exact absurd ⟨session, env, rfl, not_lt.mp earlier, sets⟩ noRestart
      · exact absurd ended.state (inSession.1 session env loop rfl connects)
  · intro session earlier
    exact lt_of_lt_of_le (ended.settled session earlier) (step_stage session taken)

theorem finishing_state (finishes : Finishing s action) (taken : s.step action = some next) :
    next.transportState < .transporting ∧ next.sessions = s.sessions := by
  rcases finishes with ⟨thread, env, after, rfl, here⟩ | ⟨session, env, loop, event, rfl, here, other⟩
  · obtain ⟨stopped, rest, moved, rfl⟩ := step_stop here taken
    cases moved
    exact ⟨show EnumTransportState.undefine < .transporting by decide, rfl⟩
  · obtain ⟨polled, pc, -, moved, rfl⟩ := step_recvPoll taken
    simp only [here, recvPollStep, other, if_false] at moved
    cases moved
    exact ⟨show EnumTransportState.transportFailed < .transporting by decide, rfl⟩

theorem finishing_ended (inSession : EventsInSession s action) (finishes : Finishing s action)
    (taken : s.step action = some next) : next.Ended next.sessions := by
  obtain ⟨low, sessions⟩ := finishing_state finishes taken
  refine ⟨low, le_refl _, ?_⟩
  intro session created
  rw [sessions] at created
  have past := inSession.2 finishes session created
  exact lt_of_lt_of_le past (step_stage session taken)

theorem Ended.down {first : Nat} (ended : s.Ended first) : s.Down := by
  refine ⟨ended.state, ?_⟩
  intro thread env next here taken
  obtain ⟨sent, rest, moved, rfl⟩ := step_send here taken
  simp only [sendStep, ended.state, if_true] at moved
  cases moved
  simp

theorem finished_stays_down (build : Build) (lastpong : UInt32) (bStopMonitor : Bool)
    (actions : List Action)
    (inSession : Transition.Along step EventsInSession
      (constructed build lastpong bStopMonitor) actions) :
    (constructed build lastpong bStopMonitor).FinishedStaysDown actions := by
  rintro earlier action rest reached finished rfl run finishes taken final remaining noRestart
  have later := (Transition.along_append run inSession).2
  have ended := finishing_ended later.1 finishes taken
  have along := Transition.along_and (later.2 finished taken) noRestart
  have kept := Transition.run_invariant (Ended finished.sessions)
    (fun _ _ _ ended allowed taken => ended.step allowed.1 allowed.2 taken) ended along remaining
  exact kept.down

def allSettled (s : ZmqClientBase) : Bool :=
  (List.range s.sessions).all fun session => decide (3 < (s.poll session).stage)

def eventsCheck (s : ZmqClientBase) : Action → Bool
  | .task thread _ =>
      match s.task thread with
      | .reset (.stop _ .setUndefine) => s.allSettled
      | _ => true
  | .recvPoll session _ =>
      match s.poll session with
      | .storeState _ .connected => !decide (s.transportState < .transporting)
      | .storeState _ _ => s.allSettled
      | _ => true
  | _ => true

theorem eventsInSession_of_check (checked : s.eventsCheck action = true) :
    EventsInSession s action := by
  have settled_of (settled : s.allSettled = true) (session : Nat)
      (created : session < s.sessions) : 3 < (s.poll session).stage := by
    simp only [allSettled, List.all_eq_true, List.mem_range, decide_eq_true_eq] at settled
    exact settled session created
  refine ⟨?_, ?_⟩
  · intro session env loop same here low
    subst same
    simp [eventsCheck, here, low] at checked
  · rintro (⟨thread, env, after, rfl, here⟩ | ⟨session, env, loop, event, rfl, here, other⟩)
    · simp only [eventsCheck, here] at checked
      exact settled_of checked
    · cases event <;> simp only [eventsCheck, here] at checked
      · exact absurd rfl other
      all_goals exact settled_of checked

theorem finished_stays_down_reset :
    (Transition.run step (constructed .other 0 false)
      (connectedSteps ++ callSteps (.user 0) .reset 4 ++ pollSteps 0 1)).isSome ∧
    (constructed .other 0 false).FinishedStaysDown
      (connectedSteps ++ callSteps (.user 0) .reset 4 ++ pollSteps 0 1) := by
  refine ⟨by decide +kernel, finished_stays_down .other 0 false _ ?_⟩
  exact Transition.along_of_accepts (fun _ => True) eventsCheck (fun _ _ _ _ _ _ => trivial)
    (fun _ _ _ checked => eventsInSession_of_check checked) trivial (by decide +kernel)

-- The poll thread has seen the monitor readable when Stop stores UNDEFINE.
theorem connected_after_stop :
    ¬(constructed .other 0 false).FinishedStaysDown
      ((connectedSteps ++ [.recvPoll 0 { monitor := true }] ++ callSteps (.user 0) .reset 3) ++
        .task (.user 0) {} :: [.recvPoll 0 { event := some .connected }, .recvPoll 0 {}]) := by
  have accepted : (Transition.run step (constructed .other 0 false)
      (connectedSteps ++ [.recvPoll 0 { monitor := true }] ++ callSteps (.user 0) .reset 3)).any
        (fun reached =>
          decide (reached.task (.user 0) = .reset (.stop .finish .setUndefine)) &&
          (reached.step (.task (.user 0) {})).any fun finished =>
            decide (finished.sessions = 1) &&
            (Transition.run step finished
              [.recvPoll 0 { event := some .connected }, .recvPoll 0 {}]).any fun final =>
                !decide (final.transportState < .transporting)) = true := by
    decide +kernel
  obtain ⟨reached, run, accepted⟩ := Transition.reached_of_check accepted
  simp only [Bool.and_eq_true, decide_eq_true_eq, Option.any_eq_true] at accepted
  obtain ⟨stops, finished, taken, sessions, final, remaining, up⟩ := accepted
  intro stays
  have earlier (state : ZmqClientBase) (env : Env) :
      ¬Restarts finished.sessions state (.recvPoll 0 env) := by
    rintro ⟨session, other, same, later, -⟩
    cases same
    omega
  have down := stays _ _ _ reached finished rfl run (.inl ⟨_, _, _, rfl, stops⟩) taken final remaining
    ⟨earlier _ _, fun _ _ => ⟨earlier _ _, fun _ _ => trivial⟩⟩
  simp [down.state] at up

end ZmqClientBase

end Zmqcpp
