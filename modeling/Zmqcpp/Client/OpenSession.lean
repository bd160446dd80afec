import Zmqcpp.Client.FrontMap

set_option autoImplicit false

namespace Zmqcpp

-- The points of the loop of RecvPoll, and of the handlers of its events while the session is up.
def RecvPollPc.forwarding : RecvPollPc → Bool
  | .testRun | .poll | .backSocketRecv _ _ | .updateLastPong _ | .recviov _ | .recvCallback _
  | .inRecvFunc _ | .monitorRecv .poll | .connectCallback .poll _ | .inConnectStateFunc .poll =>
      true
  | .storeState .poll event => decide (event = .connected)
  | _ => false

-- The thread is in no call, or in Init past the start of the poll thread.
def Task.quiet : Task → Bool
  | .idle | .reset (.result _) | .reset (.init _ _ .testState) | .reset (.init _ _ .readResult) =>
      true
  | _ => false

namespace ZmqClientBase

variable {s next : ZmqClientBase} {session : Nat}

structure Up (session : Nat) (s : ZmqClientBase) : Prop where
  transportState : ¬s.transportState < .transporting
  bRun : s.bRun = true
  forwarding : (s.poll session).forwarding = true

structure Opened (session : Nat) (s : ZmqClientBase) : Prop where
  up : s.Up session
  quiet : ∀ thread, (s.task thread).quiet = true
  owned : ∀ thread socket, s.front thread = some socket → socket.owner = thread

theorem Up.same (up : s.Up session) (transportState : next.transportState = s.transportState)
    (bRun : next.bRun = s.bRun) (poll : next.poll = s.poll) : next.Up session :=
  ⟨by rw [transportState]; exact up.transportState, by rw [bRun]; exact up.bRun,
    by rw [poll]; exact up.forwarding⟩

theorem afterPoll_forwarding (back client monitor : Bool) :
    (afterPoll back client monitor).forwarding = true := by
  cases back <;> cases client <;> cases monitor <;> rfl

theorem afterBack_forwarding (client monitor : Bool) :
    (afterBack client monitor).forwarding = true := by
  cases client <;> cases monitor <;> rfl

theorem afterClient_forwarding (monitor : Bool) : (afterClient monitor).forwarding = true := by
  cases monitor <;> rfl

theorem recvPollStep_up {env : Env} {polled : ZmqClientBase} {pc : RecvPollPc}
    (up : s.Up session) (opened : env.event ≠ some .closed) (kept : env.event ≠ some .disconnected)
    (moved : s.recvPollStep session env (s.poll session) = some (polled, pc)) :
    ¬polled.transportState < .transporting ∧ polled.bRun = true ∧ pc.forwarding = true := by
  obtain ⟨state, run, forwarding⟩ := up
  cases here : s.poll session with
  | testRun =>
      simp only [here, recvPollStep, run, if_true, Option.some.injEq, Prod.mk.injEq] at moved
      obtain ⟨rfl, rfl⟩ := moved
      exact ⟨state, run, rfl⟩
  | poll =>
      rw [here] at moved
      cases moved
      exact ⟨state, run, afterPoll_forwarding _ _ _⟩
  | backSocketRecv client monitor =>
      rw [here] at moved
      cases moved
      exact ⟨state, run, afterBack_forwarding _ _⟩
  | updateLastPong monitor =>
      rw [here] at moved
      cases moved
      exact ⟨state, run, rfl⟩
  | recviov monitor =>
      rw [here] at moved
      cases moved
      refine ⟨state, run, ?_⟩
      split_ifs
      · rfl
      · exact afterClient_forwarding monitor
  | recvCallback monitor =>
      simp only [here, recvPollStep] at moved
      split at moved <;> cases moved
      · exact ⟨state, run, afterClient_forwarding monitor⟩
      · exact ⟨state, run, rfl⟩
  | inRecvFunc monitor =>
      simp only [here, recvPollStep, Option.ite_none_right_eq_some] at moved
      obtain ⟨-, moved⟩ := moved
      cases moved
      exact ⟨state, run, afterClient_forwarding monitor⟩
  | monitorRecv loop =>
      rw [here] at forwarding
      cases loop with
      | drain => cases forwarding
      | poll =>
          simp only [here, recvPollStep] at moved
          cases event : env.event with
          | none =>
              rw [event] at moved
              cases moved
              exact ⟨state, run, rfl⟩
          | some event' =>
              rw [event] at moved
              cases event' with
              | closed => exact absurd event opened
              | disconnected => exact absurd event kept
              | _ =>
                  cases moved
                  exact ⟨state, run, rfl⟩
  | storeState loop event =>
      rw [here] at forwarding
      cases loop with
      | drain => cases forwarding
      | poll =>
          have connected : event = .connected := by simpa [RecvPollPc.forwarding] using forwarding
          subst connected
          simp only [here, recvPollStep, if_true, Option.some.injEq, Prod.mk.injEq] at moved
          obtain ⟨rfl, rfl⟩ := moved
          have high : ¬EnumTransportState.transported < .transporting := by decide
          exact ⟨high, run, rfl⟩
  | connectCallback loop event =>
      rw [here] at forwarding
      cases loop with
      | drain => cases forwarding
      | poll =>
          simp only [here, recvPollStep] at moved
          split at moved <;> cases moved <;> exact ⟨state, run, rfl⟩
  | inConnectStateFunc loop =>
      rw [here] at forwarding
      cases loop with
      | drain => cases forwarding
      | poll =>
          simp only [here, recvPollStep, Option.ite_none_right_eq_some] at moved
          obtain ⟨-, moved⟩ := moved
          cases moved
          exact ⟨state, run, rfl⟩
  | _ =>
      rw [here] at forwarding
      cases forwarding

theorem Up.recvPoll {env : Env} (up : s.Up session) (opened : env.event ≠ some .closed)
    (kept : env.event ≠ some .disconnected)
    (taken : s.step (.recvPoll session env) = some next) : next.Up session := by
  obtain ⟨polled, pc, -, moved, rfl⟩ := step_recvPoll taken
  obtain ⟨state, run, forwarding⟩ := recvPollStep_up up opened kept moved
  exact ⟨state, run, by simpa using forwarding⟩

theorem step_quiet {thread : Tid} {env : Env} (quiet : (s.task thread).quiet = true)
    (taken : s.step (.task thread env) = some next) :
    FrontStep s next thread ∧ next.front thread = s.front thread ∧
      ∃ after, next.task = Function.update s.task thread after ∧ after.quiet = true := by
  cases here : s.task thread with
  | idle =>
      have running := step_not_crashed taken
      simp [step, running, here, taskStep] at taken
  | reset pc =>
      rw [here] at quiet
      cases pc with
      | result value =>
          rw [step_result here taken]
          exact ⟨⟨fun _ _ => rfl, fun _ known => known, .inl rfl, rfl, rfl, rfl⟩, rfl, .idle, rfl, rfl⟩
      | init connectStateFn recvFn pc =>
          have moved := step_init here taken
          cases pc with
          | testState =>
              rw [moved]
              refine ⟨⟨fun _ _ => rfl, fun _ known => known, .inl rfl, rfl, rfl, rfl⟩, rfl, _, rfl, ?_⟩
              by_cases undefine : s.transportState = .undefine <;>
                simp [initStep, undefine, ResetPc.afterInit, Task.quiet]
          | readResult =>
              rw [moved]
              exact ⟨⟨fun _ _ => rfl, fun _ known => known, .inl rfl, rfl, rfl, rfl⟩, rfl, _, rfl, rfl⟩
          | _ => cases quiet
      | _ => cases quiet
  | _ =>
      rw [here] at quiet
      cases quiet

end ZmqClientBase

end Zmqcpp
