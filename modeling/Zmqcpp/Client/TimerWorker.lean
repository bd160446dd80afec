set_option autoImplicit false

namespace Zmqcpp

/-- `posted` counts the OnTimeout handlers queued in the io_service of the one-thread group. -/
structure TimerWorker where
  bRunning : Bool := false
  interrupted : Bool := false
  posted : Nat := 0
  deriving DecidableEq, Repr

namespace TimerWorker

inductive StartPc
  | testRunning
  | setRunning
  | resetInterrupter
  | post
  deriving DecidableEq, Repr

inductive StopPc
  | clearRunning
  | interrupt
  deriving DecidableEq, Repr

-- Where the group's thread is: outside every handler, or in OnTimeout.
inductive OnTimeoutPc (Work : Type)
  | idle
  | testBeforeWait
  | wait
  | testAfterWait
  | workRoutine (work : Work)
  | post
  deriving DecidableEq, Repr

def startStep (timer : TimerWorker) : StartPc → TimerWorker × Option StartPc
  | .testRunning => (timer, if timer.bRunning then none else some .setRunning)
  | .setRunning => ({ timer with bRunning := true }, some .resetInterrupter)
  | .resetInterrupter => ({ timer with interrupted := false }, some .post)
  -- m_threadGroup->Start() changes nothing: the group has run since its constructor.
  | .post => ({ timer with posted := timer.posted + 1 }, none)

def stopStep (timer : TimerWorker) : StopPc → TimerWorker × Option StopPc
  | .clearRunning => ({ timer with bRunning := false }, some .interrupt)
  | .interrupt => ({ timer with interrupted := true }, none)

/-- The steps of OnTimeout around the work routine, which starts at `entry`. -/
def onTimeoutStep {Work : Type} (entry : Work) (timer : TimerWorker) :
    OnTimeoutPc Work → Option (TimerWorker × OnTimeoutPc Work)
  | .idle =>
      if timer.posted = 0 then none
      else some ({ timer with posted := timer.posted - 1 }, .testBeforeWait)
  | .testBeforeWait => some (timer, if timer.bRunning then .wait else .idle)
  -- select returns at the timeout or, once interrupted, at once.
  | .wait => some (timer, .testAfterWait)
  | .testAfterWait => some (timer, if timer.bRunning then .workRoutine entry else .idle)
  | .workRoutine _ => none
  | .post => some ({ timer with posted := timer.posted + 1 }, .idle)

theorem onTimeoutStep_bRunning {Work : Type} {entry : Work} {timer moved : TimerWorker}
    {pc after : OnTimeoutPc Work} (taken : timer.onTimeoutStep entry pc = some (moved, after)) :
    moved.bRunning = timer.bRunning := by
  cases pc with
  | idle =>
      simp only [onTimeoutStep] at taken
      split at taken
      · cases taken
      · cases taken
        rfl
  | workRoutine work => cases taken
  | _ =>
      cases taken
      rfl

-- Once the flag is cleared, OnTimeout does not begin the work routine.
theorem onTimeoutStep_stopped {Work : Type} {entry : Work} {timer moved : TimerWorker}
    {pc after : OnTimeoutPc Work} (stopped : timer.bRunning = false)
    (taken : timer.onTimeoutStep entry pc = some (moved, after)) (work : Work) :
    after ≠ .workRoutine work := by
  cases pc with
  | idle =>
      simp only [onTimeoutStep] at taken
      split at taken
      · cases taken
      · cases taken
        simp
  | workRoutine work => cases taken
  | _ =>
      cases taken
      simp [stopped]

theorem onTimeoutStep_workRoutine {Work : Type} {entry work : Work} {timer moved : TimerWorker}
    {pc : OnTimeoutPc Work} (taken : timer.onTimeoutStep entry pc = some (moved, .workRoutine work)) :
    work = entry ∧ timer.bRunning = true := by
  cases pc with
  | idle =>
      simp only [onTimeoutStep] at taken
      split at taken <;> cases taken
  | testBeforeWait =>
      cases running : timer.bRunning <;> simp [onTimeoutStep, running] at taken
  | testAfterWait =>
      cases running : timer.bRunning with
      | false => simp [onTimeoutStep, running] at taken
      | true =>
          simp only [onTimeoutStep, running, if_true, Option.some.injEq, Prod.mk.injEq,
            OnTimeoutPc.workRoutine.injEq] at taken
          exact ⟨taken.2.symm, rfl⟩
  | _ => cases taken

end TimerWorker

end Zmqcpp
