import Mathlib.Tactic
import Zmqcpp.Shared.Transition

set_option autoImplicit false

/-!
# ThreadGroupImpl

One thread outside the pool calls Start, Stop, Post and Dispatch; the threads of the pool are in
ThreadsRun. Only the thread outside uses m_bRunning, m_spIoServiceWork and m_threads.
-/

namespace Zmqcpp

inductive Creation
  | created
  | null
  | thrown
  deriving DecidableEq, Repr

-- From `waiting` on a thread of the pool is inside io_service::run.
inductive ThreadsRunPc
  | increment
  | callRun
  | waiting
  | executing (handler : Nat)
  | returned
  deriving DecidableEq, Repr

inductive StopCaller
  | user
  | start
  | destructor
  deriving DecidableEq, Repr

inductive GroupStartPc
  | testRunning
  | makeWork
  | create (i : Nat)
  | waitInit
  deriving DecidableEq, Repr

inductive GroupStopPc
  | testRunning
  | resetWork
  | stopService
  | join (i : Nat)
  | pop
  deriving DecidableEq, Repr

inductive GroupTask
  | idle
  | start (pc : GroupStartPc)
  | stop (caller : StopCaller) (pc : GroupStopPc)
  deriving DecidableEq, Repr

inductive GroupCall
  | start
  | stop
  | post (handler : Nat)
  | dispatch (handler : Nat)
  | destroy
  deriving DecidableEq, Repr

structure IoService where
  stopped : Bool := false
  queue : List Nat := []

structure ThreadGroupImpl where
  threadNumbers : Nat
  bRunning : Bool := false
  spIoServiceWork : Bool := false
  ioService : IoService := {}
  threads : List Nat := []
  initNumbers : Int := 0
  -- The threads ever created are numbered; `joined` are those Stop has joined.
  created : Nat := 0
  threadsRun : Nat → ThreadsRunPc := fun _ => .increment
  joined : List Nat := []
  -- The constructor begins with Start.
  task : GroupTask := .start .testRunning
  constructed : Bool := false
  destroyed : Bool := false
  crashed : Bool := false
  -- The calls so far, and whether a Start has returned true with no Stop called since.
  calls : List GroupCall := []
  started : Bool := false

inductive GroupAction
  | call (call : GroupCall)
  | task (creation : Creation)
  | pool (thread : Nat)
  deriving DecidableEq, Repr

def ThreadsRunPc.isExecuting : ThreadsRunPc → Bool
  | .executing _ => true
  | _ => false

namespace ThreadGroupImpl

/-- The work that io_service counts: the work object, the handlers queued and those executed. -/
def outstanding (s : ThreadGroupImpl) : Bool :=
  s.spIoServiceWork || !s.ioService.queue.isEmpty ||
    (List.range s.created).any fun thread => (s.threadsRun thread).isExecuting

-- The service stops by itself when its last work has finished.
def workFinished (s : ThreadGroupImpl) : ThreadGroupImpl :=
  if s.outstanding then s else { s with ioService := { s.ioService with stopped := true } }

def setThread (s : ThreadGroupImpl) (thread : Nat) (pc : ThreadsRunPc) : ThreadGroupImpl :=
  { s with threadsRun := Function.update s.threadsRun thread pc }

def post (s : ThreadGroupImpl) (handler : Nat) : ThreadGroupImpl :=
  { s with ioService := { s.ioService with queue := s.ioService.queue ++ [handler] } }

def endStart (s : ThreadGroupImpl) (result : Bool) : ThreadGroupImpl :=
  { s with task := .idle, constructed := true, started := s.started || result }

-- An exception leaves Start; from the constructor it leaves no object.
def throwStart (s : ThreadGroupImpl) : ThreadGroupImpl :=
  { s with task := .idle, destroyed := !s.constructed }

def endStop (s : ThreadGroupImpl) : StopCaller → ThreadGroupImpl
  | .user => { s with task := .idle }
  | .start => s.endStart false
  | .destructor => { s with task := .idle, destroyed := true }

def startStep (s : ThreadGroupImpl) (creation : Creation) : GroupStartPc → ThreadGroupImpl
  | .testRunning =>
      if s.bRunning then s.endStart true
      else { s with bRunning := true, task := .start .makeWork }
  | .makeWork => { s with spIoServiceWork := true, task := .start (.create 0) }
  | .create i =>
      if i < s.threadNumbers then
        match creation with
        | .created =>
            { s with
              threads := s.threads ++ [s.created]
              created := s.created + 1
              threadsRun := Function.update s.threadsRun s.created .increment
              task := .start (.create (i + 1)) }
        | .null => { s with task := .stop .start .testRunning }
        | .thrown => s.throwStart
      else { s with task := .start .waitInit }
  | .waitInit => if s.initNumbers = s.threadNumbers then s.endStart true else s

def stopStep (s : ThreadGroupImpl) (caller : StopCaller) : GroupStopPc → Option ThreadGroupImpl
  | .testRunning =>
      some (if s.bRunning then { s with bRunning := false, task := .stop caller .resetWork }
        else s.endStop caller)
  | .resetWork =>
      some ({ s with spIoServiceWork := false, task := .stop caller .stopService }).workFinished
  | .stopService =>
      some { s with
        ioService := { s.ioService with stopped := true }
        task := .stop caller (.join 0) }
  -- The loop runs to m_threadNumbers, whatever m_threads holds.
  | .join i =>
      if i < s.threadNumbers then
        match s.threads[i]? with
        | none => some { s with crashed := true }
        | some thread =>
            if s.threadsRun thread = .returned then
              some { s with
                joined := s.joined ++ [thread]
                initNumbers := s.initNumbers - 1
                task := .stop caller (.join (i + 1)) }
            else none
      else some { s with task := .stop caller .pop }
  | .pop =>
      some (if s.threads.isEmpty then s.endStop caller
        else { s with threads := s.threads.dropLast })

-- io_service::run returns at once on a service that is stopped or has no work.
def threadsRunStep (s : ThreadGroupImpl) (thread : Nat) : ThreadsRunPc → Option ThreadGroupImpl
  | .increment => some ({ s with initNumbers := s.initNumbers + 1 }.setThread thread .callRun)
  | .callRun =>
      some (if s.ioService.stopped || !s.outstanding then
          s.workFinished.setThread thread .returned
        else s.setThread thread .waiting)
  | .waiting =>
      if s.ioService.stopped then some (s.setThread thread .returned)
      else
        match s.ioService.queue with
        | [] => none
        | handler :: queue =>
            some ({ s with ioService := { s.ioService with queue } }.setThread thread
              (.executing handler))
  | .executing _ => some (s.setThread thread .waiting).workFinished
  | .returned => none

def callStep (s : ThreadGroupImpl) (call : GroupCall) : ThreadGroupImpl :=
  match call with
  | .start => { s with task := .start .testRunning, calls := s.calls ++ [call] }
  | .stop =>
      { s with task := .stop .user .testRunning, calls := s.calls ++ [call], started := false }
  -- From outside the pool dispatch posts.
  | .post handler | .dispatch handler => { s with calls := s.calls ++ [call] }.post handler
  | .destroy =>
      { s with task := .stop .destructor .testRunning, calls := s.calls ++ [call], started := false }

def step (s : ThreadGroupImpl) (action : GroupAction) : Option ThreadGroupImpl :=
  if s.crashed || s.destroyed then none
  else
    match action with
    | .call call => if s.task = .idle then some (s.callStep call) else none
    | .task creation =>
        match s.task with
        | .idle => none
        | .start pc => some (s.startStep creation pc)
        | .stop caller pc => s.stopStep caller pc
    | .pool thread =>
        if thread < s.created then s.threadsRunStep thread (s.threadsRun thread) else none

end ThreadGroupImpl

end Zmqcpp
