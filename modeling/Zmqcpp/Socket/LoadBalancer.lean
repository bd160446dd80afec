import Zmqcpp.Shared.Multipart

set_option autoImplicit false

namespace Zmqcpp

open Multipart

/-- What befalls a zmq_send: the current pipe may terminate before it, and at the start of a
message the frame is accepted or the call fails, by EAGAIN or another error. -/
structure Answer where
  terminated : Bool := false
  accepted : Bool := true
  deriving DecidableEq, Repr

structure LoadBalancer (Frame : Type) where
  more : Bool := false
  dropping : Bool := false
  outbox : Outbox Frame := {}
  deriving DecidableEq, Repr

namespace LoadBalancer

variable {Frame : Type}

-- The pipe rolls back the frames of a message that is not complete.
def pipeTerminated (lb : LoadBalancer Frame) : LoadBalancer Frame :=
  if lb.more then { lb with dropping := true, outbox := { lb.outbox with frames := [] } } else lb

def write (lb : LoadBalancer Frame) (frame : Frame) (more : Bool) : LoadBalancer Frame :=
  { lb with more := more, outbox := lb.outbox.put frame more }

def sendpipe (lb : LoadBalancer Frame) (frame : Frame) (more accepted : Bool) :
    LoadBalancer Frame × Bool :=
  if lb.dropping then ({ lb with more := more, dropping := more }, true)
  -- A frame after the first is written to the pipe of the first.
  else if lb.more || accepted then (lb.write frame more, true)
  else (lb, false)

def send (lb : LoadBalancer Frame) (frame : Frame) (more : Bool) (answer : Answer) :
    LoadBalancer Frame × Bool :=
  (if answer.terminated then lb.pipeTerminated else lb).sendpipe frame more answer.accepted

end LoadBalancer

end Zmqcpp
