import Zmqcpp.Pipe.Termination
import Zmqcpp.Shared.CreditChannel

set_option autoImplicit false

/-!
# What an end of a pipe pair writes and the other reads

As long as neither end hiccups, each direction of a pair is a channel with credit.
-/

namespace Zmqcpp

open Transition

namespace PipeItem

variable {Frame : Type}

def isDelimiter : PipeItem Frame → Bool
  | .frame _ _ _ => false
  | .delimiter => true

theorem counted_of_isDelimiter (item : PipeItem Frame) (ends : item.isDelimiter = true) :
    item.counted = false := by
  cases item with
  | frame => cases ends
  | delimiter => rfl

end PipeItem

def PipeState.writes : PipeState → Bool
  | .active => true
  | _ => false

def PipeState.reads : PipeState → Bool
  | .active | .waitingForDelimiter => true
  | _ => false

def PipeTodo.wakes : PipeTodo → Bool
  | .activateRead => true
  | _ => false

-- An end that has the delimiter to write has stopped to write anything else.
def Pipe.Delimits (p : Pipe) : Prop := p.todo = .delimiter → p.state.writes = false

namespace PipePair

variable {Frame : Type}

section Channels

def acks (commands : List PipeCommand) : List Nat :=
  commands.filterMap fun
    | .activateWrite msgsRead => some msgsRead
    | _ => none

def content (s : PipePair Frame) (pipe : Nat) : Upipe (PipeItem Frame) := (s.heap pipe).getD {}

def outward (s : PipePair Frame) (written read : List (PipeItem Frame)) :
    CreditChannel (PipeItem Frame) where
  hwm := s.this.hwm
  lwm := s.peer.lwm
  written := written
  read := read
  flushed := (s.content s.peer.inpipe).flushed
  complete := (s.content s.peer.inpipe).complete
  asleep := (s.content s.peer.inpipe).asleep
  waking := s.this.todo.wakes
  wakes := s.sent.count .activateRead
  readerUp := s.peer.inActive
  writerUp := s.this.outActive && s.this.state.writes
  writtenCount := s.this.msgsWritten
  readCount := s.peer.msgsRead
  credit := s.this.peersMsgsRead
  acks := acks s.inbox
  closed := !s.this.state.writes
  done := !s.peer.state.reads
  gone := !s.peer.alive

def inward (s : PipePair Frame) (written read : List (PipeItem Frame)) :
    CreditChannel (PipeItem Frame) := s.swap.outward written read

abbrev Leads (c next : CreditChannel (PipeItem Frame)) : Prop :=
  Reaches (CreditChannel.step PipeItem.counted PipeItem.isDelimiter) c next

theorem leads_of_eq {c next : CreditChannel (PipeItem Frame)} (same : next = c) : Leads c next := by
  rw [same]
  exact Reaches.refl c

def Smooth (s : PipePair Frame) : Prop := hiccups s.sent = [] ∧ hiccups s.inbox = []

/-- A step of `this` end is one of its outward channel, where it writes, and one of its inward
channel, where it reads. -/
structure Moves (s next : PipePair Frame) (wrote took : List (PipeItem Frame)) : Prop where
  peer : next.peer = s.peer
  inpipe : next.this.inpipe = s.this.inpipe
  hwm : next.this.hwm = s.this.hwm
  lwm : next.this.lwm = s.this.lwm
  smooth : s.Smooth → next.Smooth
  delimits : s.this.Delimits → next.this.Delimits
  outward : ∀ written read, Leads (s.outward written read) (next.outward (written ++ wrote) read)
  inward : ∀ written read, Leads (s.inward written read) (next.inward written (read ++ took))

theorem Moves.trans {s middle next : PipePair Frame} {wrote later took after : List (PipeItem Frame)}
    (first : Moves s middle wrote took) (second : Moves middle next later after) :
    Moves s next (wrote ++ later) (took ++ after) where
  peer := second.peer.trans first.peer
  inpipe := second.inpipe.trans first.inpipe
  hwm := second.hwm.trans first.hwm
  lwm := second.lwm.trans first.lwm
  smooth := fun kept => second.smooth (first.smooth kept)
  delimits := fun kept => second.delimits (first.delimits kept)
  outward := by
    intro written read
    rw [← List.append_assoc]
    exact (first.outward written read).trans (second.outward _ read)
  inward := by
    intro written read
    rw [← List.append_assoc]
    exact (first.inward written read).trans (second.inward written _)

-- A change that neither channel shows.
theorem Moves.quiet {s next : PipePair Frame} (peer : next.peer = s.peer)
    (inpipe : next.this.inpipe = s.this.inpipe) (hwm : next.this.hwm = s.this.hwm)
    (lwm : next.this.lwm = s.this.lwm) (smooth : s.Smooth → next.Smooth)
    (delimits : s.this.Delimits → next.this.Delimits)
    (outward : ∀ written read, next.outward written read = s.outward written read)
    (inward : ∀ written read, next.inward written read = s.inward written read) :
    Moves s next [] [] where
  peer := peer
  inpipe := inpipe
  hwm := hwm
  lwm := lwm
  smooth := smooth
  delimits := delimits
  outward := by
    intro written read
    rw [List.append_nil, outward]
    exact Reaches.refl _
  inward := by
    intro written read
    rw [List.append_nil, inward]
    exact Reaches.refl _

theorem Moves.refl (s : PipePair Frame) : Moves s s [] [] :=
  Moves.quiet rfl rfl rfl rfl id id (fun _ _ => rfl) fun _ _ => rfl

theorem moves_send (s : PipePair Frame) {command : PipeCommand}
    (asks : command = .pipeTerm ∨ command = .pipeTermAck) : Moves s (s.send command) [] [] := by
  refine Moves.quiet rfl rfl rfl rfl ?_ id ?_ ?_
  · rcases asks with rfl | rfl <;> simp [Smooth, send, hiccups]
  · intro written read
    rcases asks with rfl | rfl <;> simp [outward, send, content]
  · intro written read
    rcases asks with rfl | rfl <;> simp [inward, outward, send, swap, content, acks]

theorem moves_state (s : PipePair Frame) (state : PipeState) (outpipe : Option Nat)
    (writes : state.writes = true → s.this.state.writes = true)
    (reads : state.reads = true → s.this.state.reads = true) :
    Moves s { s with this := { s.this with state := state, outpipe := outpipe } } [] [] where
  peer := rfl
  inpipe := rfl
  hwm := rfl
  lwm := rfl
  smooth := id
  delimits := by
    intro kept todo
    cases goes_on : state.writes with
    | false => rfl
    | true => cases (writes goes_on).symm.trans (kept todo)
  outward := by
    intro written read
    rw [List.append_nil]
    cases goes_on : state.writes with
    | true =>
        have same : PipePair.outward
            { s with this := { s.this with state := state, outpipe := outpipe } } written read =
            s.outward written read := by
          simp only [PipePair.outward, goes_on, writes goes_on]
          rfl
        rw [same]
        exact Reaches.refl _
    | false =>
        apply Reaches.single .close
        simp [CreditChannel.step, PipePair.outward, content, goes_on]
  inward := by
    intro written read
    rw [List.append_nil]
    cases goes_on : state.reads with
    | true =>
        have same : PipePair.inward
            { s with this := { s.this with state := state, outpipe := outpipe } } written read =
            s.inward written read := by
          simp only [PipePair.inward, PipePair.outward, swap, goes_on, reads goes_on]
          rfl
        rw [same]
        exact Reaches.refl _
    | false =>
        apply Reaches.single .stop
        simp [CreditChannel.step, PipePair.inward, PipePair.outward, content, swap, goes_on]

theorem moves_sendAck (s : PipePair Frame) (state : PipeState) (stops : state.writes = false)
    (reads : state.reads = false) : Moves s (s.sendAck state) [] [] := by
  have given_up := moves_state s state none (by simp [stops]) (by simp [reads])
  exact given_up.trans (moves_send _ (.inr rfl))

theorem moves_sendTerm (s : PipePair Frame) : Moves s s.sendTerm [] [] := by
  have asked := moves_state s .termReqSent1 s.this.outpipe (by simp [PipeState.writes])
    (by simp [PipeState.reads])
  exact asked.trans (moves_send _ (.inl rfl))

theorem outward_stored (s : PipePair Frame) (stored : Upipe (PipeItem Frame))
    (written read : List (PipeItem Frame)) :
    (s.store s.peer.inpipe stored).outward written read =
      { s.outward written read with
        flushed := stored.flushed
        complete := stored.complete
        asleep := stored.asleep } := by
  simp [outward, content, store]

theorem inward_stored (s : PipePair Frame) (stored : Upipe (PipeItem Frame))
    (written read : List (PipeItem Frame)) :
    (s.store s.this.inpipe stored).inward written read =
      { s.inward written read with
        flushed := stored.flushed
        complete := stored.complete
        asleep := stored.asleep } := outward_stored s.swap stored written read

theorem outward_store (s : PipePair Frame) {pipe : Nat} (apart : pipe ≠ s.peer.inpipe)
    (stored : Upipe (PipeItem Frame)) (written read : List (PipeItem Frame)) :
    (s.store pipe stored).outward written read = s.outward written read := by
  simp [outward, content, store, Function.update_of_ne apart.symm]

theorem inward_store (s : PipePair Frame) {pipe : Nat} (apart : pipe ≠ s.this.inpipe)
    (stored : Upipe (PipeItem Frame)) (written read : List (PipeItem Frame)) :
    (s.store pipe stored).inward written read = s.inward written read :=
  outward_store s.swap apart stored written read

-- What is not complete can be changed unseen.
theorem moves_store (s : PipePair Frame) {pipe : Nat} (stored : Upipe (PipeItem Frame))
    (flushed : stored.flushed = (s.content pipe).flushed)
    (complete : stored.complete = (s.content pipe).complete)
    (asleep : stored.asleep = (s.content pipe).asleep) : Moves s (s.store pipe stored) [] [] := by
  refine Moves.quiet rfl rfl rfl rfl id id ?_ ?_
  · intro written read
    by_cases here : pipe = s.peer.inpipe
    · subst here
      rw [outward_stored, flushed, complete, asleep]
      rfl
    · exact outward_store s here stored written read
  · intro written read
    by_cases here : pipe = s.this.inpipe
    · subst here
      rw [inward_stored, flushed, complete, asleep]
      rfl
    · exact inward_store s here stored written read

end Channels

section Straight

structure Straight (s : PipePair Frame) : Prop where
  sound : s.Sound
  smooth : s.Smooth
  apart : s.this.inpipe ≠ s.peer.inpipe

theorem Straight.swap {s : PipePair Frame} (straight : Straight s) : Straight s.swap :=
  ⟨straight.sound.swap, straight.smooth.symm, straight.apart.symm⟩

theorem Straight.writes {s : PipePair Frame} (straight : Straight s) {pipe : Nat}
    (writes : s.this.outpipe = some pipe) :
    pipe = s.peer.inpipe ∧ s.heap pipe = some (s.content pipe) := by
  constructor
  · have last := straight.sound.memory.last pipe writes
    rw [straight.smooth.2] at last
    simpa using last
  · obtain ⟨stored, there⟩ := straight.sound.outpipe_there writes
    rw [content, there]
    rfl

theorem Straight.reads {s : PipePair Frame} (straight : Straight s) (alive : s.this.alive = true) :
    s.heap s.this.inpipe = some (s.content s.this.inpipe) := by
  obtain ⟨stored, there⟩ := straight.sound.inpipe_there alive
  rw [content, there]
  rfl

theorem moves_rollback {s : PipePair Frame} (straight : Straight s) : Moves s s.rollback [] [] := by
  unfold rollback
  split
  next => exact Moves.refl s
  next pipe writes =>
    obtain ⟨-, there⟩ := straight.writes writes
    have whole := straight.sound.memory.whole pipe _ there
    simp only [there, whole, if_true]
    exact moves_store s _ rfl rfl rfl

-- What a flush leaves: the reader that it has found asleep is yet to be woken.
def flushed (s : PipePair Frame) (stored : Upipe (PipeItem Frame)) (asleep : Bool) :
    PipePair Frame :=
  { s.store s.peer.inpipe stored with
    this := { s.this with todo := if asleep then .activateRead else .nothing } }

theorem flush_eq {s : PipePair Frame} (straight : Straight s) (idle : s.this.todo = .nothing)
    {pipe : Nat} (writes : s.this.outpipe = some pipe)
    (present : (s.content pipe).complete ≠ []) :
    s.flush = s.flushed (s.content pipe).flush.1 (s.content pipe).asleep := by
  obtain ⟨here, there⟩ := straight.writes writes
  have open_ : s.this.state ≠ .termAckSent := by
    intro acked
    exact straight.sound.open_ writes (.inr (.inl acked))
  have woken : (s.content pipe).flush.2 = !(s.content pipe).asleep := by
    rw [Upipe.flush, if_neg present]
  subst here
  rw [flush, if_neg open_, writes]
  simp only [there, woken, flushed]
  cases asleep : (s.content s.peer.inpipe).asleep with
  | true => rfl
  | false =>
      simp only [Bool.not_false, if_true, Bool.false_eq_true, if_false, ← idle]
      rfl

theorem delimits_flushed (s : PipePair Frame) (stored : Upipe (PipeItem Frame)) (asleep : Bool) :
    (s.flushed stored asleep).this.Delimits := by
  intro todo
  cases asleep <;> cases todo

theorem outward_flushed (s : PipePair Frame) (stored : Upipe (PipeItem Frame)) (asleep : Bool)
    (written read : List (PipeItem Frame)) :
    (s.flushed stored asleep).outward written read =
      { s.outward written read with
        flushed := stored.flushed
        complete := stored.complete
        asleep := stored.asleep
        waking := asleep } := by
  cases asleep <;> simp [flushed, outward, content, store, PipeTodo.wakes]

theorem inward_flushed {s : PipePair Frame} (apart : s.this.inpipe ≠ s.peer.inpipe)
    (stored : Upipe (PipeItem Frame)) (asleep : Bool) (written read : List (PipeItem Frame)) :
    (s.flushed stored asleep).inward written read = s.inward written read := by
  simp [flushed, inward, outward, swap, content, store, Function.update_of_ne apart]

theorem moves_flush {s : PipePair Frame} (straight : Straight s) (idle : s.this.todo = .nothing) :
    Moves s s.flush [] [] := by
  cases writes : s.this.outpipe with
  | none =>
      have same : s.flush = s := by
        unfold flush
        simp [writes]
      rw [same]
      exact Moves.refl s
  | some pipe =>
      by_cases empty : (s.content pipe).complete = []
      · unfold flush
        split
        next => exact Moves.refl s
        next =>
          simp only [writes, (straight.writes writes).2, Upipe.flush, empty, if_true]
          exact moves_store s _ rfl rfl rfl
      · rw [flush_eq straight idle writes empty]
        obtain ⟨here, -⟩ := straight.writes writes
        subst here
        refine ⟨rfl, rfl, rfl, rfl, id, fun _ => delimits_flushed s _ _, ?_, ?_⟩
        · intro written read
          apply Reaches.single .flush
          rw [outward_flushed]
          simp [CreditChannel.step, CreditChannel.flush, outward, Upipe.flush, empty, idle,
            PipeTodo.wakes]
        · intro written read
          rw [inward_flushed straight.apart, List.append_nil]
          exact Reaches.refl _

def pending (s : PipePair Frame) : List (PipeItem Frame) :=
  match s.this.outpipe with
  | none => []
  | some pipe => (s.content pipe).incomplete

/-- What a step of `this` end writes: a message counts as written with its last frame. -/
def wrote (s : PipePair Frame) : Action Frame → List (PipeItem Frame)
  | .write body more identity =>
      if s.checkWrite.2 && !more then s.pending ++ [.frame body more identity] else []
  | .go => if s.this.todo = .delimiter then [.delimiter] else []
  | _ => []

def took (s : PipePair Frame) : Action Frame → List (PipeItem Frame)
  | .read => if s.this.reads then (s.content s.this.inpipe).read.2.toList else []
  | .checkRead =>
      match (s.content s.this.inpipe).flushed with
      | .delimiter :: _ => if s.this.reads then [.delimiter] else []
      | _ => []
  | _ => []

structure Fits (p : Pipe) : Prop where
  small : p.hwm < UInt64.size
  known : (p.peersMsgsRead : Int) ≤ p.msgsWritten
  bounded : 0 < p.hwm → p.msgsWritten ≤ p.peersMsgsRead + p.hwm

theorem Fits.full_iff {p : Pipe} (fits : Fits p) :
    p.full = (decide (0 < p.hwm) && decide (p.msgsWritten = p.peersMsgsRead + p.hwm)) := by
  have small := fits.small
  have known := fits.known
  rw [Pipe.full]
  by_cases limited : 0 < p.hwm
  · have bounded := fits.bounded limited
    have within : (p.msgsWritten - p.peersMsgsRead) % (UInt64.size : Int) =
        p.msgsWritten - p.peersMsgsRead := Int.emod_eq_of_lt (by omega) (by omega)
    rw [within]
    congr 2
    exact propext ⟨fun full => by omega, fun full => by omega⟩
  · simp [limited]

theorem outward_full {s : PipePair Frame} (fits : Fits s.this) (written read : List (PipeItem Frame)) :
    (s.outward written read).full = s.this.full := by
  rw [fits.full_iff]
  rfl

theorem moves_checkWrite {s : PipePair Frame} (fits : Fits s.this) :
    Moves s s.checkWrite.1 [] [] := by
  unfold checkWrite
  split
  next => exact Moves.refl s
  next writable =>
    split
    next full =>
      refine ⟨rfl, rfl, rfl, rfl, id, id, ?_, ?_⟩
      · intro written read
        apply Reaches.single .block
        have active : s.this.state = .active := by
          by_contra other
          exact writable (by simp [other])
        simp only [CreditChannel.step, outward_full fits, full]
        simp [outward, active, PipeState.writes, content]
      · intro written read
        rw [List.append_nil]
        exact Reaches.refl _
    next => exact Moves.refl s

theorem checkWrite_writable {s : PipePair Frame} (writable : s.checkWrite.2 = true) :
    s.this.outActive = true ∧ s.this.state = .active ∧ s.this.full = false := by
  unfold checkWrite at writable
  split at writable
  next => cases writable
  next open_ =>
    split at writable
    next => cases writable
    next room =>
      simp only [Bool.or_eq_true, Bool.not_eq_true', decide_eq_true_eq, not_or, not_not,
        Bool.not_eq_false] at open_
      exact ⟨open_.1, open_.2, by simpa using room⟩

theorem countP_message {frames : List (PipeItem Frame)} (whole : frames.all PipeItem.more = true)
    (body : Frame) (identity : Bool) :
    (frames ++ [PipeItem.frame body false identity]).countP PipeItem.counted = if identity then 0 else 1 := by
  have none_counted : frames.countP PipeItem.counted = 0 := by
    rw [List.countP_eq_zero]
    intro frame member
    have goes_on := List.all_eq_true.mp whole frame member
    cases frame with
    | frame body more identity => simp_all [PipeItem.more, PipeItem.counted]
    | delimiter => cases goes_on
  rw [List.countP_append, none_counted, List.countP_singleton]
  cases identity <;> rfl

theorem plain_message {frames : List (PipeItem Frame)} (whole : frames.all PipeItem.more = true)
    (body : Frame) (identity : Bool) :
    (frames ++ [PipeItem.frame body false identity]).any PipeItem.isDelimiter = false := by
  rw [List.any_append, Bool.or_eq_false_iff]
  refine ⟨?_, rfl⟩
  rw [List.any_eq_false]
  intro frame member
  have goes_on := List.all_eq_true.mp whole frame member
  cases frame with
  | frame => exact Bool.false_ne_true
  | delimiter => cases goes_on

theorem moves_write {s : PipePair Frame} (straight : Straight s) (alive : s.this.alive = true)
    (fits : Fits s.this) (body : Frame) (more identity : Bool) :
    Moves s (s.write body more identity) (s.wrote (.write body more identity)) [] := by
  unfold write wrote
  split
  next writable =>
    obtain ⟨up, active, room⟩ := checkWrite_writable writable
    have open_ : ¬s.this.sentAck := by simp [Pipe.sentAck, alive, active]
    obtain ⟨pipe, writes⟩ := Option.ne_none_iff_exists'.mp fun none =>
      open_ (straight.sound.this.released.mp none)
    obtain ⟨here, there⟩ := straight.writes writes
    subst here
    have whole := straight.sound.memory.whole _ _ there
    simp only [onPipe, writes, there, pending]
    cases more with
    | true =>
        simp only [Bool.not_true, Bool.false_and, Bool.and_false, Bool.false_eq_true, if_false]
        exact moves_store s _ rfl rfl rfl
    | false =>
        simp only [writable, Bool.not_false, Bool.true_and, Bool.and_true, if_true]
        refine ⟨?_, ?_, ?_, ?_, ?_, ?_, ?_, ?_⟩
        · split <;> rfl
        · split <;> rfl
        · split <;> rfl
        · split <;> rfl
        · split <;> exact id
        · split <;> exact id
        · intro written read
          apply Reaches.single (CreditChannel.Action.put
            ((s.content s.peer.inpipe).incomplete ++ [.frame body false identity]))
          have writer : s.this.state.writes = true := by
            rw [active]
            rfl
          have unblocked : (s.outward written read).closed = false := by simp [outward, writer]
          have awake : (s.outward written read).writerUp = true := by simp [outward, writer, up]
          simp only [CreditChannel.step, outward_full fits, room, plain_message whole,
            countP_message whole, unblocked, awake]
          cases identity <;>
            simp [outward, content, store, Upipe.write, List.append_assoc, up, writer]
        · intro written read
          rw [List.append_nil]
          have kept := inward_store s straight.apart.symm
            ((s.content s.peer.inpipe).write (.frame body false identity) false) written read
          split
          next =>
            rw [← kept]
            exact Reaches.refl _
          next =>
            rw [kept]
            exact Reaches.refl _
  next unwritable =>
    have refused : s.checkWrite.2 = false := by simpa using unwritable
    simp only [refused, Bool.false_and, Bool.false_eq_true, if_false]
    exact moves_checkWrite fits

-- The delimiter, behind what is complete, is flushed with it.
def delimited (content : Upipe (PipeItem Frame)) : Upipe (PipeItem Frame) where
  flushed := content.flushed ++ content.complete ++ [.delimiter]

theorem writeDelimiter_eq {s : PipePair Frame} (straight : Straight s)
    (idle : s.this.todo = .nothing) (open_ : ¬s.this.sentAck) :
    s.writeDelimiter = s.flushed (delimited (s.content s.peer.inpipe))
      (s.content s.peer.inpipe).asleep := by
  obtain ⟨pipe, writes⟩ := Option.ne_none_iff_exists'.mp fun none =>
    open_ (straight.sound.this.released.mp none)
  obtain ⟨here, there⟩ := straight.writes writes
  subst here
  have whole := straight.sound.memory.whole _ _ there
  have unanswered : s.this.state ≠ .termAckSent := fun acked => open_ (.inr (.inl acked))
  have rolled : s.rollback =
      s.store s.peer.inpipe { s.content s.peer.inpipe with incomplete := [] } := by
    simp only [rollback, writes, there, whole, if_true]
  rw [writeDelimiter, rolled]
  cases asleep : (s.content s.peer.inpipe).asleep <;>
    simp [writes, onPipe, store, PipePair.flush, unanswered, Upipe.write, Upipe.flush, flushed,
      delimited, asleep]
  rw [← writes, ← idle]

theorem moves_writeDelimiter {s : PipePair Frame} (straight : Straight s)
    (idle : s.this.todo = .nothing) (open_ : ¬s.this.sentAck) (closed : s.this.state.writes = false) :
    Moves s s.writeDelimiter [.delimiter] [] := by
  rw [writeDelimiter_eq straight idle open_]
  refine ⟨rfl, rfl, rfl, rfl, id, fun _ => delimits_flushed s _ _, ?_, ?_⟩
  · intro written read
    apply Reaches.single (.mark .delimiter)
    rw [outward_flushed]
    simp [CreditChannel.step, PipeItem.isDelimiter, outward, delimited, closed, idle, PipeTodo.wakes]
  · intro written read
    rw [inward_flushed straight.apart, List.append_nil]
    exact Reaches.refl _

theorem moves_wake {s : PipePair Frame} (waking : s.this.todo = .activateRead) :
    Moves s ({ s with this := { s.this with todo := .nothing } }.send .activateRead) [] [] := by
  refine ⟨rfl, rfl, rfl, rfl, ?_, fun _ todo => (by cases todo), ?_, ?_⟩
  · simp [Smooth, send, hiccups]
  · intro written read
    apply Reaches.single .wake
    simp [CreditChannel.step, outward, content, send, waking, PipeTodo.wakes]
  · intro written read
    have same : PipePair.inward
        ({ s with this := { s.this with todo := .nothing } }.send .activateRead) written read =
        s.inward written read := by
      simp [PipePair.inward, PipePair.outward, swap, content, send, acks]
    rw [List.append_nil, same]
    exact Reaches.refl _

theorem reading {p : Pipe} (reads : p.reads = true) : p.inActive = true ∧ p.state.reads = true := by
  refine ⟨by simpa using (by simpa [Pipe.reads] using reads : _ ∧ _).1, ?_⟩
  rcases reads_state reads with state | state <;> rw [state] <;> rfl

theorem moves_sleep {s : PipePair Frame} (straight : Straight s) (reads : s.this.reads = true)
    (empty : (s.content s.this.inpipe).flushed = []) :
    Moves s (s.store s.this.inpipe { s.content s.this.inpipe with asleep := true }).sleep [] [] := by
  obtain ⟨up, state⟩ := reading reads
  refine ⟨rfl, rfl, rfl, rfl, id, id, ?_, ?_⟩
  · intro written read
    have same : PipePair.outward
        (s.store s.this.inpipe { s.content s.this.inpipe with asleep := true }).sleep written read =
        s.outward written read := outward_store s straight.apart _ written read
    rw [List.append_nil, same]
    exact Reaches.refl _
  · intro written read
    rw [List.append_nil]
    apply Reaches.single .sleep
    have front : ((s.heap s.this.inpipe).getD {}).flushed = [] := empty
    simp [CreditChannel.step, PipePair.inward, PipePair.outward, swap, content, store, sleep, up,
      state, front]

theorem moves_delimiter {s : PipePair Frame} (straight : Straight s) (reads : s.this.reads = true)
    {rest : List (PipeItem Frame)} (front : (s.content s.this.inpipe).flushed = .delimiter :: rest)
    (state : PipeState) (outpipe : Option Nat) (stops : state.reads = false)
    (writes : state.writes = true → s.this.state.writes = true) :
    Moves s
      { s.store s.this.inpipe { s.content s.this.inpipe with flushed := rest } with
        this := { s.this with state := state, outpipe := outpipe } } [] [.delimiter] := by
  obtain ⟨up, reader⟩ := reading reads
  refine ⟨rfl, rfl, rfl, rfl, id, (moves_state s state outpipe writes fun _ => reader).delimits,
    ?_, ?_⟩
  · intro written read
    have same : PipePair.outward
        { s.store s.this.inpipe { s.content s.this.inpipe with flushed := rest } with
          this := { s.this with state := state, outpipe := outpipe } } written read =
        { s with this := { s.this with state := state, outpipe := outpipe } }.outward written read :=
      outward_store { s with this := { s.this with state := state, outpipe := outpipe } }
        straight.apart _ written read
    have moved := (moves_state s state outpipe writes fun _ => reader).outward written read
    rw [List.append_nil] at moved ⊢
    rw [same]
    exact moved
  · intro written read
    apply Reaches.single .take
    have first : ((s.heap s.this.inpipe).getD {}).flushed = .delimiter :: rest := front
    simp [CreditChannel.step, PipePair.inward, PipePair.outward, swap, content, store, up, reader,
      first, PipeItem.isDelimiter, stops]

theorem moves_processDelimiter {s : PipePair Frame} (straight : Straight s)
    (reads : s.this.reads = true) {rest : List (PipeItem Frame)}
    (front : (s.content s.this.inpipe).flushed = .delimiter :: rest) :
    Moves s
      (s.store s.this.inpipe { s.content s.this.inpipe with flushed := rest }).processDelimiter
      [] [.delimiter] := by
  unfold processDelimiter
  split
  next active =>
    exact moves_delimiter straight reads front .delimiterReceived s.this.outpipe rfl
      (by simp [PipeState.writes])
  next =>
    have answered := moves_delimiter straight reads front .termAckSent none rfl
      (by simp [PipeState.writes])
    exact answered.trans (moves_send _ (.inr rfl))

theorem moves_count {s : PipePair Frame} (straight : Straight s) (reads : s.this.reads = true)
    {item : PipeItem Frame} {rest : List (PipeItem Frame)}
    (front : (s.content s.this.inpipe).flushed = item :: rest)
    (goes_on : item.isDelimiter = false) :
    Moves s ((s.store s.this.inpipe { s.content s.this.inpipe with flushed := rest }).count item)
      [] [item] := by
  obtain ⟨up, reader⟩ := reading reads
  have first : ((s.heap s.this.inpipe).getD {}).flushed = item :: rest := front
  have apart : s.peer.inpipe ≠ s.this.inpipe := straight.apart.symm
  have takes (written read : List (PipeItem Frame)) :
      (s.inward written read).step PipeItem.counted PipeItem.isDelimiter .take =
        some ({ s.inward written read with flushed := rest, read := read ++ [item] }.count
          (if item.counted then s.this.msgsRead + 1 else s.this.msgsRead)) := by
    simp [CreditChannel.step, inward, outward, swap, content, up, reader, first, goes_on]
  unfold count
  have kept : (s.store s.this.inpipe
      { s.content s.this.inpipe with flushed := rest }).this.msgsRead = s.this.msgsRead := rfl
  simp only [kept]
  generalize (if item.counted = true then s.this.msgsRead + 1 else s.this.msgsRead) = msgsRead
    at takes ⊢
  split
  next now =>
    refine ⟨rfl, rfl, rfl, rfl, ?_, id, ?_, ?_⟩
    · simp [Smooth, send, store, hiccups]
    · intro written read
      apply leads_of_eq
      simp [outward, content, store, send, Function.update_of_ne apart]
    · intro written read
      apply Reaches.single .take
      rw [takes]
      have told : CreditChannel.due s.this.lwm msgsRead = true := now
      simp [CreditChannel.count, inward, outward, swap, content, store, send, told, acks]
  next later =>
    refine ⟨rfl, rfl, rfl, rfl, id, id, ?_, ?_⟩
    · intro written read
      apply leads_of_eq
      simp [outward, content, store, Function.update_of_ne apart]
    · intro written read
      apply Reaches.single .take
      rw [takes]
      have untold : ¬CreditChannel.due s.this.lwm msgsRead = true := later
      simp [CreditChannel.count, inward, outward, swap, content, store, untold]

theorem read_nothing {content : Upipe (PipeItem Frame)} (empty : content.flushed = []) :
    content.read = ({ content with asleep := true }, none) := by
  unfold Upipe.read
  split
  next => rfl
  next there => cases empty.symm.trans there

theorem moves_read {s : PipePair Frame} (straight : Straight s) (alive : s.this.alive = true) :
    Moves s s.read [] (s.took .read) := by
  unfold read took
  split
  next reads =>
    have there := straight.reads alive
    simp only [there]
    cases front : (s.content s.this.inpipe).flushed with
    | nil =>
        rw [read_nothing front]
        exact moves_sleep straight reads front
    | cons item rest =>
        simp only [Upipe.read, front]
        cases item with
        | delimiter => exact moves_processDelimiter straight reads front
        | frame body more identity => exact moves_count straight reads front rfl
  next => exact Moves.refl s

theorem moves_checkRead {s : PipePair Frame} (straight : Straight s) (alive : s.this.alive = true) :
    Moves s s.checkRead [] (s.took .checkRead) := by
  unfold checkRead took
  split
  next reads =>
    have there := straight.reads alive
    simp only [there]
    cases front : (s.content s.this.inpipe).flushed with
    | nil =>
        rw [Upipe.checkRead, if_pos front]
        exact moves_sleep straight reads front
    | cons item rest =>
        cases item with
        | delimiter =>
            simp only [Upipe.read, front]
            exact moves_processDelimiter straight reads front
        | frame body more identity => exact Moves.refl s
  next other =>
    have unread : (match (s.content s.this.inpipe).flushed with
        | .delimiter :: _ => []
        | _ => [] : List (PipeItem Frame)) = [] := by
      split <;> rfl
    rw [unread]
    exact Moves.refl s

-- The end stops writing, and has yet to write the delimiter if there is a pipe to write it to.
theorem moves_stop {s : PipePair Frame} (idle : s.this.todo = .nothing)
    (closed : s.this.state.writes = false) :
    Moves s { s with
      this := { s.this with
        outActive := false
        todo := if s.this.outpipe = none then .nothing else .delimiter } } [] [] := by
  refine Moves.quiet rfl rfl rfl rfl id (fun _ _ => closed) ?_ fun _ _ => rfl
  intro written read
  have waking : (if s.this.outpipe = none then PipeTodo.nothing else .delimiter).wakes = false := by
    split <;> rfl
  have former : s.this.todo.wakes = false := by
    rw [idle]
    rfl
  simp [outward, content, waking, former, closed]

theorem moves_terminate {s : PipePair Frame} (idle : s.this.todo = .nothing) (delay : Bool) :
    Moves s (s.terminate delay) [] [] := by
  have asked : Moves s { s with this := { s.this with delay } } [] [] :=
    Moves.quiet rfl rfl rfl rfl id id (fun _ _ => rfl) fun _ _ => rfl
  unfold terminate
  split
  next => exact asked
  next => exact asked
  next => exact asked
  next => exact (asked.trans (moves_sendTerm _)).trans (moves_stop idle rfl)
  next => exact (asked.trans (moves_sendTerm _)).trans (moves_stop idle rfl)
  next waiting =>
    dsimp only
    split
    next => exact asked.trans (moves_stop idle (by simp [waiting, PipeState.writes]))
    next =>
      have answered := asked.trans (moves_sendAck _ .termAckSent rfl rfl)
      exact answered.trans (moves_stop idle rfl)

theorem moves_go {s next : PipePair Frame} (straight : Straight s) (delimits : s.this.Delimits)
    (taken : s.go = some next) : Moves s next (s.wrote .go) [] := by
  unfold go at taken
  unfold wrote
  split at taken
  next => cases taken
  next todo =>
    cases taken
    have open_ := straight.sound.this.todo (by simp [todo])
    have rested : Moves s { s with this := { s.this with todo := .nothing } } [] [] := by
      refine Moves.quiet rfl rfl rfl rfl id (fun _ todo => (by cases todo)) ?_ fun _ _ => rfl
      intro written read
      simp [outward, content, todo, PipeTodo.wakes]
    have still : Straight { s with this := { s.this with todo := .nothing } } :=
      { straight with sound := straight.sound.local (Same.of_eq rfl rfl rfl rfl (by simp) rfl) }
    rw [if_pos todo]
    exact rested.trans (moves_writeDelimiter still rfl open_ (delimits todo))
  next todo =>
    cases taken
    rw [if_neg (by simp [todo])]
    exact moves_wake todo

theorem moves_call {s next : PipePair Frame} {action : Action Frame} (straight : Straight s)
    (alive : s.this.alive = true) (idle : s.this.todo = .nothing) (fits : Fits s.this)
    (smooth : action ≠ .hiccup) (taken : s.call action = some next) :
    Moves s next (s.wrote action) (s.took action) := by
  cases action with
  | checkRead =>
      cases taken
      exact moves_checkRead straight alive
  | read =>
      cases taken
      exact moves_read straight alive
  | checkWrite =>
      cases taken
      exact moves_checkWrite fits
  | write body more identity =>
      cases taken
      exact moves_write straight alive fits body more identity
  | rollback =>
      cases taken
      exact moves_rollback straight
  | flush =>
      cases taken
      exact moves_flush straight idle
  | terminate delay =>
      cases taken
      exact moves_terminate idle delay
  | hiccup => exact absurd rfl smooth
  | setNodelay =>
      cases taken
      exact Moves.quiet rfl rfl rfl rfl id id (fun _ _ => rfl) fun _ _ => rfl
  | process => cases taken
  | go => cases taken

theorem smooth_pop {s : PipePair Frame} {command : PipeCommand} {rest : List PipeCommand}
    (inbox : s.inbox = command :: rest) (smooth : s.Smooth) :
    hiccups s.sent = [] ∧ hiccups rest = [] := by
  have none_sent := smooth.2
  rw [inbox, hiccups_cons, List.append_eq_nil_iff] at none_sent
  exact ⟨smooth.1, none_sent.2⟩

theorem moves_pop {s : PipePair Frame} {command : PipeCommand} {rest : List PipeCommand}
    (inbox : s.inbox = command :: rest) (plain : command = .pipeTerm ∨ command = .pipeTermAck) :
    Moves s { s with inbox := rest } [] [] := by
  refine Moves.quiet rfl rfl rfl rfl (smooth_pop inbox) id ?_ ?_
  · intro written read
    rcases plain with rfl | rfl <;> simp [outward, content, inbox, acks]
  · intro written read
    rcases plain with rfl | rfl <;> simp [inward, outward, swap, content, inbox]

theorem reads_eq (state : PipeState) :
    (decide (state = .active) || decide (state = .waitingForDelimiter)) = state.reads := by
  cases state <;> rfl

theorem moves_woken {s : PipePair Frame} {rest : List PipeCommand}
    (inbox : s.inbox = .activateRead :: rest) :
    Moves s ({ s with inbox := rest }.processCommand .activateRead) [] [] := by
  have woken (written read : List (PipeItem Frame)) :
      (s.inward written read).step PipeItem.counted PipeItem.isDelimiter .woken =
        some { s.inward written read with
          wakes := rest.count .activateRead
          readerUp := s.this.inActive || s.this.state.reads } := by
    simp [CreditChannel.step, inward, outward, swap, content, inbox]
  simp only [processCommand, reads_eq]
  split
  next asleep =>
    simp only [Bool.and_eq_true, Bool.not_eq_true'] at asleep
    refine ⟨rfl, rfl, rfl, rfl, smooth_pop inbox, id, ?_, ?_⟩
    · intro written read
      apply leads_of_eq
      simp [outward, content, inbox, acks]
    · intro written read
      apply Reaches.single .woken
      rw [woken]
      simp [inward, outward, swap, content, asleep.2]
  next awake =>
    have same : (s.this.inActive || s.this.state.reads) = s.this.inActive := by
      cases up : s.this.inActive with
      | true => rfl
      | false => simpa [up] using awake
    refine ⟨rfl, rfl, rfl, rfl, smooth_pop inbox, id, ?_, ?_⟩
    · intro written read
      apply leads_of_eq
      simp [outward, content, inbox, acks]
    · intro written read
      apply Reaches.single .woken
      rw [woken, same]
      simp [inward, outward, swap, content]

theorem writes_eq (state : PipeState) : decide (state = .active) = state.writes := by
  cases state <;> rfl

theorem moves_credited {s : PipePair Frame} {msgsRead : Nat} {rest : List PipeCommand}
    (inbox : s.inbox = .activateWrite msgsRead :: rest) :
    Moves s ({ s with inbox := rest }.processCommand (.activateWrite msgsRead)) [] [] := by
  have credited (written read : List (PipeItem Frame)) :
      (s.outward written read).step PipeItem.counted PipeItem.isDelimiter .credited =
        some { s.outward written read with
          credit := msgsRead
          acks := acks rest
          writerUp := s.this.state.writes } := by
    simp [CreditChannel.step, outward, content, inbox, acks]
  simp only [processCommand, writes_eq]
  split
  next blocked =>
    simp only [Bool.and_eq_true, Bool.not_eq_true'] at blocked
    refine ⟨rfl, rfl, rfl, rfl, smooth_pop inbox, id, ?_, ?_⟩
    · intro written read
      apply Reaches.single .credited
      rw [credited]
      simp [outward, content]
    · intro written read
      apply leads_of_eq
      simp [inward, outward, swap, content, inbox]
  next unblocked =>
    have same : (s.this.outActive && s.this.state.writes) = s.this.state.writes := by
      cases up : s.this.outActive with
      | true => rfl
      | false => simpa [up] using unblocked
    refine ⟨rfl, rfl, rfl, rfl, smooth_pop inbox, id, ?_, ?_⟩
    · intro written read
      apply Reaches.single .credited
      rw [credited]
      simp [outward, content, same]
    · intro written read
      apply leads_of_eq
      simp [inward, outward, swap, content, inbox]

theorem moves_processPipeTerm {s : PipePair Frame} (straight : Straight s) {rest : List PipeCommand}
    (inbox : s.inbox = .pipeTerm :: rest) :
    Moves s ({ s with inbox := rest }.processPipeTerm) [] [] := by
  have popped := moves_pop inbox (.inl rfl)
  have peer := straight.sound.peer
  rw [inbox] at peer
  have unanswered : ¬s.this.gotTerm := (peer.term.mp (by simp)).2
  cases state : s.this.state with
  | active =>
      simp only [processPipeTerm, state]
      split
      next =>
        exact popped.trans (moves_state _ .waitingForDelimiter s.this.outpipe
          (by simp [PipeState.writes]) fun _ => by rw [state]; rfl)
      next => exact popped.trans (moves_sendAck _ _ rfl rfl)
  | delimiterReceived =>
      simp only [processPipeTerm, state]
      exact popped.trans (moves_sendAck _ _ rfl rfl)
  | termReqSent1 =>
      simp only [processPipeTerm, state]
      exact popped.trans (moves_sendAck _ _ rfl rfl)
  | waitingForDelimiter => exact absurd (.inl state) unanswered
  | termAckSent => exact absurd (.inr (.inl state)) unanswered
  | termReqSent2 => exact absurd (.inr (.inr state)) unanswered

-- The end is deleted, and the pipe it reads from with all that is in it.
theorem moves_gone {s : PipePair Frame} (apart : s.this.inpipe ≠ s.peer.inpipe)
    (done : s.this.state.reads = false) :
    Moves s { s.delete s.this.inpipe with this := { s.this with alive := false } } [] [] := by
  have emptied (pipe : Nat) : (s.delete s.this.inpipe).heap pipe =
      if pipe = s.this.inpipe then none else s.heap pipe := by
    unfold delete
    split
    next none_there =>
      split
      next same => exact same ▸ none_there
      next => rfl
    next =>
      by_cases same : pipe = s.this.inpipe
      · simp [same]
      · simp [same]
  have kept : (s.delete s.this.inpipe).peer = s.peer ∧ (s.delete s.this.inpipe).sent = s.sent ∧
      (s.delete s.this.inpipe).inbox = s.inbox := by
    unfold delete
    split <;> exact ⟨rfl, rfl, rfl⟩
  obtain ⟨peer, sent, inbox⟩ := kept
  refine ⟨peer, rfl, rfl, rfl, ?_, id, ?_, ?_⟩
  · simp [Smooth, sent, inbox]
  · intro written read
    apply leads_of_eq
    simp [outward, content, emptied, peer, sent, inbox, apart.symm]
  · intro written read
    apply Reaches.single .drop
    simp [CreditChannel.step, inward, outward, swap, content, emptied, peer, sent, inbox, done]

theorem moves_processPipeTermAck {s : PipePair Frame} (straight : Straight s)
    {rest : List PipeCommand} (inbox : s.inbox = .pipeTermAck :: rest)
    (alive : s.this.alive = true) :
    Moves s ({ s with inbox := rest }.processPipeTermAck) [] [] := by
  have peer := straight.sound.peer
  rw [inbox] at peer
  obtain ⟨rfl, position⟩ := peer.acknowledged straight.sound.this alive
  have popped := moves_pop inbox (.inr rfl)
  have told : Moves s { s with
      inbox := []
      this := { s.this with sink := s.this.sink ++ [SinkEvent.pipeTerminated] } } [] [] :=
    popped.trans (Moves.quiet rfl rfl rfl rfl id id (fun _ _ => rfl) fun _ _ => rfl)
  unfold processPipeTermAck
  dsimp only
  split
  next =>
    refine (told.trans (moves_sendAck _ .termReqSent1 rfl rfl)).trans ?_
    exact moves_gone straight.apart rfl
  next answered =>
    exact told.trans (moves_gone straight.apart (by simp [answered, PipeState.reads]))
  next twice =>
    exact told.trans (moves_gone straight.apart (by simp [twice, PipeState.reads]))
  next once answered twice =>
    rcases position with (asked | asked) | acked
    · exact absurd asked once
    · exact absurd asked twice
    · exact absurd acked answered

theorem moves_process {s : PipePair Frame} (straight : Straight s) {command : PipeCommand}
    {rest : List PipeCommand} (inbox : s.inbox = command :: rest) (alive : s.this.alive = true) :
    Moves s ({ s with inbox := rest }.processCommand command) [] [] := by
  cases command with
  | activateRead => exact moves_woken inbox
  | activateWrite msgsRead => exact moves_credited inbox
  | hiccup pipe =>
      have none_sent := straight.smooth.2
      rw [inbox] at none_sent
      cases none_sent
  | pipeTerm => exact moves_processPipeTerm straight inbox
  | pipeTermAck => exact moves_processPipeTermAck straight inbox alive

theorem moves_act {s next : PipePair Frame} {action : Action Frame} (straight : Straight s)
    (fits : Fits s.this) (delimits : s.this.Delimits) (smooth : action ≠ .hiccup)
    (taken : s.act action = some next) : Moves s next (s.wrote action) (s.took action) := by
  unfold PipePair.act at taken
  split at taken
  next => exact moves_go straight delimits taken
  next =>
    split at taken
    next => cases taken
    next command rest inbox =>
      obtain ⟨idle, taken⟩ := Option.ite_none_left_eq_some.mp taken
      split at taken
      next dead =>
        have gone := (straight.sound.peer.gone (by simpa using dead)).2
        cases inbox.symm.trans gone
      next alive =>
        cases taken
        exact moves_process straight inbox (by simpa using alive)
  next =>
    obtain ⟨guard, taken⟩ := Option.ite_none_right_eq_some.mp taken
    simp only [Bool.and_eq_true, decide_eq_true_eq] at guard
    exact moves_call straight guard.1 guard.2 fits smooth taken

end Straight

end PipePair

end Zmqcpp
