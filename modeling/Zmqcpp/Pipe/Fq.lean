import Zmqcpp.Shared.Interleaving
import Zmqcpp.Shared.Multipart
import Zmqcpp.Shared.Rota
import Zmqcpp.Shared.Transition

set_option autoImplicit false

namespace Zmqcpp

open Multipart Transition

structure Inpipe (Frame : Type) where
  -- What has been flushed into it and not read.
  inbox : Inbox Frame := {}
  asleep : Bool := false
  -- It terminates, and nothing more is read from it.
  ended : Bool := false
  deriving DecidableEq, Repr

namespace Inpipe

variable {Frame : Type}

-- The frame comes with its more flag.
def read (p : Inpipe Frame) : Inpipe Frame × Option (Frame × Bool) :=
  if p.asleep || p.ended then (p, none)
  else
    match p.inbox with
    | { rest := frame :: rest, waiting } =>
        ({ p with inbox := { rest, waiting } }, some (frame, !rest.isEmpty))
    | { rest := [], waiting := message :: waiting } =>
        ({ p with inbox := { rest := message.others, waiting } },
          some (message.first, !message.others.isEmpty))
    | { rest := [], waiting := [] } => ({ p with asleep := true }, none)

def checkRead (p : Inpipe Frame) : Inpipe Frame × Bool :=
  if p.asleep || p.ended then (p, false)
  else if p.inbox.current.isEmpty then ({ p with asleep := true }, false)
  else (p, true)

structure Refused (p after : Inpipe Frame) : Prop where
  inbox : after.inbox = p.inbox
  ended : after.ended = p.ended
  idle : p.asleep = true ∨ p.ended = true ∨ p.inbox = {}
  asleep : after.asleep = true ∨ after.ended = true
  own : after.asleep = true → p.asleep = true ∨ p.inbox = {}

theorem read_none {p after : Inpipe Frame} (refused : p.read = (after, none)) : Refused p after := by
  unfold read at refused
  split at refused
  next idle =>
    cases refused
    simp only [Bool.or_eq_true] at idle
    rcases idle with asleep | ended
    · exact ⟨rfl, rfl, .inl asleep, .inl asleep, .inl⟩
    · exact ⟨rfl, rfl, .inr (.inl ended), .inr ended, .inl⟩
  next =>
    split at refused
    next => cases refused
    next => cases refused
    next empty =>
      cases refused
      exact ⟨rfl, rfl, .inr (.inr empty), .inl rfl, fun _ => .inr empty⟩

theorem checkRead_false {p after : Inpipe Frame} (refused : p.checkRead = (after, false)) :
    Refused p after := by
  unfold checkRead at refused
  split at refused
  next idle =>
    cases refused
    simp only [Bool.or_eq_true] at idle
    rcases idle with asleep | ended
    · exact ⟨rfl, rfl, .inl asleep, .inl asleep, .inl⟩
    · exact ⟨rfl, rfl, .inr (.inl ended), .inr ended, .inl⟩
  next =>
    split at refused
    next empty =>
      cases refused
      have nothing : p.inbox = {} := by
        obtain ⟨⟨rest, waiting⟩, asleep, ended⟩ := p
        cases rest with
        | nil =>
            cases waiting with
            | nil => rfl
            | cons message waiting => simp [Inbox.current] at empty
        | cons frame rest => simp [Inbox.current] at empty
      exact ⟨rfl, rfl, .inr (.inr nothing), .inl rfl, fun _ => .inr nothing⟩
    next => cases refused

structure Fetched (p after : Inpipe Frame) (frame : Frame) (more : Bool) : Prop where
  awake : p.asleep = false
  goes_on : p.ended = false
  asleep : after.asleep = false
  ended : after.ended = false
  more : more = true ↔ after.inbox.rest ≠ []
  inbox : (p.inbox.rest = frame :: after.inbox.rest ∧ p.inbox.waiting = after.inbox.waiting) ∨
    (p.inbox.rest = [] ∧ ∃ message : Message Frame, message.frames = frame :: after.inbox.rest ∧
      p.inbox.waiting = message :: after.inbox.waiting)

theorem read_some {p after : Inpipe Frame} {frame : Frame} {more : Bool}
    (fetched : p.read = (after, some (frame, more))) : Fetched p after frame more := by
  unfold read at fetched
  split at fetched
  next => cases fetched
  next reads =>
    simp only [Bool.or_eq_true, not_or, Bool.not_eq_true] at reads
    split at fetched
    next frame rest waiting content =>
      cases fetched
      refine ⟨reads.1, reads.2, reads.1, reads.2, by simp, .inl ?_⟩
      rw [content]
      exact ⟨rfl, rfl⟩
    next message waiting content =>
      cases fetched
      refine ⟨reads.1, reads.2, reads.1, reads.2, by simp, .inr ?_⟩
      rw [content]
      exact ⟨rfl, message, rfl, rfl⟩
    next => cases fetched

theorem read_refused {p : Inpipe Frame} (refused : p.checkRead.2 = false) :
    p.read = (p.checkRead.1, none) := by
  unfold checkRead at refused ⊢
  unfold read
  split at refused
  next idle => rw [if_pos idle, if_pos idle]
  next reads =>
    rw [if_neg reads, if_neg reads]
    obtain ⟨⟨rest, waiting⟩, asleep, ended⟩ := p
    cases rest with
    | nil =>
        cases waiting with
        | nil => rfl
        | cons message waiting => simp [Inbox.current] at refused
    | cons frame rest => simp [Inbox.current] at refused

theorem checkRead_eq (p : Inpipe Frame) : p.checkRead.2 = p.read.2.isSome := by
  cases ready : p.checkRead.2 with
  | false =>
      rw [read_refused ready]
      rfl
  | true =>
      unfold checkRead at ready
      unfold read
      split at ready
      next => cases ready
      next reads =>
        rw [if_neg reads]
        obtain ⟨⟨rest, waiting⟩, asleep, ended⟩ := p
        cases rest with
        | nil =>
            cases waiting with
            | nil => simp [Inbox.current] at ready
            | cons message waiting => rfl
        | cons frame rest => rfl

theorem checkRead_true {p after : Inpipe Frame} (ready : p.checkRead = (after, true)) : after = p := by
  unfold checkRead at ready
  split at ready
  next => cases ready
  next =>
    split at ready
    next => cases ready
    next =>
      cases ready
      rfl

end Inpipe

structure Fq (Pipe Frame : Type) where
  pipes : Rota Pipe := {}
  more : Bool := false
  inpipes : Pipe → Inpipe Frame := fun _ => {}
  -- What has been flushed into each pipe, and what has been read, with the pipe it is from.
  flushed : Pipe → List (Message Frame) := fun _ => []
  received : List (Pipe × Frame × Bool) := []
  aborted : Bool := false

namespace Fq

variable {Pipe Frame : Type} [DecidableEq Pipe]

def attach (fq : Fq Pipe Frame) (pipe : Pipe) : Fq Pipe Frame :=
  let pushed := fq.pipes.pushBack pipe
  { fq with
    pipes := { pushed.swap pushed.active (pushed.items.length - 1) with active := pushed.active + 1 } }

def pipeTerminated (fq : Fq Pipe Frame) (pipe : Pipe) : Fq Pipe Frame :=
  { fq with pipes := fq.pipes.remove pipe }

def activated (fq : Fq Pipe Frame) (pipe : Pipe) : Fq Pipe Frame :=
  { fq with pipes := fq.pipes.enter pipe }

def setInpipe (fq : Fq Pipe Frame) (pipe : Pipe) (inpipe : Inpipe Frame) : Fq Pipe Frame :=
  { fq with inpipes := Function.update fq.inpipes pipe inpipe }

def deactivate (fq : Fq Pipe Frame) : Fq Pipe Frame :=
  { fq with pipes := fq.pipes.leave fq.pipes.current }

def fetch (fq : Fq Pipe Frame) (pipe : Pipe) (inpipe : Inpipe Frame) (more : Bool) :
    Fq Pipe Frame :=
  let fetched := { fq.setInpipe pipe inpipe with more }
  if more then fetched else { fetched with pipes := fetched.pipes.advance }

/-- The loop of recvpipe, which turns once for each active pipe at most. -/
def recvLoop : Nat → Fq Pipe Frame → Fq Pipe Frame × Option (Pipe × Frame × Bool)
  | 0, fq => (fq, none)
  | fuel + 1, fq =>
      match fq.pipes.upcoming with
      | none => (fq, none)
      | some pipe =>
          match (fq.inpipes pipe).read with
          | (inpipe, some (frame, more)) =>
              (fq.fetch pipe inpipe more, some (pipe, frame, more))
          | (inpipe, none) =>
              if fq.more then ({ fq with aborted := true }, none)
              else recvLoop fuel (fq.setInpipe pipe inpipe).deactivate

def recvpipe (fq : Fq Pipe Frame) : Fq Pipe Frame × Option (Pipe × Frame × Bool) :=
  fq.recvLoop fq.pipes.active

def hasInLoop : Nat → Fq Pipe Frame → Fq Pipe Frame × Bool
  | 0, fq => (fq, false)
  | fuel + 1, fq =>
      match fq.pipes.upcoming with
      | none => (fq, false)
      | some pipe =>
          match (fq.inpipes pipe).checkRead with
          | (inpipe, true) => (fq.setInpipe pipe inpipe, true)
          | (inpipe, false) => hasInLoop fuel (fq.setInpipe pipe inpipe).deactivate

def hasIn (fq : Fq Pipe Frame) : Fq Pipe Frame × Bool :=
  if fq.more then (fq, true) else fq.hasInLoop fq.pipes.active

inductive Action (Pipe Frame : Type)
  | attach (pipe : Pipe)
  -- The other end of the pipe flushes a message.
  | flush (pipe : Pipe) (message : Message Frame)
  | activateRead (pipe : Pipe)
  | ended (pipe : Pipe)
  | terminated (pipe : Pipe)
  | recv
  | hasIn
  deriving DecidableEq, Repr

def step (fq : Fq Pipe Frame) (action : Action Pipe Frame) : Option (Fq Pipe Frame) :=
  if fq.aborted then none
  else
    match action with
    | .attach pipe =>
        if pipe ∈ fq.pipes.items ∨ fq.flushed pipe ≠ [] then none
        else some ((fq.setInpipe pipe {}).attach pipe)
    | .flush pipe message =>
        if pipe ∈ fq.pipes.items then
          let inpipe := fq.inpipes pipe
          some { fq.setInpipe pipe { inpipe with inbox := inpipe.inbox.arrive message } with
            flushed := Function.update fq.flushed pipe (fq.flushed pipe ++ [message]) }
        else none
    -- Sent by a flush that finds the reader asleep.
    | .activateRead pipe =>
        let inpipe := fq.inpipes pipe
        if pipe ∈ fq.pipes.items ∧ inpipe.asleep = true ∧ inpipe.ended = false ∧
            inpipe.inbox.current.isEmpty = false then
          some ((fq.setInpipe pipe { inpipe with asleep := false }).activated pipe)
        else none
    | .ended pipe =>
        if pipe ∈ fq.pipes.items then
          some (fq.setInpipe pipe { fq.inpipes pipe with ended := true })
        else none
    | .terminated pipe =>
        if pipe ∈ fq.pipes.items then some (fq.pipeTerminated pipe) else none
    | .recv =>
        match fq.recvpipe with
        | (after, some frame) => some { after with received := fq.received ++ [frame] }
        | (after, none) => some after
    | .hasIn => some fq.hasIn.1

inductive Moves (fq : Fq Pipe Frame) : Action Pipe Frame → Fq Pipe Frame → Prop
  | attach (pipe : Pipe) (new : pipe ∉ fq.pipes.items) (unused : fq.flushed pipe = []) :
      Moves fq (.attach pipe) ((fq.setInpipe pipe {}).attach pipe)
  | flush (pipe : Pipe) (message : Message Frame) :
      Moves fq (.flush pipe message)
        { fq.setInpipe pipe { fq.inpipes pipe with
            inbox := (fq.inpipes pipe).inbox.arrive message } with
          flushed := Function.update fq.flushed pipe (fq.flushed pipe ++ [message]) }
  | activateRead (pipe : Pipe) (member : pipe ∈ fq.pipes.items)
      (asleep : (fq.inpipes pipe).asleep = true) :
      Moves fq (.activateRead pipe)
        ((fq.setInpipe pipe { fq.inpipes pipe with asleep := false }).activated pipe)
  | ended (pipe : Pipe) :
      Moves fq (.ended pipe) (fq.setInpipe pipe { fq.inpipes pipe with ended := true })
  | terminated (pipe : Pipe) (member : pipe ∈ fq.pipes.items) :
      Moves fq (.terminated pipe) (fq.pipeTerminated pipe)
  | nothing (after : Fq Pipe Frame) (outcome : fq.recvpipe = (after, none)) : Moves fq .recv after
  | recv (after : Fq Pipe Frame) (frame : Pipe × Frame × Bool)
      (outcome : fq.recvpipe = (after, some frame)) :
      Moves fq .recv { after with received := fq.received ++ [frame] }
  | hasIn : Moves fq .hasIn fq.hasIn.1

theorem step_moves {fq next : Fq Pipe Frame} {action : Action Pipe Frame}
    (moved : fq.step action = some next) : Moves fq action next := by
  unfold Fq.step at moved
  split at moved
  next => cases moved
  next =>
    cases action with
    | attach pipe =>
        dsimp only at moved
        split at moved
        next => cases moved
        next fresh =>
          cases moved
          rw [not_or, Decidable.not_not] at fresh
          exact .attach pipe fresh.1 fresh.2
    | activateRead pipe =>
        obtain ⟨asks, same⟩ := Option.ite_none_right_eq_some.mp moved
        cases same
        exact .activateRead pipe asks.1 asks.2.1
    | recv =>
        dsimp only at moved
        split at moved
        next outcome =>
          cases moved
          exact .recv _ _ outcome
        next outcome =>
          cases moved
          exact .nothing _ outcome
    | hasIn =>
        cases moved
        exact .hasIn
    | flush pipe message =>
        obtain ⟨-, same⟩ := Option.ite_none_right_eq_some.mp moved
        cases same
        exact .flush pipe message
    | ended pipe =>
        obtain ⟨-, same⟩ := Option.ite_none_right_eq_some.mp moved
        cases same
        exact .ended pipe
    | terminated pipe =>
        obtain ⟨member, same⟩ := Option.ite_none_right_eq_some.mp moved
        cases same
        exact .terminated pipe member

/-- The pipes in turn are awake, and what is out of turn has nothing for the socket. -/
structure Sound (fq : Fq Pipe Frame) : Prop where
  pipes : fq.pipes.Sound
  awake : ∀ pipe, fq.pipes.InTurn pipe → (fq.inpipes pipe).asleep = false
  passive : ∀ pipe ∈ fq.pipes.items, ¬fq.pipes.InTurn pipe →
    (fq.inpipes pipe).asleep = true ∨ (fq.inpipes pipe).ended = true

omit [DecidableEq Pipe] in
theorem sound_initial : Sound ({} : Fq Pipe Frame) :=
  ⟨Rota.sound_initial, fun _ _ => rfl, fun pipe member => by simp at member⟩

def Ready (fq : Fq Pipe Frame) (pipe : Pipe) : Prop :=
  fq.pipes.InTurn pipe ∧ (fq.inpipes pipe).ended = false ∧ (fq.inpipes pipe).inbox ≠ {}

structure Skips (fq after : Fq Pipe Frame) : Prop where
  sound : after.Sound
  frame : after = { fq with pipes := after.pipes, inpipes := after.inpipes }
  mem : ∀ pipe, pipe ∈ after.pipes.items ↔ pipe ∈ fq.pipes.items
  length : after.pipes.items.length = fq.pipes.items.length
  inbox : ∀ pipe, (after.inpipes pipe).inbox = (fq.inpipes pipe).inbox
  ended : ∀ pipe, (after.inpipes pipe).ended = (fq.inpipes pipe).ended
  ready : ∀ pipe, fq.Ready pipe →
    after.pipes.InTurn pipe ∧ after.pipes.ahead pipe ≤ fq.pipes.ahead pipe

omit [DecidableEq Pipe] in
theorem Skips.refl {fq : Fq Pipe Frame} (sound : fq.Sound) : Skips fq fq :=
  ⟨sound, rfl, fun _ => Iff.rfl, rfl, fun _ => rfl, fun _ => rfl,
    fun _ ready => ⟨ready.1, Nat.le_refl _⟩⟩

omit [DecidableEq Pipe] in
theorem Skips.ready_after {fq after : Fq Pipe Frame} (skips : Skips fq after) {pipe : Pipe}
    (ready : fq.Ready pipe) : after.Ready pipe := by
  refine ⟨(skips.ready pipe ready).1, ?_, ?_⟩
  · rw [skips.ended]
    exact ready.2.1
  · rw [skips.inbox]
    exact ready.2.2

omit [DecidableEq Pipe] in
theorem Skips.trans {fq middle after : Fq Pipe Frame} (first : Skips fq middle)
    (second : Skips middle after) : Skips fq after := by
  refine ⟨second.sound, ?_, fun pipe => (second.mem pipe).trans (first.mem pipe),
    second.length.trans first.length, fun pipe => (second.inbox pipe).trans (first.inbox pipe),
    fun pipe => (second.ended pipe).trans (first.ended pipe), fun pipe ready => ?_⟩
  · rw [second.frame, first.frame]
  · have later := second.ready pipe (first.ready_after ready)
    exact ⟨later.1, Nat.le_trans later.2 (first.ready pipe ready).2⟩

theorem Sound.deactivate {fq : Fq Pipe Frame} (sound : fq.Sound) {pipe : Pipe}
    {inpipe : Inpipe Frame} (some_active : 0 < fq.pipes.active)
    (current : fq.pipes.upcoming = some pipe) (refused : (fq.inpipes pipe).Refused inpipe) :
    Skips fq (fq.setInpipe pipe inpipe).deactivate ∧
      (fq.setInpipe pipe inpipe).deactivate.pipes.active = fq.pipes.active - 1 := by
  obtain ⟨other, same, place, active⟩ := sound.pipes.upcoming_inTurn some_active
  obtain rfl := Option.some.inj (current.symm.trans same)
  have left := sound.pipes.leave active
  rw [place] at left
  have pipes : (fq.setInpipe pipe inpipe).deactivate.pipes = fq.pipes.leave fq.pipes.current := rfl
  have inpipes (other : Pipe) : (fq.setInpipe pipe inpipe).deactivate.inpipes other =
      if other = pipe then inpipe else fq.inpipes other := Function.update_apply _ _ _ _
  refine ⟨⟨⟨left.sound, fun other turn => ?_, fun other member out => ?_⟩, rfl, left.mem,
    left.length, fun other => ?_, fun other => ?_, fun other ready => ?_⟩, left.active⟩
  · have before := (left.inTurn other).mp turn
    rw [inpipes, if_neg before.2]
    exact sound.awake other before.1
  · rw [inpipes]
    split
    next => exact refused.asleep
    next apart =>
      apply sound.passive other ((left.mem other).mp member)
      intro turn
      exact out ((left.inTurn other).mpr ⟨turn, apart⟩)
  · rw [inpipes]
    split
    next same =>
      rw [same]
      exact refused.inbox
    next => rfl
  · rw [inpipes]
    split
    next same =>
      rw [same]
      exact refused.ended
    next => rfl
  · have apart : other ≠ pipe := by
      rintro rfl
      rcases refused.idle with asleep | ended | empty
      · cases asleep.symm.trans (sound.awake other ready.1)
      · cases ended.symm.trans ready.2.1
      · exact ready.2.2 empty
    have turn := (left.inTurn other).mpr ⟨ready.1, apart⟩
    exact ⟨turn, left.ahead_le sound.pipes place active turn⟩

/-- Between messages the loop of recvpipe skips to a pipe that has a frame, if there is one. -/
theorem recvLoop_spec {fuel : Nat} {fq : Fq Pipe Frame} (sound : fq.Sound)
    (enough : fuel = fq.pipes.active) (between : fq.more = false) :
    ∃ middle, Skips fq middle ∧
      ((fq.recvLoop fuel = (middle, none) ∧ middle.pipes.active = 0) ∨
        ∃ pipe inpipe frame more, middle.pipes.upcoming = some pipe ∧
          middle.pipes.InTurn pipe ∧
          (middle.inpipes pipe).read = (inpipe, some (frame, more)) ∧
          fq.recvLoop fuel = (middle.fetch pipe inpipe more, some (pipe, frame, more))) := by
  induction fuel generalizing fq with
  | zero => exact ⟨fq, .refl sound, .inl ⟨rfl, enough.symm⟩⟩
  | succ fuel ih =>
      obtain ⟨pipe, current, -, active⟩ := sound.pipes.upcoming_inTurn (by omega)
      unfold recvLoop
      simp only [current]
      cases outcome : (fq.inpipes pipe).read with
      | mk inpipe fetched =>
          cases fetched with
          | some fetched =>
              obtain ⟨frame, more⟩ := fetched
              exact ⟨fq, .refl sound, .inr ⟨pipe, inpipe, frame, more, current, active, outcome, rfl⟩⟩
          | none =>
              obtain ⟨skips, fewer⟩ :=
                sound.deactivate (by omega) current (Inpipe.read_none outcome)
              simp only [between, Bool.false_eq_true, if_false]
              obtain ⟨middle, later, ends⟩ := ih skips.sound (by omega) between
              exact ⟨middle, skips.trans later, ends⟩

theorem hasInLoop_spec {fuel : Nat} {fq : Fq Pipe Frame} (sound : fq.Sound)
    (enough : fuel = fq.pipes.active) :
    ∃ middle, Skips fq middle ∧ (fq.hasInLoop fuel).1 = middle := by
  induction fuel generalizing fq with
  | zero => exact ⟨fq, .refl sound, rfl⟩
  | succ fuel ih =>
      obtain ⟨pipe, current, -, active⟩ := sound.pipes.upcoming_inTurn (by omega)
      unfold hasInLoop
      simp only [current]
      cases outcome : (fq.inpipes pipe).checkRead with
      | mk inpipe ready =>
          cases ready with
          | true =>
              have same := Inpipe.checkRead_true outcome
              refine ⟨fq, .refl sound, ?_⟩
              simp only [setInpipe, same, Function.update_eq_self]
          | false =>
              obtain ⟨skips, fewer⟩ :=
                sound.deactivate (by omega) current (Inpipe.checkRead_false outcome)
              obtain ⟨middle, later, ends⟩ := ih skips.sound (by omega)
              exact ⟨middle, skips.trans later, ends⟩

-- has_in asks the pipes that recvpipe would read from.
theorem hasInLoop_eq (fuel : Nat) {fq : Fq Pipe Frame} (between : fq.more = false) :
    (fq.hasInLoop fuel).2 = (fq.recvLoop fuel).2.isSome := by
  induction fuel generalizing fq with
  | zero => rfl
  | succ fuel ih =>
      unfold hasInLoop recvLoop
      cases fq.pipes.upcoming with
      | none => rfl
      | some pipe =>
          dsimp only
          have agree := Inpipe.checkRead_eq (fq.inpipes pipe)
          cases outcome : (fq.inpipes pipe).checkRead with
          | mk inpipe ready =>
              rw [outcome] at agree
              cases ready with
              | true =>
                  cases read : (fq.inpipes pipe).read with
                  | mk after fetched =>
                      rw [read] at agree
                      cases fetched with
                      | none => cases agree
                      | some fetched => rfl
              | false =>
                  rw [Inpipe.read_refused (by rw [outcome]), outcome]
                  simp only [between, Bool.false_eq_true, if_false]
                  exact ih between

def assembled (received : List (Pipe × Frame × Bool)) : Outbox Frame :=
  received.foldl (fun outbox entry => outbox.put entry.2.1 entry.2.2) {}

omit [DecidableEq Pipe] in
theorem assembled_append (received : List (Pipe × Frame × Bool)) (pipe : Pipe) (frame : Frame)
    (more : Bool) :
    assembled (received ++ [(pipe, frame, more)]) = (assembled received).put frame more := by
  simp [assembled]

/-- The messages that the application has put together are those `taken` from the pipes, whole and
each pipe's in order; of the next message it has the frames that its pipe does not have any more. -/
structure Receives (fq : Fq Pipe Frame) (taken : Pipe → List (Message Frame)) : Prop where
  goes_on : fq.aborted = false
  whole : Interleaving (fun pipe => (taken pipe).map Message.frames) (assembled fq.received).sent
  first : ∀ pipe, taken pipe <+: fq.flushed pipe
  between : fq.more = false → (assembled fq.received).frames = []
  others : ∀ pipe ∈ fq.pipes.items, (fq.more = true → fq.pipes.upcoming ≠ some pipe) →
    (fq.inpipes pipe).inbox.rest = [] ∧
      fq.flushed pipe = taken pipe ++ (fq.inpipes pipe).inbox.waiting
  begun : fq.more = true → ∃ (pipe : Pipe) (message : Message Frame),
    fq.pipes.upcoming = some pipe ∧ fq.pipes.InTurn pipe ∧ (fq.inpipes pipe).ended = false ∧
      fq.flushed pipe = taken pipe ++ message :: (fq.inpipes pipe).inbox.waiting ∧
      message.frames = (assembled fq.received).frames ++ (fq.inpipes pipe).inbox.rest ∧
      (fq.inpipes pipe).inbox.rest ≠ []

theorem receives_initial : Receives ({} : Fq Pipe Frame) fun _ => [] where
  goes_on := rfl
  whole := Interleaving.empty
  first := fun _ => List.nil_prefix
  between := fun _ => rfl
  others := fun pipe member => by simp at member
  begun := fun more => by cases more

-- Nothing is read, and the pipe that is read from stays the one that it is.
theorem Receives.kept {fq after : Fq Pipe Frame} {taken : Pipe → List (Message Frame)}
    (receives : fq.Receives taken) (goes_on : after.aborted = fq.aborted)
    (more : after.more = fq.more) (received : after.received = fq.received)
    (flushed : after.flushed = fq.flushed)
    (inbox : ∀ pipe ∈ after.pipes.items,
      (pipe ∈ fq.pipes.items ∧ (after.inpipes pipe).inbox = (fq.inpipes pipe).inbox) ∨
        (fq.flushed pipe = [] ∧ (after.inpipes pipe).inbox = {}))
    (current : ∀ pipe, fq.more = true → fq.pipes.upcoming = some pipe → fq.pipes.InTurn pipe →
      (fq.inpipes pipe).ended = false →
      after.pipes.upcoming = some pipe ∧ after.pipes.InTurn pipe ∧
        (after.inpipes pipe).inbox = (fq.inpipes pipe).inbox ∧
        (after.inpipes pipe).ended = false) : after.Receives taken := by
  refine ⟨goes_on.trans receives.goes_on, ?_, ?_, ?_, fun pipe member other => ?_, ?_⟩
  · rw [received]
    exact receives.whole
  · rw [flushed]
    exact receives.first
  · rw [received, more]
    exact receives.between
  · rw [flushed]
    rcases inbox pipe member with ⟨old, same⟩ | ⟨none, empty⟩
    · rw [same]
      apply receives.others pipe old
      intro reading reads
      obtain ⟨own, message, own_current, active, goes_on, -⟩ := receives.begun reading
      obtain rfl := Option.some.inj (own_current.symm.trans reads)
      exact other (more.trans reading) (current own reading own_current active goes_on).1
    · have nothing := receives.first pipe
      rw [none, List.prefix_nil] at nothing
      rw [none, empty, nothing]
      exact ⟨rfl, rfl⟩
  · intro reading
    rw [more] at reading
    obtain ⟨pipe, message, reads, active, goes_on, content, frames, rest⟩ := receives.begun reading
    obtain ⟨still, in_turn, same, lives⟩ := current pipe reading reads active goes_on
    refine ⟨pipe, message, still, in_turn, lives, ?_⟩
    rw [flushed, received, same]
    exact ⟨content, frames, rest⟩

-- One pipe changes, but not what is in it, and the current pipe stays where it is.
theorem Receives.changed {fq : Fq Pipe Frame} {taken : Pipe → List (Message Frame)}
    (receives : fq.Receives taken) {pipes : Rota Pipe} {pipe : Pipe} {inpipe : Inpipe Frame}
    (inbox : inpipe.inbox = (fq.inpipes pipe).inbox)
    (mem : ∀ other ∈ pipes.items, other ∈ fq.pipes.items)
    (current : ∀ other, fq.more = true → fq.pipes.upcoming = some other → fq.pipes.InTurn other →
      other ≠ pipe ∧ pipes.upcoming = some other ∧ pipes.InTurn other) :
    { fq with pipes, inpipes := Function.update fq.inpipes pipe inpipe }.Receives taken := by
  have same (other : Pipe) : (Function.update fq.inpipes pipe inpipe other).inbox =
      (fq.inpipes other).inbox := by
    by_cases own : other = pipe
    · subst own
      rw [Function.update_self, inbox]
    · rw [Function.update_of_ne own]
  refine receives.kept rfl rfl rfl rfl (fun other member => .inl ⟨mem other member, same other⟩) ?_
  intro other reading reads active goes_on
  obtain ⟨apart, still, in_turn⟩ := current other reading reads active
  refine ⟨still, in_turn, same other, ?_⟩
  dsimp only
  rw [Function.update_of_ne apart]
  exact goes_on

theorem Receives.skips {fq after : Fq Pipe Frame} {taken : Pipe → List (Message Frame)}
    (receives : fq.Receives taken) (between : fq.more = false) (skips : Skips fq after) :
    after.Receives taken := by
  have more : after.more = fq.more := by rw [skips.frame]
  apply receives.kept
  · rw [skips.frame]
  · exact more
  · rw [skips.frame]
  · rw [skips.frame]
  · exact fun pipe member => .inl ⟨(skips.mem pipe).mp member, skips.inbox pipe⟩
  · intro pipe reading
    cases between.symm.trans reading

theorem Receives.others_rest {fq : Fq Pipe Frame} {taken : Pipe → List (Message Frame)}
    (receives : fq.Receives taken) {pipe other : Pipe} (current : fq.pipes.upcoming = some pipe)
    (member : other ∈ fq.pipes.items) (apart : other ≠ pipe) :
    (fq.inpipes other).inbox.rest = [] ∧
      fq.flushed other = taken other ++ (fq.inpipes other).inbox.waiting := by
  apply receives.others other member
  intro _ same
  exact apart (Option.some.inj (same.symm.trans current))

/-- The frame goes on with the message that is being read, or begins the next one of its pipe. -/
theorem Receives.message {fq : Fq Pipe Frame} {taken : Pipe → List (Message Frame)}
    (receives : fq.Receives taken) {pipe : Pipe} {inpipe : Inpipe Frame} {frame : Frame}
    {more : Bool} (current : fq.pipes.upcoming = some pipe) (member : pipe ∈ fq.pipes.items)
    (fetched : (fq.inpipes pipe).Fetched inpipe frame more) : ∃ message : Message Frame,
      fq.flushed pipe = taken pipe ++ message :: inpipe.inbox.waiting ∧
      message.frames = (assembled fq.received).frames ++ frame :: inpipe.inbox.rest := by
  rcases fetched.inbox with ⟨rest, waiting⟩ | ⟨rest, message, frames, waiting⟩
  · cases reading : fq.more with
    | false =>
        have idle := (receives.others pipe member fun never => by
          cases reading.symm.trans never).1
        cases rest.symm.trans idle
    | true =>
        obtain ⟨own, message, own_current, -, -, content, frames, -⟩ := receives.begun reading
        obtain rfl := Option.some.inj (current.symm.trans own_current)
        rw [rest] at frames
        rw [waiting] at content
        exact ⟨message, content, frames⟩
  · cases reading : fq.more with
    | false =>
        have content := (receives.others pipe member fun never => by
          cases reading.symm.trans never).2
        rw [waiting] at content
        rw [receives.between reading, List.nil_append]
        exact ⟨message, content, frames⟩
    | true =>
        obtain ⟨own, message, own_current, -, -, -, -, some_rest⟩ := receives.begun reading
        obtain rfl := Option.some.inj (current.symm.trans own_current)
        exact absurd rest some_rest

theorem Receives.fetch_more {fq : Fq Pipe Frame} {taken : Pipe → List (Message Frame)}
    (receives : fq.Receives taken) {pipe : Pipe} {inpipe : Inpipe Frame} {frame : Frame}
    (current : fq.pipes.upcoming = some pipe) (active : fq.pipes.InTurn pipe)
    (fetched : (fq.inpipes pipe).Fetched inpipe frame true) :
    { fq.fetch pipe inpipe true with
      received := fq.received ++ [(pipe, frame, true)] }.Receives taken := by
  obtain ⟨message, content, frames⟩ := receives.message current active.1 fetched
  refine ⟨receives.goes_on, ?_, receives.first, fun never => ?_,
    fun other member apart => ?_, fun _ => ⟨pipe, message, current, active, ?_⟩⟩
  · rw [assembled_append, Outbox.put_more]
    exact receives.whole
  · cases never
  · have other_pipe : other ≠ pipe := by
      rintro rfl
      exact apart rfl current
    simp only [Fq.fetch, setInpipe, if_true, Function.update_of_ne other_pipe]
    exact receives.others_rest current member other_pipe
  · simp only [Fq.fetch, setInpipe, if_true, Function.update_self]
    refine ⟨fetched.ended, content, ?_, fetched.more.mp rfl⟩
    rw [assembled_append, Outbox.put_more, frames]
    simp

theorem Receives.fetch_last {fq : Fq Pipe Frame} {taken : Pipe → List (Message Frame)}
    (receives : fq.Receives taken) {pipe : Pipe} {inpipe : Inpipe Frame} {frame : Frame}
    (current : fq.pipes.upcoming = some pipe) (active : fq.pipes.InTurn pipe)
    (fetched : (fq.inpipes pipe).Fetched inpipe frame false) :
    ∃ message, { fq.fetch pipe inpipe false with
      received := fq.received ++ [(pipe, frame, false)] }.Receives
        (Function.update taken pipe (taken pipe ++ [message])) := by
  obtain ⟨message, content, frames⟩ := receives.message current active.1 fetched
  have finished : inpipe.inbox.rest = [] := by
    by_contra rest
    cases fetched.more.mpr rest
  rw [finished] at frames
  refine ⟨message, receives.goes_on, ?_, fun other => ?_, fun _ => ?_,
    fun other member _ => ?_, fun never => ?_⟩
  · rw [assembled_append, Outbox.put_last, ← frames]
    have next := receives.whole.next pipe message.frames
    have parts : Function.update (fun other => (taken other).map Message.frames) pipe
        ((taken pipe).map Message.frames ++ [message.frames]) =
        fun other => (Function.update taken pipe (taken pipe ++ [message]) other).map
          Message.frames := by
      funext other
      by_cases own : other = pipe
      · subst own
        simp
      · simp [own]
    rw [parts] at next
    exact next
  · by_cases own : other = pipe
    · subst own
      rw [Function.update_self]
      exact ⟨inpipe.inbox.waiting, by simp [Fq.fetch, setInpipe, content]⟩
    · rw [Function.update_of_ne own]
      exact receives.first other
  · rw [assembled_append, Outbox.put_last]
  · by_cases own : other = pipe
    · subst own
      simp only [Fq.fetch, setInpipe, Bool.false_eq_true, if_false, Function.update_self]
      exact ⟨finished, by simp [content]⟩
    · simp only [Fq.fetch, setInpipe, Bool.false_eq_true, if_false, Function.update_of_ne own]
      exact receives.others_rest current member own
  · cases never

theorem Receives.fetch {fq : Fq Pipe Frame} {taken : Pipe → List (Message Frame)}
    (receives : fq.Receives taken) {pipe : Pipe} {inpipe : Inpipe Frame} {frame : Frame}
    {more : Bool} (current : fq.pipes.upcoming = some pipe) (active : fq.pipes.InTurn pipe)
    (fetched : (fq.inpipes pipe).Fetched inpipe frame more) :
    ∃ taken', { fq.fetch pipe inpipe more with
      received := fq.received ++ [(pipe, frame, more)] }.Receives taken' := by
  cases more with
  | true => exact ⟨taken, receives.fetch_more current active fetched⟩
  | false =>
      obtain ⟨message, received⟩ := receives.fetch_last current active fetched
      exact ⟨_, received⟩

theorem Sound.fetch {fq : Fq Pipe Frame} (sound : fq.Sound) {pipe : Pipe} {inpipe : Inpipe Frame}
    {frame : Frame} {more : Bool} (active : fq.pipes.InTurn pipe)
    (fetched : (fq.inpipes pipe).Fetched inpipe frame more) : (fq.fetch pipe inpipe more).Sound := by
  have inpipes (other : Pipe) : (fq.fetch pipe inpipe more).inpipes other =
      if other = pipe then inpipe else fq.inpipes other := by
    unfold Fq.fetch
    split <;> exact Function.update_apply _ _ _ _
  have in_turn (other : Pipe) :
      (fq.fetch pipe inpipe more).pipes.InTurn other ↔ fq.pipes.InTurn other := by
    unfold Fq.fetch
    split <;> exact Iff.rfl
  have mem (other : Pipe) :
      other ∈ (fq.fetch pipe inpipe more).pipes.items ↔ other ∈ fq.pipes.items := by
    unfold Fq.fetch
    split <;> exact Iff.rfl
  refine ⟨?_, fun other turn => ?_, fun other member out => ?_⟩
  · unfold Fq.fetch
    split
    next => exact sound.pipes
    next => exact sound.pipes.advance (Nat.lt_of_le_of_lt (Nat.zero_le _) active.2)
  · rw [inpipes]
    split
    next => exact fetched.asleep
    next => exact sound.awake other ((in_turn other).mp turn)
  · rw [in_turn] at out
    have apart : other ≠ pipe := by
      rintro rfl
      exact out active
    rw [inpipes, if_neg apart]
    exact sound.passive other ((mem other).mp member) out

/-- What recvpipe does: it skips to a frame and fetches it, or finds nothing. -/
theorem recvpipe_spec {fq : Fq Pipe Frame} {taken : Pipe → List (Message Frame)}
    (sound : fq.Sound) (receives : fq.Receives taken) :
    ∃ middle, Skips fq middle ∧ middle.Receives taken ∧
      ((fq.recvpipe = (middle, none) ∧ middle.pipes.active = 0 ∧ fq.more = false) ∨
        ∃ pipe inpipe frame more, middle.pipes.upcoming = some pipe ∧
          middle.pipes.InTurn pipe ∧ (middle.inpipes pipe).Fetched inpipe frame more ∧
          fq.recvpipe = (middle.fetch pipe inpipe more, some (pipe, frame, more))) := by
  cases reading : fq.more with
  | false =>
      obtain ⟨middle, skips, ends⟩ := recvLoop_spec sound rfl reading
      refine ⟨middle, skips, receives.skips reading skips, ?_⟩
      rcases ends with ⟨same, empty⟩ | ⟨pipe, inpipe, frame, more, current, active, read, same⟩
      · exact .inl ⟨same, empty, rfl⟩
      · exact .inr ⟨pipe, inpipe, frame, more, current, active, Inpipe.read_some read, same⟩
  | true =>
      -- A message that has begun is at hand.
      obtain ⟨pipe, message, current, active, goes_on, -, -, rest⟩ := receives.begun reading
      refine ⟨fq, .refl sound, receives, .inr ?_⟩
      have awake := sound.awake pipe active
      obtain ⟨count, positive⟩ : ∃ count, fq.pipes.active = count + 1 :=
        Nat.exists_eq_succ_of_ne_zero (Nat.ne_of_gt (Nat.lt_of_le_of_lt (Nat.zero_le _) active.2))
      cases outcome : (fq.inpipes pipe).read with
      | mk inpipe fetched =>
          cases fetched with
          | none =>
              rcases (Inpipe.read_none outcome).idle with asleep | ended | empty
              · cases awake.symm.trans asleep
              · cases goes_on.symm.trans ended
              · rw [empty] at rest
                exact absurd rfl rest
          | some fetched =>
              obtain ⟨frame, more⟩ := fetched
              refine ⟨pipe, inpipe, frame, more, current, active, Inpipe.read_some outcome, ?_⟩
              rw [recvpipe, positive, recvLoop]
              simp only [current, outcome]

/-- The pipe of a message that is being read does not end, and what terminates does not move it. -/
def Steady (fq : Fq Pipe Frame) : Action Pipe Frame → Prop
  | .ended pipe => fq.more = true → fq.pipes.upcoming ≠ some pipe
  | .terminated pipe => fq.more = true → fq.pipes.upcoming ≠ some pipe ∧
      (fq.pipes.InTurn pipe → fq.pipes.current + 1 = fq.pipes.active → fq.pipes.place pipe = 0)
  | _ => True

theorem attach_eq {fq : Fq Pipe Frame} (sound : fq.pipes.Sound) {pipe : Pipe}
    (new : pipe ∉ fq.pipes.items) (inpipe : Inpipe Frame) :
    (fq.setInpipe pipe inpipe).attach pipe = { fq with
      pipes := (fq.pipes.pushBack pipe).enter pipe
      inpipes := Function.update fq.inpipes pipe inpipe } := by
  have pushed := (sound.pushBack new).1
  have place : (fq.pipes.pushBack pipe).place pipe = (fq.pipes.pushBack pipe).items.length - 1 := by
    simp [Rota.pushBack]
  simp only [Fq.attach, setInpipe, Rota.enter]
  rw [place, Rota.swap_comm pushed]

-- A change of a pipe that leaves it as awake and at least as ended as it was.
theorem Sound.setInpipe {fq : Fq Pipe Frame} (sound : fq.Sound) {pipe : Pipe}
    {inpipe : Inpipe Frame} (asleep : inpipe.asleep = (fq.inpipes pipe).asleep)
    (ended : (fq.inpipes pipe).ended = true → inpipe.ended = true) :
    (fq.setInpipe pipe inpipe).Sound := by
  refine ⟨sound.pipes, fun other turn => ?_, fun other member out => ?_⟩
  · by_cases own : other = pipe
    · subst own
      simp only [Fq.setInpipe, Function.update_self]
      rw [asleep]
      exact sound.awake other turn
    · simp only [Fq.setInpipe, Function.update_of_ne own]
      exact sound.awake other turn
  · by_cases own : other = pipe
    · subst own
      simp only [Fq.setInpipe, Function.update_self]
      rw [asleep]
      exact (sound.passive other member out).imp_right ended
    · simp only [Fq.setInpipe, Function.update_of_ne own]
      exact sound.passive other member out

-- A pipe comes in turn, one of those that sleep or a new one.
theorem Sound.entered {fq : Fq Pipe Frame} {pipes : Rota Pipe} {pipe : Pipe}
    {inpipe : Inpipe Frame} (sound : fq.Sound) (after : pipes.Sound)
    (mem : ∀ other ∈ pipes.items, other ∈ fq.pipes.items ∨ other = pipe)
    (in_turn : ∀ other, pipes.InTurn other ↔ fq.pipes.InTurn other ∨ other = pipe)
    (awake : inpipe.asleep = false) :
    { fq with pipes, inpipes := Function.update fq.inpipes pipe inpipe }.Sound := by
  refine ⟨after, fun other turn => ?_, fun other member out => ?_⟩
  · simp only [Function.update_apply]
    split
    next => exact awake
    next apart =>
      rcases (in_turn other).mp turn with before | own
      · exact sound.awake other before
      · exact absurd own apart
  · have apart : other ≠ pipe := fun own => out ((in_turn other).mpr (.inr own))
    simp only [Function.update_of_ne apart]
    rcases mem other member with before | own
    · exact sound.passive other before fun turn => out ((in_turn other).mpr (.inl turn))
    · exact absurd own apart

omit [DecidableEq Pipe] in
theorem Sound.asleep_passive {fq : Fq Pipe Frame} (sound : fq.Sound) {pipe : Pipe}
    (member : pipe ∈ fq.pipes.items) (asleep : (fq.inpipes pipe).asleep = true) :
    fq.pipes.active ≤ fq.pipes.place pipe := by
  by_contra less
  have awake := sound.awake pipe ⟨member, Nat.lt_of_not_le less⟩
  cases awake.symm.trans asleep

theorem Sound.terminated {fq : Fq Pipe Frame} (sound : fq.Sound) {pipe : Pipe}
    (member : pipe ∈ fq.pipes.items) : (fq.pipeTerminated pipe).Sound := by
  obtain ⟨removed, -⟩ := sound.pipes.remove member
  refine ⟨removed.sound, fun other turn => ?_, fun other there out => ?_⟩
  · exact sound.awake other ((removed.inTurn other).mp turn).1
  · obtain ⟨before, apart⟩ := (removed.mem other).mp there
    exact sound.passive other before fun turn => out ((removed.inTurn other).mpr ⟨turn, apart⟩)

theorem Skips.hasIn {fq : Fq Pipe Frame} (sound : fq.Sound)
    (between : fq.more = false) : Skips fq fq.hasIn.1 := by
  obtain ⟨middle, skips, same⟩ := hasInLoop_spec sound rfl
  rw [Fq.hasIn, if_neg (by simp [between]), same]
  exact skips

theorem Sound.step {fq next : Fq Pipe Frame} {action : Action Pipe Frame}
    {taken : Pipe → List (Message Frame)} (sound : fq.Sound) (receives : fq.Receives taken)
    (moved : Fq.step fq action = some next) : next.Sound := by
  cases step_moves moved with
  | attach pipe new _ =>
      obtain ⟨attached, mem, -, in_turn, -⟩ := sound.pipes.attach new
      rw [attach_eq sound.pipes new]
      exact sound.entered attached (fun other member => (mem other).mp member) in_turn rfl
  | flush pipe message =>
      have kept : (fq.setInpipe pipe { fq.inpipes pipe with
          inbox := (fq.inpipes pipe).inbox.arrive message }).Sound := sound.setInpipe rfl id
      exact ⟨kept.pipes, kept.awake, kept.passive⟩
  | activateRead pipe member asleep =>
      have entered := sound.pipes.enter member (sound.asleep_passive member asleep)
      exact sound.entered entered.sound
        (fun other there => .inl ((entered.mem other).mp there)) entered.inTurn rfl
  | ended pipe => exact sound.setInpipe rfl fun _ => rfl
  | terminated pipe member => exact sound.terminated member
  | nothing _ outcome =>
      obtain ⟨middle, skips, -, ends⟩ := recvpipe_spec sound receives
      rcases ends with ⟨same, -⟩ | ⟨_, _, _, _, -, -, -, same⟩
      · cases same.symm.trans outcome
        exact skips.sound
      · cases same.symm.trans outcome
  | recv _ _ outcome =>
      obtain ⟨middle, skips, -, ends⟩ := recvpipe_spec sound receives
      rcases ends with ⟨same, -⟩ | ⟨pipe, inpipe, frame, more, -, active, fetched, same⟩
      · cases same.symm.trans outcome
      · cases same.symm.trans outcome
        have after := skips.sound.fetch active fetched
        exact ⟨after.pipes, after.awake, after.passive⟩
  | hasIn =>
      cases between : fq.more with
      | true =>
          rw [Fq.hasIn, if_pos between]
          exact sound
      | false => exact (Skips.hasIn sound between).sound

theorem Receives.flush {fq : Fq Pipe Frame} {taken : Pipe → List (Message Frame)}
    (receives : fq.Receives taken) (pipe : Pipe) (message : Message Frame) :
    let inpipe := fq.inpipes pipe
    { fq.setInpipe pipe { inpipe with inbox := inpipe.inbox.arrive message } with
      flushed := Function.update fq.flushed pipe (fq.flushed pipe ++ [message]) }.Receives taken := by
  refine ⟨receives.goes_on, receives.whole, fun other => ?_, receives.between,
    fun other member idle => ?_, fun reading => ?_⟩
  · by_cases own : other = pipe
    · subst own
      simp only [Function.update_self]
      exact List.IsPrefix.trans (receives.first other) (List.prefix_append _ _)
    · simp only [Function.update_of_ne own]
      exact receives.first other
  · obtain ⟨rest, content⟩ := receives.others other member idle
    by_cases own : other = pipe
    · subst own
      simp [setInpipe, Inbox.arrive, rest, content]
    · simp [setInpipe, own, rest, content]
  · obtain ⟨own, begun, current, active, goes_on, content, frames, rest⟩ := receives.begun reading
    refine ⟨own, begun, current, active, ?_⟩
    by_cases same : own = pipe
    · subst same
      simp [setInpipe, Inbox.arrive, goes_on, content, frames, rest]
    · simp [setInpipe, same, goes_on, content, frames, rest]

theorem Receives.attach {fq : Fq Pipe Frame} {taken : Pipe → List (Message Frame)}
    (receives : fq.Receives taken) (sound : fq.Sound) {pipe : Pipe} (new : pipe ∉ fq.pipes.items)
    (unused : fq.flushed pipe = []) : ((fq.setInpipe pipe {}).attach pipe).Receives taken := by
  obtain ⟨-, mem, -, in_turn, -, -, upcoming⟩ := sound.pipes.attach new
  rw [attach_eq sound.pipes new]
  refine receives.kept rfl rfl rfl rfl (fun other member => ?_) ?_
  · by_cases own : other = pipe
    · subst own
      exact .inr ⟨unused, by simp⟩
    · have before := ((mem other).mp member).resolve_right own
      exact .inl ⟨before, by simp [own]⟩
  · intro other reading current active goes_on
    have apart : other ≠ pipe := by
      rintro rfl
      exact new active.1
    refine ⟨?_, (in_turn other).mpr (.inl active), ?_, ?_⟩
    · rw [← current]
      exact upcoming (Nat.lt_of_le_of_lt (Nat.zero_le _) active.2)
    · simp [apart]
    · simp [apart, goes_on]

theorem Receives.activated {fq : Fq Pipe Frame} {taken : Pipe → List (Message Frame)}
    (receives : fq.Receives taken) (sound : fq.Sound) {pipe : Pipe} (member : pipe ∈ fq.pipes.items)
    (asleep : (fq.inpipes pipe).asleep = true) :
    ((fq.setInpipe pipe { fq.inpipes pipe with asleep := false }).activated pipe).Receives
      taken := by
  have passive := sound.asleep_passive member asleep
  have entered := sound.pipes.enter member passive
  apply receives.changed
  · rfl
  · exact fun other there => (entered.mem other).mp there
  · intro other _ current active
    refine ⟨?_, ?_, (entered.inTurn other).mpr (.inl active)⟩
    · rintro rfl
      exact absurd active.2 (Nat.not_lt.mpr passive)
    · rw [← current]
      exact entered.upcoming (Nat.lt_of_le_of_lt (Nat.zero_le _) active.2)

theorem Receives.ended {fq : Fq Pipe Frame} {taken : Pipe → List (Message Frame)}
    (receives : fq.Receives taken) {pipe : Pipe} (steady : fq.Steady (.ended pipe)) :
    (fq.setInpipe pipe { fq.inpipes pipe with ended := true }).Receives taken := by
  apply receives.changed
  · rfl
  · exact fun _ => id
  · intro other reading current active
    refine ⟨?_, current, active⟩
    rintro rfl
    exact steady reading current

theorem Receives.terminated {fq : Fq Pipe Frame} {taken : Pipe → List (Message Frame)}
    (receives : fq.Receives taken) (sound : fq.Sound) {pipe : Pipe} (member : pipe ∈ fq.pipes.items)
    (steady : fq.Steady (.terminated pipe)) : (fq.pipeTerminated pipe).Receives taken := by
  obtain ⟨removed, upcoming⟩ := sound.pipes.remove member
  refine receives.kept rfl rfl rfl rfl (fun other there => .inl ⟨?_, rfl⟩) ?_
  · exact ((removed.mem other).mp there).1
  · intro other reading current active goes_on
    obtain ⟨apart, front⟩ := steady reading
    have other_pipe : other ≠ pipe := by
      rintro rfl
      exact apart current
    refine ⟨?_, (removed.inTurn other).mpr ⟨active, other_pipe⟩, rfl, goes_on⟩
    rw [← current]
    exact upcoming apart (Nat.lt_of_le_of_lt (Nat.zero_le _) active.2) front

theorem Receives.step {fq next : Fq Pipe Frame} {action : Action Pipe Frame}
    {taken : Pipe → List (Message Frame)} (sound : fq.Sound) (receives : fq.Receives taken)
    (steady : fq.Steady action) (moved : Fq.step fq action = some next) :
    ∃ taken', next.Receives taken' := by
  cases step_moves moved with
  | attach pipe new unused => exact ⟨taken, receives.attach sound new unused⟩
  | flush pipe message => exact ⟨taken, receives.flush pipe message⟩
  | activateRead pipe member asleep => exact ⟨taken, receives.activated sound member asleep⟩
  | ended pipe => exact ⟨taken, receives.ended steady⟩
  | terminated pipe member => exact ⟨taken, receives.terminated sound member steady⟩
  | nothing _ outcome =>
      obtain ⟨middle, -, still, ends⟩ := recvpipe_spec sound receives
      rcases ends with ⟨same, -⟩ | ⟨_, _, _, _, -, -, -, same⟩
      · cases same.symm.trans outcome
        exact ⟨taken, still⟩
      · cases same.symm.trans outcome
  | recv _ _ outcome =>
      obtain ⟨middle, skips, still, ends⟩ := recvpipe_spec sound receives
      rcases ends with ⟨same, -⟩ | ⟨pipe, inpipe, frame, more, current, active, fetched, same⟩
      · cases same.symm.trans outcome
      · cases same.symm.trans outcome
        have received : middle.received = fq.received := by rw [skips.frame]
        rw [← received]
        exact still.fetch current active fetched
  | hasIn =>
      cases between : fq.more with
      | true =>
          rw [Fq.hasIn, if_pos between]
          exact ⟨taken, receives⟩
      | false => exact ⟨taken, receives.skips between (Skips.hasIn sound between)⟩

theorem steady_run {fq final : Fq Pipe Frame} {actions : List (Action Pipe Frame)}
    {taken : Pipe → List (Message Frame)} (sound : fq.Sound) (receives : fq.Receives taken)
    (steady : Along Fq.step Steady fq actions) (reached : run Fq.step fq actions = some final) :
    final.Sound ∧ ∃ taken', final.Receives taken' := by
  apply run_invariant (fun fq : Fq Pipe Frame => fq.Sound ∧ ∃ taken, fq.Receives taken) _
    ⟨sound, taken, receives⟩ steady reached
  rintro fq action next ⟨sound, taken, receives⟩ steady moved
  exact ⟨sound.step receives moved, receives.step sound steady moved⟩

/-- As long as the pipe of a message that is being read stays, every message comes whole, and the
messages of each pipe in the order in which they were flushed. -/
theorem receives_whole {final : Fq Pipe Frame} {actions : List (Action Pipe Frame)}
    (steady : Along Fq.step Steady {} actions) (reached : run Fq.step {} actions = some final) :
    ∃ taken, final.Receives taken :=
  (steady_run sound_initial receives_initial steady reached).2

def steadyCheck (fq : Fq Pipe Frame) : Action Pipe Frame → Bool
  | .ended _ | .terminated _ => !fq.more
  | _ => true

omit [DecidableEq Pipe] in
theorem steady_of_check {fq : Fq Pipe Frame} {action : Action Pipe Frame}
    (checked : fq.steadyCheck action = true) : fq.Steady action := by
  cases action with
  | ended pipe =>
      intro reading
      simp [steadyCheck, reading] at checked
  | terminated pipe =>
      intro reading
      simp [steadyCheck, reading] at checked
  | _ => trivial

theorem steady_of_accepts {fq : Fq Pipe Frame} {actions : List (Action Pipe Frame)}
    (accepted : accepts Fq.step steadyCheck fq actions = true) :
    Along Fq.step Steady fq actions :=
  along_of_accepts (fun _ => True) steadyCheck (fun _ _ _ _ _ _ => trivial)
    (fun _ _ _ checked => steady_of_check checked) trivial accepted

-- Two pipes of which one falls asleep between its messages, and one that terminates.
def twoPipes : List (Action Nat Nat) :=
  [.attach 1, .attach 2, .attach 3, .flush 1 ⟨10, [11]⟩, .recv, .flush 2 ⟨20, []⟩, .recv,
    .terminated 3, .recv, .recv, .flush 1 ⟨12, []⟩, .activateRead 1, .hasIn, .recv]

theorem receives_whole_two : ∃ final : Fq Nat Nat, run Fq.step {} twoPipes = some final ∧
    (assembled final.received).sent = [[10, 11], [20], [12]] ∧
      ∃ taken, final.Receives taken := by
  have accepted : (run Fq.step {} twoPipes).any
      (fun fq => (assembled fq.received).sent = [[10, 11], [20], [12]]) = true := by decide
  obtain ⟨final, reached, content⟩ := reached_of_check accepted
  have steady : Along Fq.step Steady {} twoPipes := steady_of_accepts (by decide)
  exact ⟨final, reached, by simpa using content, receives_whole steady reached⟩

-- A pipe that terminates while the last of those in turn is read from makes the first the current
-- one: what the application puts together is the head of one message and all of another.
example : (run Fq.step ({} : Fq Nat Nat) [.attach 1, .attach 2, .attach 3, .flush 1 ⟨10, []⟩,
    .flush 2 ⟨20, []⟩, .flush 3 ⟨30, [31]⟩, .recv, .recv, .recv, .flush 1 ⟨12, []⟩, .terminated 2,
    .recv]).map (fun fq => (assembled fq.received).sent) = some [[10], [20], [30, 12]] := by
  decide

/-- EAGAIN says that there is nothing to read in any pipe that is awake, and has_in agrees. -/
theorem nothing_overlooked {final : Fq Pipe Frame} {actions : List (Action Pipe Frame)}
    (steady : Along Fq.step Steady {} actions) (reached : run Fq.step {} actions = some final) :
    (final.recvpipe.2 = none → ∀ pipe ∈ final.pipes.items, (final.inpipes pipe).asleep = false →
      (final.inpipes pipe).ended = false → (final.inpipes pipe).inbox = {}) ∧
      final.hasIn.2 = final.recvpipe.2.isSome ∧ final.recvpipe.1.aborted = false := by
  obtain ⟨sound, taken, receives⟩ := steady_run sound_initial receives_initial steady reached
  obtain ⟨middle, skips, still, ends⟩ := recvpipe_spec sound receives
  refine ⟨fun nothing pipe member awake goes_on => ?_, ?_, ?_⟩
  · rcases ends with ⟨-, empty, -⟩ | ⟨pipe, inpipe, frame, more, -, -, -, same⟩
    · by_contra some_left
      have active : final.pipes.InTurn pipe := by
        by_contra out
        rcases sound.passive pipe member out with asleep | ended
        · cases awake.symm.trans asleep
        · cases goes_on.symm.trans ended
      have turn := (skips.ready pipe ⟨active, goes_on, some_left⟩).1
      rw [Rota.InTurn, empty] at turn
      exact absurd turn.2 (Nat.not_lt_zero _)
    · rw [same] at nothing
      cases nothing
  · rcases ends with ⟨-, -, between⟩ | ⟨pipe, inpipe, frame, more, -, -, -, same⟩
    · unfold Fq.hasIn
      rw [if_neg (by rw [between]; exact Bool.false_ne_true)]
      exact hasInLoop_eq _ between
    · cases reading : final.more with
      | false =>
          unfold Fq.hasIn
          rw [if_neg (by rw [reading]; exact Bool.false_ne_true)]
          exact hasInLoop_eq _ reading
      | true =>
          rw [same]
          simp [Fq.hasIn, reading]
  · rcases ends with ⟨same, -⟩ | ⟨pipe, inpipe, frame, more, -, -, -, same⟩
    · rw [same]
      exact still.goes_on
    · rw [same]
      unfold Fq.fetch
      split <;> exact still.goes_on

theorem nothing_overlooked_two : ∃ final : Fq Nat Nat, run Fq.step {} twoPipes = some final ∧
    final.recvpipe.2 = none ∧ final.hasIn.2 = false ∧
    ∀ pipe ∈ final.pipes.items, (final.inpipes pipe).asleep = false →
      (final.inpipes pipe).ended = false → (final.inpipes pipe).inbox = {} := by
  have accepted : (run Fq.step {} twoPipes).any
      (fun fq => fq.recvpipe.2 = none) = true := by decide
  obtain ⟨final, reached, nothing⟩ := reached_of_check accepted
  simp only [decide_eq_true_eq] at nothing
  have steady : Along Fq.step Steady {} twoPipes := steady_of_accepts (by decide)
  obtain ⟨empty, agree, -⟩ := nothing_overlooked steady reached
  refine ⟨final, reached, nothing, ?_, empty nothing⟩
  rw [agree, nothing]
  rfl

/-- No pipe terminates meanwhile, and this one does not end. -/
def Patient (pipe : Pipe) : Action Pipe Frame → Prop
  | .terminated _ => False
  | .ended other => other ≠ pipe
  | _ => True

def finished (received : List (Pipe × Frame × Bool)) : Nat :=
  received.countP fun entry => !entry.2.2

/-- The pipe is read from, or each message of another pipe brings it closer to its turn. -/
def Nearer (fq next : Fq Pipe Frame) (pipe : Pipe) : Prop :=
  ∃ later, next.received = fq.received ++ later ∧ (pipe ∈ later.map Prod.fst ∨
    next.Ready pipe ∧ next.pipes.ahead pipe + finished later + fq.pipes.items.length ≤
      fq.pipes.ahead pipe + next.pipes.items.length)

omit [DecidableEq Pipe] in
theorem Nearer.of_ready {fq next : Fq Pipe Frame} {pipe : Pipe}
    (received : next.received = fq.received) (ready : next.Ready pipe)
    (ahead : next.pipes.ahead pipe + fq.pipes.items.length ≤
      fq.pipes.ahead pipe + next.pipes.items.length) : Nearer fq next pipe :=
  ⟨[], by rw [received, List.append_nil], .inr ⟨ready, by simpa [finished] using ahead⟩⟩

theorem Ready.attach {fq : Fq Pipe Frame} {pipe other : Pipe} (ready : fq.Ready pipe)
    (sound : fq.Sound) (new : other ∉ fq.pipes.items) :
    Nearer fq ((fq.setInpipe other {}).attach other) pipe := by
  obtain ⟨active, goes_on, some_left⟩ := ready
  obtain ⟨-, -, length, in_turn, current, place, -⟩ := sound.pipes.attach new
  rw [attach_eq sound.pipes new]
  have apart : pipe ≠ other := by
    rintro rfl
    exact new active.1
  refine .of_ready rfl ⟨(in_turn pipe).mpr (.inl active), ?_, ?_⟩ ?_
  · simpa [apart] using goes_on
  · simpa [apart] using some_left
  · have short := sound.pipes.active
    have before := sound.pipes.current
    simp only [Rota.ahead]
    rw [length, current, place pipe active]
    split <;> omega

theorem Ready.flush {fq : Fq Pipe Frame} {pipe : Pipe} (ready : fq.Ready pipe) (other : Pipe)
    (message : Message Frame) (flushed : Pipe → List (Message Frame)) :
    Nearer fq { fq.setInpipe other { fq.inpipes other with
      inbox := (fq.inpipes other).inbox.arrive message } with flushed } pipe := by
  obtain ⟨active, goes_on, some_left⟩ := ready
  refine .of_ready rfl ⟨active, ?_, ?_⟩ (Nat.le_refl _)
  · by_cases own : pipe = other
    · subst own
      simpa [setInpipe] using goes_on
    · simpa [setInpipe, own] using goes_on
  · by_cases own : pipe = other
    · subst own
      simp [setInpipe, Inbox.arrive]
    · simpa [setInpipe, own] using some_left

theorem Ready.activated {fq : Fq Pipe Frame} {pipe other : Pipe} (ready : fq.Ready pipe)
    (sound : fq.Sound) (member : other ∈ fq.pipes.items)
    (asleep : (fq.inpipes other).asleep = true) :
    Nearer fq ((fq.setInpipe other { fq.inpipes other with asleep := false }).activated other)
      pipe := by
  obtain ⟨active, goes_on, some_left⟩ := ready
  have entered := sound.pipes.enter member (sound.asleep_passive member asleep)
  have apart : pipe ≠ other := by
    rintro rfl
    cases (sound.awake pipe active).symm.trans asleep
  refine .of_ready rfl ⟨(entered.inTurn pipe).mpr (.inl active), ?_, ?_⟩ ?_
  · simpa [Fq.activated, setInpipe, apart] using goes_on
  · simpa [Fq.activated, setInpipe, apart] using some_left
  · have same := entered.ahead_eq active
    have length := entered.length
    simp only [Fq.activated, setInpipe]
    omega

theorem Ready.ended {fq : Fq Pipe Frame} {pipe other : Pipe} (ready : fq.Ready pipe)
    (apart : pipe ≠ other) :
    Nearer fq (fq.setInpipe other { fq.inpipes other with ended := true }) pipe := by
  refine .of_ready rfl ⟨ready.1, ?_, ?_⟩ (Nat.le_refl _)
  · simpa [setInpipe, apart] using ready.2.1
  · simpa [setInpipe, apart] using ready.2.2

theorem Ready.fetch {fq : Fq Pipe Frame} {pipe other : Pipe} (ready : fq.Ready pipe)
    (sound : fq.Sound) (current : fq.pipes.upcoming = some other) (inpipe : Inpipe Frame)
    (frame : Frame) (more : Bool) : Nearer fq
      { fq.fetch other inpipe more with received := fq.received ++ [(other, frame, more)] }
      pipe := by
  refine ⟨[(other, frame, more)], rfl, ?_⟩
  by_cases own : other = pipe
  · exact .inl (by simp [own])
  have kept : (fq.fetch other inpipe more).inpipes pipe = fq.inpipes pipe := by
    unfold Fq.fetch
    split <;> exact Function.update_of_ne (Ne.symm own) _ _
  refine .inr ⟨⟨?_, ?_, ?_⟩, ?_⟩
  · unfold Fq.fetch
    split <;> exact ready.1
  · dsimp only
    rw [kept]
    exact ready.2.1
  · dsimp only
    rw [kept]
    exact ready.2.2
  · cases more with
    | true => simp [Fq.fetch, setInpipe, finished]
    | false =>
        have other_current : fq.pipes.upcoming ≠ some pipe := by
          rw [current]
          exact fun same => own (Option.some.inj same)
        have advanced := sound.pipes.advance_ahead ready.1 other_current
        have same_length : fq.pipes.advance.items.length = fq.pipes.items.length := rfl
        simp only [Fq.fetch, setInpipe, Bool.false_eq_true, if_false, finished,
          List.countP_singleton, Bool.not_false, if_true]
        omega

omit [DecidableEq Pipe] in
-- What the loops skip first brings the pipe no further from its turn.
theorem Nearer.skips {fq middle next : Fq Pipe Frame} {pipe : Pipe} (skips : Skips fq middle)
    (ready : fq.Ready pipe) (nearer : Nearer middle next pipe) : Nearer fq next pipe := by
  obtain ⟨later, received, outcome⟩ := nearer
  have same : middle.received = fq.received := by rw [skips.frame]
  refine ⟨later, by rw [received, same], outcome.imp_right fun ⟨still, closer⟩ => ⟨still, ?_⟩⟩
  have skipped := (skips.ready pipe ready).2
  have length := skips.length
  omega

theorem Ready.step {fq next : Fq Pipe Frame} {action : Action Pipe Frame}
    {taken : Pipe → List (Message Frame)} {pipe : Pipe} (ready : fq.Ready pipe) (sound : fq.Sound)
    (receives : fq.Receives taken) (patient : Patient pipe action)
    (moved : Fq.step fq action = some next) : Nearer fq next pipe := by
  cases step_moves moved with
  | attach other new _ => exact ready.attach sound new
  | flush other message => exact ready.flush other message _
  | activateRead other member asleep => exact ready.activated sound member asleep
  | ended other => exact ready.ended (Ne.symm patient)
  | terminated other => exact absurd patient not_false
  | nothing _ outcome =>
      obtain ⟨middle, skips, -, ends⟩ := recvpipe_spec sound receives
      rcases ends with ⟨-, empty, -⟩ | ⟨_, _, _, _, -, -, -, same⟩
      · have within := (skips.ready pipe ready).1.2
        omega
      · cases same.symm.trans outcome
  | recv _ _ outcome =>
      obtain ⟨middle, skips, -, ends⟩ := recvpipe_spec sound receives
      rcases ends with ⟨same, -⟩ | ⟨other, inpipe, frame, more, current, -, -, same⟩
      · cases same.symm.trans outcome
      · cases same.symm.trans outcome
        have received : middle.received = fq.received := by rw [skips.frame]
        rw [← received]
        exact .skips skips ready
          ((skips.ready_after ready).fetch skips.sound current inpipe frame more)
  | hasIn =>
      cases between : fq.more with
      | true =>
          rw [Fq.hasIn, if_pos between]
          exact .of_ready rfl ready (Nat.le_refl _)
      | false =>
          have skips := Skips.hasIn sound between
          exact .skips skips ready
            (.of_ready rfl (skips.ready_after ready) (Nat.le_refl _))

theorem recvLoop_received (fuel : Nat) (fq : Fq Pipe Frame) :
    (fq.recvLoop fuel).1.received = fq.received := by
  induction fuel generalizing fq with
  | zero => rfl
  | succ fuel ih =>
      unfold recvLoop
      split
      next => rfl
      next =>
        split
        next =>
          unfold Fq.fetch
          split <;> rfl
        next =>
          split
          next => rfl
          next => exact ih _

theorem hasInLoop_received (fuel : Nat) (fq : Fq Pipe Frame) :
    (fq.hasInLoop fuel).1.received = fq.received := by
  induction fuel generalizing fq with
  | zero => rfl
  | succ fuel ih =>
      unfold hasInLoop
      split
      next => rfl
      next =>
        split
        next => rfl
        next => exact ih _

theorem run_received {fq final : Fq Pipe Frame} {actions : List (Action Pipe Frame)}
    (reached : Transition.run Fq.step fq actions = some final) :
    fq.received <+: final.received := by
  refine run_invariant (fun state : Fq Pipe Frame => fq.received <+: state.received) ?_
    (List.prefix_refl _) (along_true fq actions) reached
  intro state action next grown _ moved
  cases step_moves moved with
  | nothing _ outcome =>
      have same := recvLoop_received state.pipes.active state
      rw [← Fq.recvpipe, outcome] at same
      rw [same]
      exact grown
  | recv => exact List.IsPrefix.trans grown (List.prefix_append _ _)
  | hasIn =>
      unfold Fq.hasIn
      split
      next => exact grown
      next =>
        rw [hasInLoop_received]
        exact grown
  | _ => exact grown

theorem Ready.run {fq final : Fq Pipe Frame} {actions : List (Action Pipe Frame)}
    {taken : Pipe → List (Message Frame)} {pipe : Pipe} (ready : fq.Ready pipe) (sound : fq.Sound)
    (receives : fq.Receives taken) (patient : ∀ action ∈ actions, Patient pipe action)
    (steady : Along Fq.step Steady fq actions)
    (reached : Transition.run Fq.step fq actions = some final) : Nearer fq final pipe := by
  induction actions generalizing fq taken with
  | nil =>
      cases reached
      exact .of_ready rfl ready (Nat.le_refl _)
  | cons action rest ih =>
      obtain ⟨next, moved, remaining⟩ := run_cons_some.mp reached
      obtain ⟨first, received, outcome⟩ :=
        ready.step sound receives (patient action (by simp)) moved
      have patient_rest : ∀ action ∈ rest, Patient pipe action :=
        fun action member => patient action (by simp [member])
      rcases outcome with own | ⟨still, closer⟩
      · obtain ⟨later, all⟩ := run_received remaining
        refine ⟨first ++ later, by rw [← all, received, List.append_assoc], .inl ?_⟩
        rw [List.map_append]
        exact List.mem_append_left _ own
      · obtain ⟨taken', receives_next⟩ := receives.step sound steady.1 moved
        obtain ⟨later, all, outcome⟩ := ih still (sound.step receives moved) receives_next
          patient_rest (steady.2 next moved) remaining
        refine ⟨first ++ later, by rw [all, received, List.append_assoc], ?_⟩
        rcases outcome with own | ⟨ready_final, later_closer⟩
        · rw [List.map_append]
          exact .inl (List.mem_append_right _ own)
        · refine .inr ⟨ready_final, ?_⟩
          simp only [finished, List.countP_append] at closer later_closer ⊢
          omega

/-- Nobody starves: of a pipe that has something to read a frame is read before as many messages of
other pipes as there are pipes. -/
theorem turn_comes {fq final : Fq Pipe Frame} {before actions : List (Action Pipe Frame)}
    {pipe : Pipe} (steady : Along Fq.step Steady {} (before ++ actions))
    (began : Transition.run Fq.step {} before = some fq) (member : pipe ∈ fq.pipes.items)
    (awake : (fq.inpipes pipe).asleep = false) (goes_on : (fq.inpipes pipe).ended = false)
    (some_left : (fq.inpipes pipe).inbox ≠ {}) (patient : ∀ action ∈ actions, Patient pipe action)
    (reached : Transition.run Fq.step fq actions = some final) :
    ∃ later, final.received = fq.received ++ later ∧
      (pipe ∈ later.map Prod.fst ∨ finished later < final.pipes.items.length) := by
  obtain ⟨steady_before, steady_after⟩ := along_append began steady
  obtain ⟨sound, taken, receives⟩ :=
    steady_run sound_initial receives_initial steady_before began
  have active : fq.pipes.InTurn pipe := by
    by_contra out
    rcases sound.passive pipe member out with asleep | ended
    · cases awake.symm.trans asleep
    · cases goes_on.symm.trans ended
  have ready : fq.Ready pipe := ⟨active, goes_on, some_left⟩
  obtain ⟨later, all, outcome⟩ :=
    ready.run sound receives patient steady_after reached
  refine ⟨later, all, outcome.imp_right fun closer => ?_⟩
  have close := sound.pipes.ahead_lt active
  omega

def threePipes : List (Action Nat Nat) :=
  [.attach 1, .attach 2, .attach 3, .flush 1 ⟨10, []⟩, .recv, .flush 1 ⟨11, []⟩,
    .flush 2 ⟨20, [21]⟩, .flush 3 ⟨30, []⟩, .flush 2 ⟨22, []⟩]

theorem turn_comes_three : ∃ fq final : Fq Nat Nat, Transition.run Fq.step {} threePipes = some fq ∧
    Transition.run Fq.step fq [.recv, .recv, .attach 4, .recv] = some final ∧
    ∃ later, final.received = fq.received ++ later ∧
      (1 ∈ later.map Prod.fst ∨ finished later < final.pipes.items.length) := by
  have accepted : (Transition.run Fq.step ({} : Fq Nat Nat) threePipes).any (fun fq =>
      1 ∈ fq.pipes.items ∧ (fq.inpipes 1).asleep = false ∧ (fq.inpipes 1).ended = false ∧
        (fq.inpipes 1).inbox ≠ {}) = true := by decide
  have goes_on : (Transition.run Fq.step ({} : Fq Nat Nat)
      (threePipes ++ [.recv, .recv, .attach 4, .recv])).any (fun _ => true) = true := by decide
  obtain ⟨fq, began, waits⟩ := reached_of_check accepted
  simp only [decide_eq_true_eq] at waits
  obtain ⟨final, all, -⟩ := reached_of_check goes_on
  obtain ⟨same, began_same, reached⟩ := run_append_some.mp all
  obtain rfl := Option.some.inj (began.symm.trans began_same)
  have steady : Along Fq.step Steady ({} : Fq Nat Nat)
      (threePipes ++ [.recv, .recv, .attach 4, .recv]) := steady_of_accepts (by decide)
  have patient : ∀ action ∈ ([.recv, .recv, .attach 4, .recv] : List (Action Nat Nat)),
      Patient 1 action := by
    simp [Patient]
  exact ⟨fq, final, began, reached,
    turn_comes steady began waits.1 waits.2.1 waits.2.2.1 waits.2.2.2 patient reached⟩

end Fq

end Zmqcpp
