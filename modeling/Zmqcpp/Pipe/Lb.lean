import Zmqcpp.Shared.Interleaving
import Zmqcpp.Shared.Multipart
import Zmqcpp.Shared.Rota
import Zmqcpp.Shared.Transition

set_option autoImplicit false

namespace Zmqcpp

open Multipart Transition

structure Outpipe (Frame : Type) where
  outbox : Outbox Frame := {}
  -- How many messages it takes before it is full; `none` when it has no high watermark.
  room : Option Nat := none
  full : Bool := false
  -- It terminates, and nothing more is written to it.
  ended : Bool := false
  deriving DecidableEq, Repr

namespace Outpipe

variable {Frame : Type}

def checkWrite (p : Outpipe Frame) : Outpipe Frame × Bool :=
  if p.full || p.ended then (p, false)
  else if p.room = some 0 then ({ p with full := true }, false)
  else (p, true)

def write (p : Outpipe Frame) (frame : Frame) (more : Bool) : Outpipe Frame × Bool :=
  match p.checkWrite with
  | (checked, false) => (checked, false)
  | (checked, true) =>
      ({ checked with
        outbox := checked.outbox.put frame more
        room := if more then checked.room else checked.room.map (· - 1) }, true)

structure Refused (p after : Outpipe Frame) : Prop where
  outbox : after.outbox = p.outbox
  room : after.room = p.room
  ended : after.ended = p.ended
  idle : p.full = true ∨ p.ended = true ∨ p.room = some 0
  full : after.full = true ∨ after.ended = true

theorem checkWrite_false {p after : Outpipe Frame} (refused : p.checkWrite = (after, false)) :
    Refused p after := by
  unfold checkWrite at refused
  split at refused
  next idle =>
    cases refused
    simp only [Bool.or_eq_true] at idle
    rcases idle with full | ended
    · exact ⟨rfl, rfl, rfl, .inl full, .inl full⟩
    · exact ⟨rfl, rfl, rfl, .inr (.inl ended), .inr ended⟩
  next =>
    split at refused
    next none_left =>
      cases refused
      exact ⟨rfl, rfl, rfl, .inr (.inr none_left), .inl rfl⟩
    next => cases refused

theorem checkWrite_true {p after : Outpipe Frame} (ready : p.checkWrite = (after, true)) :
    after = p ∧ p.full = false ∧ p.ended = false ∧ p.room ≠ some 0 := by
  unfold checkWrite at ready
  split at ready
  next => cases ready
  next open_ =>
    simp only [Bool.or_eq_true, not_or, Bool.not_eq_true] at open_
    split at ready
    next => cases ready
    next some_left =>
      cases ready
      exact ⟨rfl, open_.1, open_.2, some_left⟩

theorem write_false {p after : Outpipe Frame} {frame : Frame} {more : Bool}
    (refused : p.write frame more = (after, false)) : p.checkWrite = (after, false) := by
  unfold write at refused
  split at refused
  next checked outcome =>
    cases refused
    exact outcome
  next => cases refused

theorem write_true {p after : Outpipe Frame} {frame : Frame} {more : Bool}
    (written : p.write frame more = (after, true)) :
    p.checkWrite.2 = true ∧ p.ended = false ∧ after.outbox = p.outbox.put frame more ∧
      after.full = false ∧ after.ended = false ∧ (more = true → after.room ≠ some 0) := by
  unfold write at written
  split at written
  next => cases written
  next checked outcome =>
    cases written
    obtain ⟨rfl, not_full, goes_on, some_left⟩ := checkWrite_true outcome
    rw [outcome]
    refine ⟨rfl, goes_on, rfl, not_full, goes_on, fun more => ?_⟩
    simpa [more] using some_left

end Outpipe

structure Lb (Pipe Frame : Type) where
  pipes : Rota Pipe := {}
  more : Bool := false
  dropping : Bool := false
  outpipes : Pipe → Outpipe Frame := fun _ => {}
  -- The frames for which sendpipe has returned 0.
  accepted : List (Frame × Bool) := []
  aborted : Bool := false

namespace Lb

variable {Pipe Frame : Type} [DecidableEq Pipe]

def activated (lb : Lb Pipe Frame) (pipe : Pipe) : Lb Pipe Frame :=
  { lb with pipes := lb.pipes.enter pipe }

def attach (lb : Lb Pipe Frame) (pipe : Pipe) : Lb Pipe Frame :=
  { lb with pipes := lb.pipes.pushBack pipe }.activated pipe

def pipeTerminated (lb : Lb Pipe Frame) (pipe : Pipe) : Lb Pipe Frame :=
  { lb with
    dropping := lb.dropping || (lb.pipes.place pipe = lb.pipes.current && lb.more)
    pipes := lb.pipes.remove pipe }

def setOutpipe (lb : Lb Pipe Frame) (pipe : Pipe) (outpipe : Outpipe Frame) : Lb Pipe Frame :=
  { lb with outpipes := Function.update lb.outpipes pipe outpipe }

-- The current pipe takes nothing. sendpipe and has_out each have their own text for it.
def skip (lb : Lb Pipe Frame) : Lb Pipe Frame :=
  let active := lb.pipes.active - 1
  { lb with
    pipes :=
      if lb.pipes.current < active then { lb.pipes.swap lb.pipes.current active with active }
      else { lb.pipes with active, current := 0 } }

def deactivate (lb : Lb Pipe Frame) : Lb Pipe Frame :=
  { lb with pipes := lb.pipes.leave lb.pipes.current }

/-- The loop of sendpipe; the result is whether the frame has been written. -/
def sendLoop (frame : Frame) (more : Bool) : Nat → Lb Pipe Frame → Lb Pipe Frame × Bool
  | 0, lb => (lb, false)
  | fuel + 1, lb =>
      match lb.pipes.upcoming with
      | none => (lb, false)
      | some pipe =>
          match (lb.outpipes pipe).write frame more with
          | (outpipe, true) => (lb.setOutpipe pipe outpipe, true)
          | (outpipe, false) =>
              if lb.more then ({ lb with aborted := true }, false)
              else sendLoop frame more fuel (lb.setOutpipe pipe outpipe).skip

-- The frame that ends a message is flushed with all of it.
def sendpipe (lb : Lb Pipe Frame) (frame : Frame) (more : Bool) : Lb Pipe Frame × Bool :=
  if lb.dropping then ({ lb with more, dropping := more }, true)
  else
    match lb.sendLoop frame more lb.pipes.active with
    | (written, true) =>
        ({ written with
          more
          pipes := if more then written.pipes else written.pipes.advance }, true)
    | (refused, false) => (refused, false)

def hasOutLoop : Nat → Lb Pipe Frame → Lb Pipe Frame × Bool
  | 0, lb => (lb, false)
  | fuel + 1, lb =>
      match lb.pipes.upcoming with
      | none => (lb, false)
      | some pipe =>
          match (lb.outpipes pipe).checkWrite with
          | (outpipe, true) => (lb.setOutpipe pipe outpipe, true)
          | (outpipe, false) => hasOutLoop fuel (lb.setOutpipe pipe outpipe).deactivate

def hasOut (lb : Lb Pipe Frame) : Lb Pipe Frame × Bool :=
  if lb.more then (lb, true) else lb.hasOutLoop lb.pipes.active

inductive Action (Pipe Frame : Type)
  | attach (pipe : Pipe) (room : Option Nat)
  | send (frame : Frame) (more : Bool)
  | hasOut
  -- The other end of the pipe has read that many messages.
  | activateWrite (pipe : Pipe) (count : Nat)
  | ended (pipe : Pipe)
  | terminated (pipe : Pipe)
  deriving DecidableEq, Repr

def step (lb : Lb Pipe Frame) (action : Action Pipe Frame) : Option (Lb Pipe Frame) :=
  if lb.aborted then none
  else
    match action with
    | .attach pipe room =>
        if pipe ∈ lb.pipes.items ∨ (lb.outpipes pipe).outbox.sent ≠ [] then none
        else some ((lb.setOutpipe pipe { room }).attach pipe)
    | .send frame more =>
        match lb.sendpipe frame more with
        | (after, true) => some { after with accepted := lb.accepted ++ [(frame, more)] }
        | (after, false) => some after
    | .hasOut => some lb.hasOut.1
    | .activateWrite pipe count =>
        if pipe ∈ lb.pipes.items then
          let outpipe := { lb.outpipes pipe with room := (lb.outpipes pipe).room.map (· + count) }
          if outpipe.full && !outpipe.ended then
            some ((lb.setOutpipe pipe { outpipe with full := false }).activated pipe)
          else some (lb.setOutpipe pipe outpipe)
        else none
    | .ended pipe =>
        if pipe ∈ lb.pipes.items then
          some (lb.setOutpipe pipe { lb.outpipes pipe with ended := true })
        else none
    | .terminated pipe =>
        if pipe ∈ lb.pipes.items then some (lb.pipeTerminated pipe) else none

inductive Moves (lb : Lb Pipe Frame) : Action Pipe Frame → Lb Pipe Frame → Prop
  | attach (pipe : Pipe) (room : Option Nat) (new : pipe ∉ lb.pipes.items)
      (unused : (lb.outpipes pipe).outbox.sent = []) :
      Moves lb (.attach pipe room) ((lb.setOutpipe pipe { room }).attach pipe)
  | send (after : Lb Pipe Frame) (frame : Frame) (more : Bool)
      (outcome : lb.sendpipe frame more = (after, true)) :
      Moves lb (.send frame more) { after with accepted := lb.accepted ++ [(frame, more)] }
  | refused (after : Lb Pipe Frame) (frame : Frame) (more : Bool)
      (outcome : lb.sendpipe frame more = (after, false)) : Moves lb (.send frame more) after
  | hasOut : Moves lb .hasOut lb.hasOut.1
  | activateWrite (pipe : Pipe) (count : Nat) (member : pipe ∈ lb.pipes.items)
      (full : (lb.outpipes pipe).full = true) :
      Moves lb (.activateWrite pipe count)
        ((lb.setOutpipe pipe { lb.outpipes pipe with
          room := (lb.outpipes pipe).room.map (· + count), full := false }).activated pipe)
  | room (pipe : Pipe) (count : Nat) :
      Moves lb (.activateWrite pipe count)
        (lb.setOutpipe pipe { lb.outpipes pipe with
          room := (lb.outpipes pipe).room.map (· + count) })
  | ended (pipe : Pipe) :
      Moves lb (.ended pipe) (lb.setOutpipe pipe { lb.outpipes pipe with ended := true })
  | terminated (pipe : Pipe) (member : pipe ∈ lb.pipes.items) :
      Moves lb (.terminated pipe) (lb.pipeTerminated pipe)

theorem step_moves {lb next : Lb Pipe Frame} {action : Action Pipe Frame}
    (moved : lb.step action = some next) : Moves lb action next := by
  unfold Lb.step at moved
  split at moved
  next => cases moved
  next =>
    cases action with
    | attach pipe room =>
        dsimp only at moved
        split at moved
        next => cases moved
        next fresh =>
          cases moved
          rw [not_or, Decidable.not_not] at fresh
          exact .attach pipe room fresh.1 fresh.2
    | send frame more =>
        dsimp only at moved
        split at moved
        next outcome =>
          cases moved
          exact .send _ _ _ outcome
        next outcome =>
          cases moved
          exact .refused _ _ _ outcome
    | hasOut =>
        cases moved
        exact .hasOut
    | activateWrite pipe count =>
        obtain ⟨member, moved⟩ := Option.ite_none_right_eq_some.mp moved
        dsimp only at moved
        split at moved
        next asks =>
          cases moved
          exact .activateWrite pipe count member (Bool.and_eq_true_iff.mp asks).1
        next =>
          cases moved
          exact .room pipe count
    | ended pipe =>
        obtain ⟨-, same⟩ := Option.ite_none_right_eq_some.mp moved
        cases same
        exact .ended pipe
    | terminated pipe =>
        obtain ⟨member, same⟩ := Option.ite_none_right_eq_some.mp moved
        cases same
        exact .terminated pipe member

structure Sound (lb : Lb Pipe Frame) : Prop where
  pipes : lb.pipes.Sound
  not_full : ∀ pipe, lb.pipes.InTurn pipe → (lb.outpipes pipe).full = false
  passive : ∀ pipe ∈ lb.pipes.items, ¬lb.pipes.InTurn pipe →
    (lb.outpipes pipe).full = true ∨ (lb.outpipes pipe).ended = true

omit [DecidableEq Pipe] in
theorem sound_initial : Sound ({} : Lb Pipe Frame) :=
  ⟨Rota.sound_initial, fun _ _ => rfl, fun pipe member => by simp at member⟩

def Ready (lb : Lb Pipe Frame) (pipe : Pipe) : Prop :=
  lb.pipes.InTurn pipe ∧ (lb.outpipes pipe).ended = false ∧ (lb.outpipes pipe).room ≠ some 0

structure Skips (lb after : Lb Pipe Frame) : Prop where
  sound : after.Sound
  frame : after = { lb with pipes := after.pipes, outpipes := after.outpipes }
  mem : ∀ pipe, pipe ∈ after.pipes.items ↔ pipe ∈ lb.pipes.items
  outbox : ∀ pipe, (after.outpipes pipe).outbox = (lb.outpipes pipe).outbox
  room : ∀ pipe, (after.outpipes pipe).room = (lb.outpipes pipe).room
  ended : ∀ pipe, (after.outpipes pipe).ended = (lb.outpipes pipe).ended
  ready : ∀ pipe, lb.Ready pipe → after.pipes.InTurn pipe

omit [DecidableEq Pipe] in
theorem Skips.refl {lb : Lb Pipe Frame} (sound : lb.Sound) : Skips lb lb :=
  ⟨sound, rfl, fun _ => Iff.rfl, fun _ => rfl, fun _ => rfl, fun _ => rfl, fun _ ready => ready.1⟩

omit [DecidableEq Pipe] in
theorem Skips.trans {lb middle after : Lb Pipe Frame} (first : Skips lb middle)
    (second : Skips middle after) : Skips lb after := by
  refine ⟨second.sound, ?_, fun pipe => (second.mem pipe).trans (first.mem pipe),
    fun pipe => (second.outbox pipe).trans (first.outbox pipe),
    fun pipe => (second.room pipe).trans (first.room pipe),
    fun pipe => (second.ended pipe).trans (first.ended pipe), fun pipe ready => ?_⟩
  · rw [second.frame, first.frame]
  · apply second.ready pipe
    refine ⟨first.ready pipe ready, ?_, ?_⟩
    · rw [first.ended]
      exact ready.2.1
    · rw [first.room]
      exact ready.2.2

theorem Sound.deactivate {lb : Lb Pipe Frame} (sound : lb.Sound) {pipe : Pipe}
    {outpipe : Outpipe Frame} (some_active : 0 < lb.pipes.active)
    (current : lb.pipes.upcoming = some pipe) (refused : (lb.outpipes pipe).Refused outpipe) :
    Skips lb (lb.setOutpipe pipe outpipe).deactivate ∧
      (lb.setOutpipe pipe outpipe).deactivate.pipes.active = lb.pipes.active - 1 := by
  obtain ⟨other, same, place, active⟩ := sound.pipes.upcoming_inTurn some_active
  obtain rfl := Option.some.inj (current.symm.trans same)
  have left := sound.pipes.leave active
  rw [place] at left
  have outpipes (other : Pipe) : (lb.setOutpipe pipe outpipe).deactivate.outpipes other =
      if other = pipe then outpipe else lb.outpipes other := Function.update_apply _ _ _ _
  have kept {Value : Type} (read : Outpipe Frame → Value)
      (same : read outpipe = read (lb.outpipes pipe)) (other : Pipe) :
      read ((lb.setOutpipe pipe outpipe).deactivate.outpipes other) =
        read (lb.outpipes other) := by
    rw [outpipes]
    split
    next own =>
      rw [own]
      exact same
    next => rfl
  refine ⟨⟨⟨left.sound, fun other turn => ?_, fun other member out => ?_⟩, rfl, left.mem,
    kept Outpipe.outbox refused.outbox, kept Outpipe.room refused.room,
    kept Outpipe.ended refused.ended, fun other ready => ?_⟩, left.active⟩
  · have before := (left.inTurn other).mp turn
    rw [outpipes, if_neg before.2]
    exact sound.not_full other before.1
  · rw [outpipes]
    split
    next => exact refused.full
    next apart =>
      apply sound.passive other ((left.mem other).mp member)
      intro turn
      exact out ((left.inTurn other).mpr ⟨turn, apart⟩)
  · apply (left.inTurn other).mpr ⟨ready.1, ?_⟩
    rintro rfl
    rcases refused.idle with full | ended | none_left
    · cases full.symm.trans (sound.not_full other ready.1)
    · cases ended.symm.trans ready.2.1
    · exact ready.2.2 none_left

theorem Sound.skip_eq {lb : Lb Pipe Frame} (sound : lb.pipes.Sound)
    (some_active : 0 < lb.pipes.active) : lb.skip = lb.deactivate := by
  have within := sound.current
  unfold Lb.skip Lb.deactivate Rota.leave
  by_cases last : lb.pipes.current = lb.pipes.active - 1
  · rw [last, if_pos rfl, Rota.swap_self sound]
    simp
  · rw [if_neg last]
    have before : lb.pipes.current < lb.pipes.active - 1 := by omega
    simp only [before, if_true]
    congr 1
    unfold Rota.swap
    split <;> rfl

theorem sendLoop_spec {frame : Frame} {more : Bool} {fuel : Nat} {lb : Lb Pipe Frame}
    (sound : lb.Sound) (enough : fuel = lb.pipes.active) (between : lb.more = false) :
    ∃ middle, Skips lb middle ∧
      ((lb.sendLoop frame more fuel = (middle, false) ∧ middle.pipes.active = 0) ∨
        ∃ pipe outpipe, middle.pipes.upcoming = some pipe ∧ middle.pipes.InTurn pipe ∧
          (middle.outpipes pipe).write frame more = (outpipe, true) ∧
          lb.sendLoop frame more fuel = (middle.setOutpipe pipe outpipe, true)) := by
  induction fuel generalizing lb with
  | zero => exact ⟨lb, .refl sound, .inl ⟨rfl, enough.symm⟩⟩
  | succ fuel ih =>
      obtain ⟨pipe, current, -, active⟩ := sound.pipes.upcoming_inTurn (by omega)
      unfold sendLoop
      simp only [current]
      cases outcome : (lb.outpipes pipe).write frame more with
      | mk outpipe written =>
          cases written with
          | true => exact ⟨lb, .refl sound, .inr ⟨pipe, outpipe, current, active, outcome, rfl⟩⟩
          | false =>
              have refused := Outpipe.checkWrite_false (Outpipe.write_false outcome)
              obtain ⟨skips, fewer⟩ := sound.deactivate (by omega) current refused
              have same : (lb.setOutpipe pipe outpipe).skip =
                  (lb.setOutpipe pipe outpipe).deactivate :=
                Sound.skip_eq sound.pipes (Nat.lt_of_lt_of_eq (Nat.succ_pos fuel) enough)
              simp only [between, Bool.false_eq_true, if_false]
              rw [same]
              obtain ⟨middle, later, ends⟩ := ih skips.sound (by omega) between
              exact ⟨middle, skips.trans later, ends⟩

theorem hasOutLoop_spec {fuel : Nat} {lb : Lb Pipe Frame} (sound : lb.Sound)
    (enough : fuel = lb.pipes.active) : Skips lb (lb.hasOutLoop fuel).1 := by
  induction fuel generalizing lb with
  | zero => exact .refl sound
  | succ fuel ih =>
      obtain ⟨pipe, current, -, active⟩ := sound.pipes.upcoming_inTurn (by omega)
      unfold hasOutLoop
      simp only [current]
      cases outcome : (lb.outpipes pipe).checkWrite with
      | mk outpipe ready =>
          cases ready with
          | true =>
              obtain ⟨rfl, -⟩ := Outpipe.checkWrite_true outcome
              simp only [setOutpipe, Function.update_eq_self]
              exact .refl sound
          | false =>
              obtain ⟨skips, fewer⟩ :=
                sound.deactivate (by omega) current (Outpipe.checkWrite_false outcome)
              exact skips.trans (ih skips.sound (by omega))

-- has_out asks the pipes that sendpipe would write to.
theorem hasOutLoop_eq (frame : Frame) (more : Bool) (fuel : Nat) {lb : Lb Pipe Frame}
    (sound : lb.Sound) (enough : fuel = lb.pipes.active) (between : lb.more = false) :
    (lb.hasOutLoop fuel).2 = (lb.sendLoop frame more fuel).2 := by
  induction fuel generalizing lb with
  | zero => rfl
  | succ fuel ih =>
      obtain ⟨pipe, current, -, active⟩ := sound.pipes.upcoming_inTurn (by omega)
      unfold hasOutLoop sendLoop
      simp only [current]
      cases outcome : (lb.outpipes pipe).checkWrite with
      | mk outpipe ready =>
          cases ready with
          | true => simp only [Outpipe.write, outcome]
          | false =>
              have same : (lb.setOutpipe pipe outpipe).skip =
                  (lb.setOutpipe pipe outpipe).deactivate :=
                Sound.skip_eq sound.pipes (Nat.lt_of_lt_of_eq (Nat.succ_pos fuel) enough)
              obtain ⟨skips, fewer⟩ :=
                sound.deactivate (by omega) current (Outpipe.checkWrite_false outcome)
              simp only [Outpipe.write, outcome, between, Bool.false_eq_true, if_false]
              rw [same]
              exact ih skips.sound (by omega) between

def assembled (accepted : List (Frame × Bool)) : Outbox Frame :=
  accepted.foldl (fun outbox entry => outbox.put entry.1 entry.2) {}

theorem assembled_append (accepted : List (Frame × Bool)) (frame : Frame) (more : Bool) :
    assembled (accepted ++ [(frame, more)]) = (assembled accepted).put frame more := by
  simp [assembled]

def parts (lb : Lb Pipe Frame) (dropped : List (List Frame)) : Option Pipe → List (List Frame)
  | some pipe => (lb.outpipes pipe).outbox.sent
  | none => dropped

def Writing (lb : Lb Pipe Frame) : Prop := lb.more = true ∧ lb.dropping = false

/-- Every message sent is `dropped` or whole in one of the pipes, each pipe's in order; and the
message that is being sent has all its frames in the current pipe. -/
structure Sends (lb : Lb Pipe Frame) (dropped : List (List Frame)) : Prop where
  goes_on : lb.aborted = false
  whole : Interleaving (lb.parts dropped) (assembled lb.accepted).sent
  drops : lb.dropping = true → lb.more = true
  between : lb.more = false → (assembled lb.accepted).frames = []
  others : ∀ pipe ∈ lb.pipes.items, (lb.Writing → lb.pipes.upcoming ≠ some pipe) →
    (lb.outpipes pipe).outbox.frames = []
  begun : lb.Writing → ∃ pipe, lb.pipes.upcoming = some pipe ∧ lb.pipes.InTurn pipe ∧
    (lb.outpipes pipe).outbox.frames = (assembled lb.accepted).frames ∧
    (lb.outpipes pipe).room ≠ some 0

theorem sends_initial : Sends ({} : Lb Pipe Frame) [] where
  goes_on := rfl
  whole := by
    have none_sent : ({} : Lb Pipe Frame).parts [] = fun _ => [] := by
      funext index
      cases index <;> rfl
    rw [none_sent]
    exact Interleaving.empty
  drops := fun drops => by cases drops
  between := fun _ => rfl
  others := fun pipe member => by simp at member
  begun := fun writing => by cases writing.1

-- Nothing is written, and the pipe that is written to stays the one that it is.
theorem Sends.kept {lb after : Lb Pipe Frame} {dropped : List (List Frame)}
    (sends : lb.Sends dropped) (goes_on : after.aborted = lb.aborted) (more : after.more = lb.more)
    (dropping : after.dropping = lb.dropping) (accepted : after.accepted = lb.accepted)
    (sent : ∀ pipe, (after.outpipes pipe).outbox.sent = (lb.outpipes pipe).outbox.sent)
    (frames : ∀ pipe ∈ after.pipes.items,
      (pipe ∈ lb.pipes.items ∧ (after.outpipes pipe).outbox = (lb.outpipes pipe).outbox) ∨
        (after.outpipes pipe).outbox.frames = [])
    (current : ∀ pipe, lb.Writing → lb.pipes.upcoming = some pipe → lb.pipes.InTurn pipe →
      (lb.outpipes pipe).room ≠ some 0 →
      after.pipes.upcoming = some pipe ∧ after.pipes.InTurn pipe ∧
        (after.outpipes pipe).outbox = (lb.outpipes pipe).outbox ∧
        (after.outpipes pipe).room ≠ some 0) : after.Sends dropped := by
  have writing : after.Writing ↔ lb.Writing := by rw [Writing, Writing, more, dropping]
  have same_parts : after.parts dropped = lb.parts dropped := by
    funext index
    cases index with
    | none => rfl
    | some pipe => exact sent pipe
  refine ⟨goes_on.trans sends.goes_on, ?_, ?_, ?_, fun pipe member other => ?_, ?_⟩
  · rw [same_parts, accepted]
    exact sends.whole
  · rw [dropping, more]
    exact sends.drops
  · rw [accepted, more]
    exact sends.between
  · rcases frames pipe member with ⟨old, same⟩ | empty
    · rw [same]
      apply sends.others pipe old
      intro writes reads
      obtain ⟨own, own_current, active, -, some_left⟩ := sends.begun writes
      obtain rfl := Option.some.inj (own_current.symm.trans reads)
      exact other (writing.mpr writes) (current own writes own_current active some_left).1
    · exact empty
  · intro writes
    have before := writing.mp writes
    obtain ⟨pipe, writes_to, active, content, some_left⟩ := sends.begun before
    obtain ⟨still, in_turn, same, room⟩ := current pipe before writes_to active some_left
    refine ⟨pipe, still, in_turn, ?_, room⟩
    rw [same, accepted]
    exact content

theorem Sends.skips {lb after : Lb Pipe Frame} {dropped : List (List Frame)}
    (sends : lb.Sends dropped) (between : lb.more = false) (skips : Skips lb after) :
    after.Sends dropped := by
  apply sends.kept
  · rw [skips.frame]
  · rw [skips.frame]
  · rw [skips.frame]
  · rw [skips.frame]
  · exact fun pipe => congrArg Outbox.sent (skips.outbox pipe)
  · exact fun pipe member => .inl ⟨(skips.mem pipe).mp member, skips.outbox pipe⟩
  · intro pipe writing
    cases between.symm.trans writing.1

-- One pipe changes, but not what is written in it, and the current pipe stays where it is.
theorem Sends.changed {lb : Lb Pipe Frame} {dropped : List (List Frame)} (sends : lb.Sends dropped)
    {pipes : Rota Pipe} {pipe : Pipe} {outpipe : Outpipe Frame}
    (outbox : outpipe.outbox = (lb.outpipes pipe).outbox)
    (room : (lb.outpipes pipe).room ≠ some 0 → outpipe.room ≠ some 0)
    (mem : ∀ other ∈ pipes.items, other ∈ lb.pipes.items)
    (current : ∀ other, lb.pipes.upcoming = some other → lb.pipes.InTurn other →
      pipes.upcoming = some other ∧ pipes.InTurn other) :
    { lb with pipes, outpipes := Function.update lb.outpipes pipe outpipe }.Sends dropped := by
  have same (other : Pipe) : (Function.update lb.outpipes pipe outpipe other).outbox =
      (lb.outpipes other).outbox := by
    by_cases own : other = pipe
    · subst own
      rw [Function.update_self, outbox]
    · rw [Function.update_of_ne own]
  refine sends.kept rfl rfl rfl rfl (fun other => congrArg Outbox.sent (same other))
    (fun other member => .inl ⟨mem other member, same other⟩) ?_
  intro other _ reads active some_left
  obtain ⟨still, in_turn⟩ := current other reads active
  refine ⟨still, in_turn, same other, ?_⟩
  dsimp only
  by_cases own : other = pipe
  · subst own
    rw [Function.update_self]
    exact room some_left
  · rw [Function.update_of_ne own]
    exact some_left

def wrote (lb : Lb Pipe Frame) (pipe : Pipe) (outpipe : Outpipe Frame) (frame : Frame)
    (more : Bool) : Lb Pipe Frame :=
  { lb.setOutpipe pipe outpipe with
    more
    pipes := if more then lb.pipes else lb.pipes.advance
    accepted := lb.accepted ++ [(frame, more)] }

theorem Sends.others_frames {lb : Lb Pipe Frame} {dropped : List (List Frame)}
    (sends : lb.Sends dropped) {pipe other : Pipe} (current : lb.pipes.upcoming = some pipe)
    (member : other ∈ lb.pipes.items) (apart : other ≠ pipe) :
    (lb.outpipes other).outbox.frames = [] := by
  apply sends.others other member
  intro _ same
  exact apart (Option.some.inj (same.symm.trans current))

theorem Sends.current_frames {lb : Lb Pipe Frame} {dropped : List (List Frame)}
    (sends : lb.Sends dropped) {pipe : Pipe} (keeps : lb.dropping = false)
    (current : lb.pipes.upcoming = some pipe) (member : pipe ∈ lb.pipes.items) :
    (lb.outpipes pipe).outbox.frames = (assembled lb.accepted).frames := by
  cases writing : lb.more with
  | false =>
      rw [sends.between writing]
      exact sends.others pipe member fun never => by cases writing.symm.trans never.1
  | true =>
      obtain ⟨own, own_current, -, content, -⟩ := sends.begun ⟨writing, keeps⟩
      obtain rfl := Option.some.inj (current.symm.trans own_current)
      exact content

theorem Sends.write_more {lb : Lb Pipe Frame} {dropped : List (List Frame)}
    (sends : lb.Sends dropped) {pipe : Pipe} {outpipe : Outpipe Frame} {frame : Frame}
    (keeps : lb.dropping = false) (current : lb.pipes.upcoming = some pipe)
    (active : lb.pipes.InTurn pipe)
    (written : (lb.outpipes pipe).write frame true = (outpipe, true)) :
    (lb.wrote pipe outpipe frame true).Sends dropped := by
  obtain ⟨-, -, outbox, -, -, room⟩ := Outpipe.write_true written
  have content := sends.current_frames keeps current active.1
  have same_parts : (lb.wrote pipe outpipe frame true).parts dropped = lb.parts dropped := by
    funext index
    cases index with
    | none => rfl
    | some other =>
        by_cases own : other = pipe
        · subst own
          simp [parts, wrote, setOutpipe, outbox]
        · simp [parts, wrote, setOutpipe, own]
  refine ⟨sends.goes_on, ?_, fun _ => rfl, fun never => ?_, fun other member apart => ?_,
    fun _ => ⟨pipe, current, active, ?_, ?_⟩⟩
  · rw [same_parts]
    simp only [wrote]
    rw [assembled_append, Outbox.put_more]
    exact sends.whole
  · cases never
  · have other_pipe : other ≠ pipe := by
      rintro rfl
      exact apart ⟨rfl, keeps⟩ current
    simp only [wrote, setOutpipe, Function.update_of_ne other_pipe]
    exact sends.others_frames current member other_pipe
  · simp only [wrote, setOutpipe, Function.update_self]
    rw [outbox, assembled_append, Outbox.put_more, Outbox.put_more, content]
  · simp only [wrote, setOutpipe, Function.update_self]
    exact room rfl

theorem Sends.write_last {lb : Lb Pipe Frame} {dropped : List (List Frame)}
    (sends : lb.Sends dropped) {pipe : Pipe} {outpipe : Outpipe Frame} {frame : Frame}
    (keeps : lb.dropping = false) (current : lb.pipes.upcoming = some pipe)
    (active : lb.pipes.InTurn pipe)
    (written : (lb.outpipes pipe).write frame false = (outpipe, true)) :
    (lb.wrote pipe outpipe frame false).Sends dropped := by
  obtain ⟨-, -, outbox, -⟩ := Outpipe.write_true written
  have content := sends.current_frames keeps current active.1
  have same_parts : (lb.wrote pipe outpipe frame false).parts dropped =
      Function.update (lb.parts dropped) (some pipe) (lb.parts dropped (some pipe) ++
        [(lb.outpipes pipe).outbox.frames ++ [frame]]) := by
    funext index
    cases index with
    | none => simp [parts]
    | some other =>
        by_cases own : other = pipe
        · subst own
          simp [parts, wrote, setOutpipe, outbox]
        · have apart : (some other : Option Pipe) ≠ some pipe := by simpa using own
          rw [Function.update_of_ne apart]
          simp [parts, wrote, setOutpipe, own]
  refine ⟨sends.goes_on, ?_, fun drops => ?_, fun _ => ?_, fun other member _ => ?_,
    fun never => ?_⟩
  · rw [same_parts]
    simp only [wrote]
    rw [assembled_append, Outbox.put_last, ← content]
    exact sends.whole.next (some pipe) _
  · cases keeps.symm.trans drops
  · simp only [wrote]
    rw [assembled_append, Outbox.put_last]
  · by_cases own : other = pipe
    · subst own
      simp [wrote, setOutpipe, outbox]
    · simp only [wrote, setOutpipe, Function.update_of_ne own]
      exact sends.others_frames current member own
  · cases never.1

theorem Sends.write {lb : Lb Pipe Frame} {dropped : List (List Frame)} (sends : lb.Sends dropped)
    {pipe : Pipe} {outpipe : Outpipe Frame} {frame : Frame} {more : Bool}
    (keeps : lb.dropping = false) (current : lb.pipes.upcoming = some pipe)
    (active : lb.pipes.InTurn pipe)
    (written : (lb.outpipes pipe).write frame more = (outpipe, true)) :
    (lb.wrote pipe outpipe frame more).Sends dropped := by
  cases more with
  | true => exact sends.write_more keeps current active written
  | false => exact sends.write_last keeps current active written

-- What is left of a message whose pipe is gone is dropped, and with the last frame all of it.
theorem Sends.drop {lb : Lb Pipe Frame} {dropped : List (List Frame)} (sends : lb.Sends dropped)
    (drops : lb.dropping = true) (frame : Frame) (more : Bool) :
    { lb with more, dropping := more, accepted := lb.accepted ++ [(frame, more)] }.Sends
      (if more then dropped else dropped ++ [(assembled lb.accepted).frames ++ [frame]]) := by
  have others (pipe : Pipe) (member : pipe ∈ lb.pipes.items) :
      (lb.outpipes pipe).outbox.frames = [] := by
    apply sends.others pipe member
    intro writing
    cases drops.symm.trans writing.2
  cases more with
  | true =>
      refine ⟨sends.goes_on, ?_, fun _ => rfl, fun never => ?_, fun pipe member _ => others pipe member,
        fun never => ?_⟩
      · dsimp only
        rw [assembled_append, Outbox.put_more]
        exact sends.whole
      · cases never
      · cases never.2
  | false =>
      have same_parts : lb.parts (dropped ++ [(assembled lb.accepted).frames ++ [frame]]) =
          Function.update (lb.parts dropped) none (lb.parts dropped none ++
            [(assembled lb.accepted).frames ++ [frame]]) := by
        funext index
        cases index with
        | none => simp [parts]
        | some pipe => simp [parts]
      refine ⟨sends.goes_on, ?_, fun never => ?_, fun _ => ?_, fun pipe member _ => others pipe member,
        fun never => ?_⟩
      · dsimp only
        rw [assembled_append, Outbox.put_last]
        simp only [Bool.false_eq_true, if_false]
        change Interleaving (lb.parts _) _
        rw [same_parts]
        exact sends.whole.next none _
      · cases never
      · rw [assembled_append, Outbox.put_last]
      · cases never.1

/-- The pipe of a message that is being written has not ended when the next frame is sent, and a
pipe that terminates is that pipe or does not move it. -/
def Steady (lb : Lb Pipe Frame) : Action Pipe Frame → Prop
  | .send _ _ => lb.Writing → ∀ pipe, lb.pipes.upcoming = some pipe →
      (lb.outpipes pipe).ended = false
  | .terminated pipe => lb.Writing → lb.pipes.upcoming = some pipe ∨
      (lb.pipes.InTurn pipe → lb.pipes.current + 1 = lb.pipes.active → lb.pipes.place pipe = 0)
  | _ => True

theorem sendpipe_spec {lb : Lb Pipe Frame} {dropped : List (List Frame)} (sound : lb.Sound)
    (sends : lb.Sends dropped) (keeps : lb.dropping = false) (frame : Frame) (more : Bool)
    (steady : lb.Steady (.send frame more)) :
    ∃ middle, Skips lb middle ∧ middle.Sends dropped ∧
      ((lb.sendpipe frame more = (middle, false) ∧ middle.pipes.active = 0 ∧ lb.more = false) ∨
        ∃ pipe outpipe, middle.pipes.upcoming = some pipe ∧ middle.pipes.InTurn pipe ∧
          (middle.outpipes pipe).write frame more = (outpipe, true) ∧
          (lb.sendpipe frame more).2 = true ∧
          { (lb.sendpipe frame more).1 with accepted := lb.accepted ++ [(frame, more)] } =
            middle.wrote pipe outpipe frame more) := by
  have result : lb.sendpipe frame more =
      match lb.sendLoop frame more lb.pipes.active with
      | (written, true) =>
          ({ written with
            more
            pipes := if more then written.pipes else written.pipes.advance }, true)
      | (refused, false) => (refused, false) := by
    unfold sendpipe
    rw [if_neg (by rw [keeps]; exact Bool.false_ne_true)]
  cases writing : lb.more with
  | false =>
      obtain ⟨middle, skips, ends⟩ :=
        @sendLoop_spec Pipe Frame _ frame more _ lb sound rfl writing
      refine ⟨middle, skips, sends.skips writing skips, ?_⟩
      rcases ends with ⟨same, empty⟩ | ⟨pipe, outpipe, current, active, written, same⟩
      · rw [result, same]
        exact .inl ⟨rfl, empty, rfl⟩
      · have accepted : middle.accepted = lb.accepted := by rw [skips.frame]
        rw [result, same]
        refine .inr ⟨pipe, outpipe, current, active, written, rfl, ?_⟩
        rw [← accepted]
        rfl
  | true =>
      -- The pipe that has the beginning of a message has room for the rest of it.
      obtain ⟨pipe, current, active, -, some_left⟩ := sends.begun ⟨writing, keeps⟩
      have goes_on := steady ⟨writing, keeps⟩ pipe current
      have open_ : (lb.outpipes pipe).checkWrite = (lb.outpipes pipe, true) := by
        simp [Outpipe.checkWrite, sound.not_full pipe active, goes_on, some_left]
      obtain ⟨outpipe, written⟩ :
          ∃ outpipe, (lb.outpipes pipe).write frame more = (outpipe, true) := by
        unfold Outpipe.write
        rw [open_]
        exact ⟨_, rfl⟩
      obtain ⟨count, positive⟩ : ∃ count, lb.pipes.active = count + 1 :=
        Nat.exists_eq_succ_of_ne_zero (Nat.ne_of_gt (Nat.lt_of_le_of_lt (Nat.zero_le _) active.2))
      refine ⟨lb, .refl sound, sends, .inr ⟨pipe, outpipe, current, active, written, ?_⟩⟩
      rw [result, positive, sendLoop]
      simp only [current, written]
      exact ⟨trivial, rfl⟩

theorem refused_spec {lb after : Lb Pipe Frame} {dropped : List (List Frame)} (sound : lb.Sound)
    (sends : lb.Sends dropped) {frame : Frame} {more : Bool} (steady : lb.Steady (.send frame more))
    (outcome : lb.sendpipe frame more = (after, false)) : Skips lb after ∧ after.Sends dropped := by
  cases drops : lb.dropping with
  | true =>
      simp only [sendpipe, drops, if_true, Prod.mk.injEq] at outcome
      cases outcome.2
  | false =>
      obtain ⟨middle, skips, still, ends⟩ := sendpipe_spec sound sends drops frame more steady
      rcases ends with ⟨same, -⟩ | ⟨_, _, -, -, -, done, -⟩
      · cases same.symm.trans outcome
        exact ⟨skips, still⟩
      · rw [outcome] at done
        cases done

theorem sent_spec {lb after : Lb Pipe Frame} {dropped : List (List Frame)} (sound : lb.Sound)
    (sends : lb.Sends dropped) {frame : Frame} {more : Bool} (steady : lb.Steady (.send frame more))
    (outcome : lb.sendpipe frame more = (after, true)) :
    (lb.dropping = true ∧ after = { lb with more, dropping := more }) ∨
      ∃ middle pipe outpipe, Skips lb middle ∧ middle.Sends dropped ∧ middle.dropping = false ∧
        lb.dropping = false ∧ middle.pipes.upcoming = some pipe ∧ middle.pipes.InTurn pipe ∧
        (middle.outpipes pipe).write frame more = (outpipe, true) ∧
        { after with accepted := lb.accepted ++ [(frame, more)] } =
          middle.wrote pipe outpipe frame more := by
  cases drops : lb.dropping with
  | true =>
      simp only [sendpipe, drops, if_true, Prod.mk.injEq, and_true] at outcome
      exact .inl ⟨rfl, outcome.symm⟩
  | false =>
      right
      obtain ⟨middle, skips, still, ends⟩ := sendpipe_spec sound sends drops frame more steady
      rcases ends with ⟨same, -⟩ | ⟨pipe, outpipe, current, active, written, -, same⟩
      · cases same.symm.trans outcome
      · rw [outcome] at same
        have keeps : middle.dropping = false := by
          rw [skips.frame]
          exact drops
        exact ⟨middle, pipe, outpipe, skips, still, keeps, rfl, current, active, written, same⟩

theorem Sound.wrote {lb : Lb Pipe Frame} (sound : lb.Sound) {pipe : Pipe}
    {outpipe : Outpipe Frame} {frame : Frame} {more : Bool} (active : lb.pipes.InTurn pipe)
    (written : (lb.outpipes pipe).write frame more = (outpipe, true)) :
    (lb.wrote pipe outpipe frame more).Sound := by
  have outpipes (other : Pipe) : (lb.wrote pipe outpipe frame more).outpipes other =
      if other = pipe then outpipe else lb.outpipes other := Function.update_apply _ _ _ _
  have in_turn (other : Pipe) :
      (lb.wrote pipe outpipe frame more).pipes.InTurn other ↔ lb.pipes.InTurn other := by
    simp only [Lb.wrote]
    split <;> exact Iff.rfl
  have mem (other : Pipe) :
      other ∈ (lb.wrote pipe outpipe frame more).pipes.items ↔ other ∈ lb.pipes.items := by
    simp only [Lb.wrote]
    split <;> exact Iff.rfl
  refine ⟨?_, fun other turn => ?_, fun other member out => ?_⟩
  · simp only [Lb.wrote]
    split
    next => exact sound.pipes
    next => exact sound.pipes.advance (Nat.lt_of_le_of_lt (Nat.zero_le _) active.2)
  · rw [outpipes]
    split
    next => exact (Outpipe.write_true written).2.2.2.1
    next => exact sound.not_full other ((in_turn other).mp turn)
  · rw [in_turn] at out
    have apart : other ≠ pipe := by
      rintro rfl
      exact out active
    rw [outpipes, if_neg apart]
    exact sound.passive other ((mem other).mp member) out

-- A change of a pipe that leaves it as full and at least as ended as it was.
theorem Sound.setOutpipe {lb : Lb Pipe Frame} (sound : lb.Sound) {pipe : Pipe}
    {outpipe : Outpipe Frame} (full : outpipe.full = (lb.outpipes pipe).full)
    (ended : (lb.outpipes pipe).ended = true → outpipe.ended = true) :
    (lb.setOutpipe pipe outpipe).Sound := by
  refine ⟨sound.pipes, fun other turn => ?_, fun other member out => ?_⟩
  · by_cases own : other = pipe
    · subst own
      simp only [Lb.setOutpipe, Function.update_self]
      rw [full]
      exact sound.not_full other turn
    · simp only [Lb.setOutpipe, Function.update_of_ne own]
      exact sound.not_full other turn
  · by_cases own : other = pipe
    · subst own
      simp only [Lb.setOutpipe, Function.update_self]
      rw [full]
      exact (sound.passive other member out).imp_right ended
    · simp only [Lb.setOutpipe, Function.update_of_ne own]
      exact sound.passive other member out

-- A pipe comes in turn, one of those that are full or a new one.
theorem Sound.entered {lb : Lb Pipe Frame} {pipes : Rota Pipe} {pipe : Pipe}
    {outpipe : Outpipe Frame} (sound : lb.Sound) (after : pipes.Sound)
    (mem : ∀ other ∈ pipes.items, other ∈ lb.pipes.items ∨ other = pipe)
    (in_turn : ∀ other, pipes.InTurn other ↔ lb.pipes.InTurn other ∨ other = pipe)
    (not_full : outpipe.full = false) :
    { lb with pipes, outpipes := Function.update lb.outpipes pipe outpipe }.Sound := by
  refine ⟨after, fun other turn => ?_, fun other member out => ?_⟩
  · simp only [Function.update_apply]
    split
    next => exact not_full
    next apart =>
      rcases (in_turn other).mp turn with before | own
      · exact sound.not_full other before
      · exact absurd own apart
  · have apart : other ≠ pipe := fun own => out ((in_turn other).mpr (.inr own))
    simp only [Function.update_of_ne apart]
    rcases mem other member with before | own
    · exact sound.passive other before fun turn => out ((in_turn other).mpr (.inl turn))
    · exact absurd own apart

omit [DecidableEq Pipe] in
theorem Sound.full_passive {lb : Lb Pipe Frame} (sound : lb.Sound) {pipe : Pipe}
    (member : pipe ∈ lb.pipes.items) (full : (lb.outpipes pipe).full = true) :
    lb.pipes.active ≤ lb.pipes.place pipe := by
  by_contra less
  have not_full := sound.not_full pipe ⟨member, Nat.lt_of_not_le less⟩
  cases not_full.symm.trans full

theorem Sound.terminated {lb : Lb Pipe Frame} (sound : lb.Sound) {pipe : Pipe}
    (member : pipe ∈ lb.pipes.items) : (lb.pipeTerminated pipe).Sound := by
  obtain ⟨removed, -⟩ := sound.pipes.remove member
  refine ⟨removed.sound, fun other turn => ?_, fun other there out => ?_⟩
  · exact sound.not_full other ((removed.inTurn other).mp turn).1
  · obtain ⟨before, apart⟩ := (removed.mem other).mp there
    exact sound.passive other before fun turn => out ((removed.inTurn other).mpr ⟨turn, apart⟩)

theorem Sound.step {lb next : Lb Pipe Frame} {action : Action Pipe Frame}
    {dropped : List (List Frame)} (sound : lb.Sound) (sends : lb.Sends dropped)
    (steady : lb.Steady action) (moved : Lb.step lb action = some next) : next.Sound := by
  cases step_moves moved with
  | attach pipe room new _ =>
      obtain ⟨attached, mem, -, in_turn, -⟩ := sound.pipes.attach new
      exact sound.entered attached (fun other member => (mem other).mp member) in_turn rfl
  | send _ frame more outcome =>
      rcases sent_spec sound sends steady outcome with
        ⟨-, rfl⟩ | ⟨middle, pipe, outpipe, skips, -, -, -, -, active, written, same⟩
      · exact ⟨sound.pipes, sound.not_full, sound.passive⟩
      · rw [same]
        exact skips.sound.wrote active written
  | refused _ frame more outcome => exact (refused_spec sound sends steady outcome).1.sound
  | hasOut =>
      unfold Lb.hasOut
      split
      next => exact sound
      next => exact (hasOutLoop_spec sound rfl).sound
  | activateWrite pipe count member full =>
      have entered := sound.pipes.enter member (sound.full_passive member full)
      exact sound.entered entered.sound
        (fun other there => .inl ((entered.mem other).mp there)) entered.inTurn rfl
  | room pipe count => exact sound.setOutpipe rfl id
  | ended pipe => exact sound.setOutpipe rfl fun _ => rfl
  | terminated pipe member => exact sound.terminated member

namespace Action

def terminates : Action Pipe Frame → Bool
  | .terminated _ => true
  | _ => false

end Action

def lost (lb : Lb Pipe Frame) (dropped : List (List Frame)) : Nat :=
  dropped.length + lb.dropping.toNat

-- A pipe that goes away takes the message that is being written to it, if there is one.
theorem Sends.terminated {lb : Lb Pipe Frame} {dropped : List (List Frame)}
    (sends : lb.Sends dropped) (sound : lb.Sound) {pipe : Pipe} (member : pipe ∈ lb.pipes.items)
    (steady : lb.Steady (.terminated pipe)) :
    (lb.pipeTerminated pipe).Sends dropped ∧
      (lb.pipeTerminated pipe).lost dropped ≤ lb.lost dropped + 1 := by
  obtain ⟨removed, upcoming⟩ := sound.pipes.remove member
  have at_pipe := sound.pipes.at_place member
  refine ⟨?_, ?_⟩
  · by_cases own : lb.Writing ∧ lb.pipes.upcoming = some pipe
    · obtain ⟨writing, current⟩ := own
      obtain ⟨other, other_current, active, -⟩ := sends.begun writing
      obtain rfl := Option.some.inj (other_current.symm.trans current)
      obtain ⟨other', same, place, -⟩ := sound.pipes.upcoming_inTurn
        (Nat.lt_of_le_of_lt (Nat.zero_le _) active.2)
      obtain rfl := Option.some.inj (same.symm.trans current)
      have drops : (lb.pipeTerminated other').dropping = true := by
        simp [Lb.pipeTerminated, place, writing.1]
      refine ⟨sends.goes_on, sends.whole, fun _ => writing.1, sends.between,
        fun other there _ => ?_, fun never => ?_⟩
      · obtain ⟨before, apart⟩ := (removed.mem other).mp there
        apply sends.others other before
        intro _ reads
        exact apart (Option.some.inj (reads.symm.trans current))
      · cases drops.symm.trans never.2
    · have same_dropping : (lb.pipeTerminated pipe).dropping = lb.dropping := by
        cases before : lb.dropping with
        | true => simp [Lb.pipeTerminated, before]
        | false =>
            cases writing : lb.more with
            | false => simp [Lb.pipeTerminated, before, writing]
            | true =>
                have apart : lb.pipes.place pipe ≠ lb.pipes.current := by
                  intro place
                  apply own
                  refine ⟨⟨writing, before⟩, ?_⟩
                  rw [Rota.upcoming, ← place]
                  exact at_pipe
                simp [Lb.pipeTerminated, before, apart]
      refine sends.kept rfl rfl same_dropping rfl (fun _ => rfl) (fun other there => ?_) ?_
      · exact .inl ⟨((removed.mem other).mp there).1, rfl⟩
      · intro other writing current active some_left
        have apart : lb.pipes.upcoming ≠ some pipe := fun same => own ⟨writing, same⟩
        have other_pipe : other ≠ pipe := by
          rintro rfl
          exact apart current
        have front := (steady writing).resolve_left apart
        refine ⟨?_, (removed.inTurn other).mpr ⟨active, other_pipe⟩, rfl, some_left⟩
        rw [← current]
        exact upcoming apart (Nat.lt_of_le_of_lt (Nat.zero_le _) active.2) front
  · have one := Bool.toNat_le (lb.pipeTerminated pipe).dropping
    simp only [lost]
    omega

theorem Sends.attach {lb : Lb Pipe Frame} {dropped : List (List Frame)} (sends : lb.Sends dropped)
    (sound : lb.Sound) {pipe : Pipe} (room : Option Nat) (new : pipe ∉ lb.pipes.items)
    (unused : (lb.outpipes pipe).outbox.sent = []) :
    ((lb.setOutpipe pipe { room }).attach pipe).Sends dropped := by
  obtain ⟨-, mem, -, in_turn, -, -, upcoming⟩ := sound.pipes.attach new
  refine sends.kept rfl rfl rfl rfl (fun other => ?_) (fun other member => ?_) ?_
  · by_cases own : other = pipe
    · subst own
      simp [Lb.attach, activated, setOutpipe, unused]
    · simp [Lb.attach, activated, setOutpipe, own]
  · by_cases own : other = pipe
    · subst own
      exact .inr (by simp [Lb.attach, activated, setOutpipe])
    · have before := ((mem other).mp member).resolve_right own
      exact .inl ⟨before, by simp [Lb.attach, activated, setOutpipe, own]⟩
  · intro other writing current active some_left
    have apart : other ≠ pipe := by
      rintro rfl
      exact new active.1
    refine ⟨?_, (in_turn other).mpr (.inl active), ?_, ?_⟩
    · rw [← current]
      exact upcoming (Nat.lt_of_le_of_lt (Nat.zero_le _) active.2)
    · simp [Lb.attach, activated, setOutpipe, apart]
    · simpa [Lb.attach, activated, setOutpipe, apart] using some_left

theorem more_room {room : Option Nat} (count : Nat) (some_left : room ≠ some 0) :
    room.map (· + count) ≠ some 0 := by
  cases room with
  | none => simp
  | some left =>
      have positive : left ≠ 0 := fun same => some_left (by rw [same])
      simp only [Option.map_some, ne_eq, Option.some.injEq]
      omega

theorem Sends.activated {lb : Lb Pipe Frame} {dropped : List (List Frame)}
    (sends : lb.Sends dropped) (sound : lb.Sound) {pipe : Pipe} (member : pipe ∈ lb.pipes.items)
    (full : (lb.outpipes pipe).full = true) (count : Nat) :
    ((lb.setOutpipe pipe { lb.outpipes pipe with
      room := (lb.outpipes pipe).room.map (· + count), full := false }).activated pipe).Sends
        dropped := by
  have entered := sound.pipes.enter member (sound.full_passive member full)
  apply sends.changed
  · rfl
  · exact more_room count
  · exact fun other there => (entered.mem other).mp there
  · intro other current active
    refine ⟨?_, (entered.inTurn other).mpr (.inl active)⟩
    rw [← current]
    exact entered.upcoming (Nat.lt_of_le_of_lt (Nat.zero_le _) active.2)

theorem Sends.send {lb after : Lb Pipe Frame} {dropped : List (List Frame)}
    (sends : lb.Sends dropped) (sound : lb.Sound) {frame : Frame} {more : Bool}
    (steady : lb.Steady (.send frame more)) (outcome : lb.sendpipe frame more = (after, true)) :
    ∃ dropped', Sends { after with accepted := lb.accepted ++ [(frame, more)] } dropped' ∧
      lost { after with accepted := lb.accepted ++ [(frame, more)] } dropped' ≤
        lb.lost dropped := by
  rcases sent_spec sound sends steady outcome with ⟨drops, rfl⟩ |
    ⟨middle, pipe, outpipe, -, still, keeps, kept, current, active, written, same⟩
  · refine ⟨_, sends.drop drops frame more, ?_⟩
    cases more with
    | true => simp [lost, drops]
    | false => simp [lost, drops]
  · rw [same]
    refine ⟨dropped, still.write keeps current active written, ?_⟩
    change dropped.length + middle.dropping.toNat ≤ dropped.length + lb.dropping.toNat
    rw [keeps, kept]

theorem Sends.hasOut {lb : Lb Pipe Frame} {dropped : List (List Frame)} (sends : lb.Sends dropped)
    (sound : lb.Sound) :
    lb.hasOut.1.Sends dropped ∧ lb.hasOut.1.lost dropped ≤ lb.lost dropped := by
  unfold Lb.hasOut
  split
  next => exact ⟨sends, Nat.le_refl _⟩
  next between =>
    have skips := hasOutLoop_spec sound (rfl : lb.pipes.active = lb.pipes.active)
    refine ⟨sends.skips (Bool.eq_false_iff.mpr between) skips, ?_⟩
    rw [lost, lost, skips.frame]

theorem Sends.step {lb next : Lb Pipe Frame} {action : Action Pipe Frame}
    {dropped : List (List Frame)} (sound : lb.Sound) (sends : lb.Sends dropped)
    (steady : lb.Steady action) (moved : Lb.step lb action = some next) :
    ∃ dropped', next.Sends dropped' ∧
      next.lost dropped' ≤ lb.lost dropped + action.terminates.toNat := by
  cases step_moves moved with
  | attach pipe room new unused =>
      exact ⟨dropped, sends.attach sound room new unused, Nat.le_add_right _ _⟩
  | send _ frame more outcome => exact sends.send sound steady outcome
  | refused _ frame more outcome =>
      obtain ⟨skips, still⟩ := refused_spec sound sends steady outcome
      refine ⟨dropped, still, ?_⟩
      rw [lost, lost, skips.frame]
      exact Nat.le_add_right _ _
  | hasOut => exact ⟨dropped, sends.hasOut sound⟩
  | activateWrite pipe count member full =>
      exact ⟨dropped, sends.activated sound member full count, Nat.le_add_right _ _⟩
  | room pipe count =>
      refine ⟨dropped, ?_, Nat.le_add_right _ _⟩
      exact sends.changed rfl (more_room count) (fun _ => id) fun _ current active =>
        ⟨current, active⟩
  | ended pipe =>
      refine ⟨dropped, ?_, Nat.le_add_right _ _⟩
      exact sends.changed rfl id (fun _ => id) fun _ current active => ⟨current, active⟩
  | terminated pipe member => exact ⟨dropped, sends.terminated sound member steady⟩

theorem steady_run {lb final : Lb Pipe Frame} {actions : List (Action Pipe Frame)}
    {dropped : List (List Frame)} (sound : lb.Sound) (sends : lb.Sends dropped)
    (steady : Along Lb.step Steady lb actions) (reached : run Lb.step lb actions = some final) :
    final.Sound ∧ ∃ dropped', final.Sends dropped' ∧
      final.lost dropped' ≤ lb.lost dropped + actions.countP Action.terminates := by
  induction actions generalizing lb dropped with
  | nil =>
      cases reached
      exact ⟨sound, dropped, sends, Nat.le_add_right _ _⟩
  | cons action rest ih =>
      obtain ⟨next, moved, remaining⟩ := run_cons_some.mp reached
      obtain ⟨dropped', sends_next, fewer⟩ := sends.step sound steady.1 moved
      obtain ⟨sound_final, dropped'', sends_final, fewer_final⟩ :=
        ih (sound.step sends steady.1 moved) sends_next (steady.2 next moved) remaining
      refine ⟨sound_final, dropped'', sends_final, ?_⟩
      rw [List.countP_cons]
      have same : (if action.terminates = true then 1 else 0) = action.terminates.toNat := by
        cases action.terminates <;> rfl
      omega

/-- Every message is written whole to one pipe, the messages of a pipe in the order in which they
were sent; each pipe that terminates takes one message at most with it. -/
theorem sends_whole {final : Lb Pipe Frame} {actions : List (Action Pipe Frame)}
    (steady : Along Lb.step Steady {} actions) (reached : run Lb.step {} actions = some final) :
    ∃ dropped, final.Sends dropped ∧ dropped.length ≤ actions.countP Action.terminates := by
  obtain ⟨-, dropped, sends, fewer⟩ := steady_run sound_initial sends_initial steady reached
  refine ⟨dropped, sends, ?_⟩
  simp only [lost, List.length_nil, Bool.toNat_false] at fewer
  omega

def steadyCheck (lb : Lb Pipe Frame) : Action Pipe Frame → Bool
  | .send _ _ => lb.pipes.upcoming.all fun pipe => !(lb.outpipes pipe).ended
  | .terminated pipe => !lb.more || lb.dropping || lb.pipes.upcoming == some pipe
  | _ => true

theorem steady_of_check {lb : Lb Pipe Frame} {action : Action Pipe Frame}
    (checked : lb.steadyCheck action = true) : lb.Steady action := by
  cases action with
  | send frame more =>
      intro _ pipe current
      simpa [steadyCheck, current] using checked
  | terminated pipe =>
      rintro ⟨writing, keeps⟩
      simp only [steadyCheck, writing, keeps, Bool.not_true, Bool.or_false, Bool.false_or,
        beq_iff_eq] at checked
      exact .inl checked
  | _ => trivial

theorem steady_of_accepts {lb : Lb Pipe Frame} {actions : List (Action Pipe Frame)}
    (accepted : accepts Lb.step steadyCheck lb actions = true) :
    Along Lb.step Steady lb actions :=
  along_of_accepts (fun _ => True) steadyCheck (fun _ _ _ _ _ _ => trivial)
    (fun _ _ _ checked => steady_of_check checked) trivial accepted

-- The second message is lost with its pipe, and the last one finds no pipe that is not full.
def pipeGone : List (Action Nat Nat) :=
  [.attach 1 (some 1), .attach 2 (some 1), .send 10 true, .send 11 false, .send 20 true,
    .terminated 2, .send 21 true, .send 22 false, .hasOut, .send 30 false, .activateWrite 1 1,
    .send 40 false]

theorem sends_whole_gone : ∃ final : Lb Nat Nat, run Lb.step {} pipeGone = some final ∧
    (assembled final.accepted).sent = [[10, 11], [20, 21, 22], [40]] ∧
      (final.outpipes 1).outbox.sent = [[10, 11], [40]] ∧
      ∃ dropped, final.Sends dropped ∧ dropped.length ≤ 1 := by
  have accepted : (run Lb.step {} pipeGone).any (fun lb =>
      (assembled lb.accepted).sent = [[10, 11], [20, 21, 22], [40]] ∧
        (lb.outpipes 1).outbox.sent = [[10, 11], [40]]) = true := by decide
  obtain ⟨final, reached, content⟩ := reached_of_check accepted
  simp only [decide_eq_true_eq] at content
  have steady : Along Lb.step Steady {} pipeGone := steady_of_accepts (by decide)
  exact ⟨final, reached, content.1, content.2, sends_whole steady reached⟩

-- When a pipe terminates while the last of those in turn is written to, the rest of the message goes
-- to the first.
example : (run Lb.step ({} : Lb Nat Nat) [.attach 1 none, .attach 2 none, .attach 3 none,
    .send 10 false, .send 20 false, .send 30 true, .terminated 2, .send 31 false]).map
      (fun lb => ((lb.outpipes 1).outbox, (lb.outpipes 3).outbox)) =
    some ({ sent := [[10], [31]] }, { frames := [30] }) := by
  decide

/-- EAGAIN says that every pipe that has not ended is full, and has_out agrees. -/
theorem refused_when_full {final : Lb Pipe Frame} {actions : List (Action Pipe Frame)}
    (steady : Along Lb.step Steady {} actions) (reached : run Lb.step {} actions = some final)
    (frame : Frame) (more : Bool) (goes_on : final.Steady (.send frame more)) :
    (final.sendpipe frame more).1.aborted = false ∧
      final.hasOut.2 = (final.sendpipe frame more).2 ∧
      ((final.sendpipe frame more).2 = false → final.more = false ∧
        ∀ pipe ∈ final.pipes.items, (final.outpipes pipe).ended = true ∨
          (final.outpipes pipe).full = true ∨ (final.outpipes pipe).room = some 0) := by
  obtain ⟨sound, dropped, sends, -⟩ := steady_run sound_initial sends_initial steady reached
  cases drops : final.dropping with
  | true => simp [sendpipe, hasOut, drops, sends.drops drops, sends.goes_on]
  | false =>
      obtain ⟨middle, skips, still, ends⟩ := sendpipe_spec sound sends drops frame more goes_on
      have agree (between : final.more = false) :
          final.hasOut.2 = (final.sendpipe frame more).2 := by
        have same := hasOutLoop_eq frame more final.pipes.active sound rfl between
        simp only [hasOut, sendpipe, between, drops, Bool.false_eq_true, if_false]
        rw [same]
        split
        next outcome => rw [outcome]
        next outcome => rw [outcome]
      rcases ends with ⟨same, empty, between⟩ | ⟨pipe, outpipe, -, -, -, done, wrote⟩
      · refine ⟨by rw [same]; exact still.goes_on, agree between, fun _ => ⟨between, ?_⟩⟩
        intro pipe member
        by_contra open_
        simp only [not_or, Bool.not_eq_true] at open_
        have active : final.pipes.InTurn pipe := by
          by_contra out
          rcases sound.passive pipe member out with full | ended
          · cases open_.2.1.symm.trans full
          · cases open_.1.symm.trans ended
        have turn := skips.ready pipe ⟨active, open_.1, open_.2.2⟩
        rw [Rota.InTurn, empty] at turn
        exact absurd turn.2 (Nat.not_lt_zero _)
      · refine ⟨?_, ?_, fun never => by cases done.symm.trans never⟩
        · exact (congrArg Lb.aborted wrote).trans still.goes_on
        · cases writing : final.more with
          | false => exact agree writing
          | true =>
              rw [done]
              simp [hasOut, writing]

theorem refused_when_full_gone : ∃ final : Lb Nat Nat,
    run Lb.step {} (pipeGone.take 9) = some final ∧ (final.sendpipe 30 false).2 = false ∧
      final.hasOut.2 = false ∧
      ∀ pipe ∈ final.pipes.items, (final.outpipes pipe).ended = true ∨
        (final.outpipes pipe).full = true ∨ (final.outpipes pipe).room = some 0 := by
  have accepted : (run Lb.step {} (pipeGone.take 9)).any (fun lb =>
      (lb.sendpipe 30 false).2 = false ∧ lb.steadyCheck (.send 30 false) = true) = true := by decide
  obtain ⟨final, reached, content⟩ := reached_of_check accepted
  simp only [decide_eq_true_eq] at content
  have steady : Along Lb.step Steady {} (pipeGone.take 9) := steady_of_accepts (by decide)
  obtain ⟨-, agree, full⟩ :=
    refused_when_full steady reached 30 false (steady_of_check content.2)
  exact ⟨final, reached, content.1, agree.trans content.1, (full content.1).2⟩

end Lb

end Zmqcpp
