import Zmqcpp.Engine.Decoder
import Zmqcpp.Engine.Encoder
import Zmqcpp.Shared.Transition

set_option autoImplicit false

/-!
# Two engines and the connection between them

One direction of a connection after its handshake: an engine that takes messages from its session,
the bytes that the network holds, and an engine that gives messages to its session.
-/

namespace Zmqcpp

open Wire Transition

def outBatchSize : Nat := 8192

def inBatchSize : Nat := 8192

inductive Ending
  | closed
  | tooLarge
  deriving DecidableEq, Repr

/-- stream_engine_t, one of them as it sends and the other as it receives. -/
structure Connection where
  -- What the sending session has for its engine, and what the engine has pulled of it.
  toSend : List Msg := []
  pulled : List Msg := []
  encoder : V2Encoder := {}
  out : List UInt8 := []
  outputStopped : Bool := false
  wire : List UInt8 := []
  decoder : V2Decoder
  input : List UInt8 := []
  inputStopped : Bool := false
  ioError : Bool := false
  pushed : List Msg := []
  ended : Option Ending := none
  -- An assertion has failed.
  aborted : Bool := false
  deriving DecidableEq, Repr

namespace Connection

/-- The loop of out_event: what is left to send, what has been pulled, the encoder and the batch.
`none` is a failed assertion. -/
def fill : List Msg → V2Encoder → List UInt8 → Bool →
    Option (List Msg × List Msg × V2Encoder × List UInt8)
  | [], encoder, out, _ => some ([], [], encoder, out)
  | m :: rest, encoder, out, given =>
      if outBatchSize ≤ out.length then some (m :: rest, [], encoder, out)
      else
        match encoder.loadMsg m with
        | none => none
        | some loaded =>
            let room := if given then outBatchSize - out.length else outBatchSize
            let encoded := loaded.encode given room
            if encoded.1 = [] then none
            else
              (fill rest encoded.2 (out ++ encoded.1) true).map fun filled =>
                (filled.1, m :: filled.2.1, filled.2.2)

def batch (c : Connection) : Connection :=
  if c.out = [] then
    let left := c.encoder.encode false outBatchSize
    match fill c.toSend left.2 left.1 (c.encoder.inProgress.isSome) with
    | none => { c with aborted := true }
    | some (toSend, pulled, encoder, out) =>
        { c with
          toSend
          pulled := c.pulled ++ pulled
          encoder, out
          outputStopped := c.outputStopped || out = [] }
  else c

def outEvent (c : Connection) (nbytes : Nat) : Connection :=
  let filled := c.batch
  { filled with wire := filled.wire ++ filled.out.take nbytes, out := filled.out.drop nbytes }

/-- How the loop over the input ends; `again` is EAGAIN from the session. -/
inductive Drained
  | ok
  | again
  | error
  deriving DecidableEq, Repr

/-- The loop of in_event and restart_input, while the session takes `room` messages. -/
def drain : Nat → V2Decoder → List UInt8 → Bool → Nat →
    Option (V2Decoder × List UInt8 × List Msg × Drained)
  | 0, decoder, input, _, _ => some (decoder, input, [], .ok)
  | fuel + 1, decoder, input, inPlace, room =>
      if input = [] then some (decoder, [], [], .ok)
      else
        match if inPlace then decoder.decodeInPlace input else some (decoder.decode input) with
        | none => none
        | some (after, .needsMore, rest) => some (after, rest, [], .ok)
        | some (after, .tooLarge, rest) => some (after, rest, [], .error)
        | some (after, .message, rest) =>
            match room with
            | 0 => some (after, rest, [], .again)
            | room + 1 =>
                (drain fuel after rest false room).map fun drained =>
                  (drained.1, drained.2.1, after.inProgress :: drained.2.2.1, drained.2.2.2)

def process (c : Connection) (inPlace : Bool) (room : Nat) : Connection :=
  match drain c.input.length c.decoder c.input inPlace room with
  | none => { c with aborted := true }
  | some (decoder, input, pushed, drained) =>
      { c with
        decoder, input
        pushed := c.pushed ++ pushed
        inputStopped := drained = .again
        ended := if drained = .error then some .tooLarge else c.ended }

def inEvent (c : Connection) (received room : Nat) : Option Connection :=
  if c.ioError || c.ended ≠ none then none
  else if c.inputStopped then some { c with ioError := true }
  else if c.input = [] then
    if 0 < received && received ≤ c.decoder.bufferSize inBatchSize && received ≤ c.wire.length then
      some ({ c with input := c.wire.take received, wire := c.wire.drop received }.process
        (inBatchSize ≤ c.decoder.toRead) room)
    else none
  else some (c.process false room)

def restartOutput (c : Connection) (nbytes : Nat) : Connection :=
  { c with outputStopped := false }.outEvent nbytes

def restartInput (c : Connection) (room : Nat) : Option Connection :=
  if !c.inputStopped || c.ended ≠ none then none
  else
    match room with
    | 0 => some c
    | room + 1 =>
        let resumed := { c with
          pushed := c.pushed ++ [c.decoder.inProgress]
          inputStopped := false }.process false room
        if !resumed.inputStopped && resumed.ioError && resumed.ended = none then
          some { resumed with ended := some .closed }
        else some resumed

inductive Action
  | arrive (m : Msg)
  | outEvent (nbytes : Nat)
  | restartOutput (nbytes : Nat)
  | inEvent (received room : Nat)
  | restartInput (room : Nat)
  | hangUp
  deriving DecidableEq, Repr

def step (c : Connection) : Action → Option Connection
  | .arrive m => some { c with toSend := c.toSend ++ [m] }
  | .outEvent nbytes => if c.outputStopped then none else some (c.outEvent nbytes)
  | .restartOutput nbytes => some (c.restartOutput nbytes)
  | .inEvent received room => c.inEvent received room
  | .restartInput room => c.restartInput room
  | .hangUp => some { c with ended := c.ended.or (some .closed) }

/-- What the loop of out_event makes of the messages: those pulled are in the batch, but for what the
encoder has left. -/
structure Filled (messages : List Msg) (encoder : V2Encoder) (out : List UInt8)
    (result : List Msg × List Msg × V2Encoder × List UInt8) : Prop where
  split : result.2.1 ++ result.1 = messages
  sound : result.2.2.1.Sound
  bytes : result.2.2.2 ++ result.2.2.1.remaining =
    out ++ encoder.remaining ++ frames result.2.1
  nothing : result.2.2.2 = [] → result.2.2.1.remaining = []

theorem fill_spec {messages : List Msg} {encoder : V2Encoder} {out : List UInt8} {given : Bool}
    (sound : encoder.Sound) (own : given = false → out = [])
    (free : out.length < outBatchSize → encoder.inProgress = none) :
    ∃ result, fill messages encoder out given = some result ∧
      Filled messages encoder out result := by
  induction messages generalizing encoder out given with
  | nil =>
      refine ⟨_, rfl, rfl, sound, by simp [frames], fun empty => ?_⟩
      dsimp only at empty
      have idle := free (by simp [empty, outBatchSize])
      simp [V2Encoder.remaining, idle]
  | cons m rest ih =>
      unfold fill
      by_cases complete : outBatchSize ≤ out.length
      · rw [if_pos complete]
        refine ⟨_, rfl, rfl, sound, by simp [frames], fun empty => ?_⟩
        dsimp only at empty
        simp [empty, outBatchSize] at complete
      rw [if_neg complete]
      have idle := free (Nat.lt_of_not_le complete)
      have nothing : encoder.remaining = [] := by simp [V2Encoder.remaining, idle]
      obtain ⟨loaded, load, loaded_sound, in_progress, remaining, ready⟩ :=
        V2Encoder.loadMsg_spec sound idle m
      simp only [load]
      generalize size : (if given = true then outBatchSize - out.length else outBatchSize) = room
      have room_left : room = outBatchSize - out.length := by
        cases given with
        | true => exact size.symm
        | false =>
            rw [own rfl]
            exact size.symm
      have encoded := V2Encoder.encode_spec loaded_sound given room
      have open_ : 0 < room := by omega
      have some_written := V2Encoder.encode_loaded in_progress ready given open_
      rw [if_neg some_written]
      generalize loaded.encode given room = result at encoded ⊢
      have own_no_more : true = false → out ++ result.1 = [] := fun never => by cases never
      have short_of_ended (short : (out ++ result.1).length < outBatchSize) :
          result.2.inProgress = none := by
        apply encoded.ended
        rw [List.length_append] at short
        omega
      obtain ⟨filled, same, spec⟩ := ih encoded.sound own_no_more short_of_ended
      refine ⟨(filled.1, m :: filled.2.1, filled.2.2), ?_, ?_, spec.sound, ?_, spec.nothing⟩
      · rw [same]
        rfl
      · dsimp only
        rw [List.cons_append, spec.split]
      · have all := encoded.all
        rw [remaining] at all
        dsimp only
        rw [spec.bytes, nothing, frames, frames, List.flatMap_cons, all]
        simp

/-- What the loop over the input makes of the messages that the decoder expects. -/
inductive Drains (limit : Int) (messages : List Msg) (later : List UInt8) :
    V2Decoder × List UInt8 × List Msg × Drained → Prop
  | ok {after : V2Decoder} {pushed rest : List Msg} (split : messages = pushed ++ rest)
      (allowed : ∀ m ∈ pushed, exceeds limit m.size = false) (expects : after.Expects rest later) :
      Drains limit messages later (after, [], pushed, .ok)
  | again {after : V2Decoder} {left : List UInt8} {pushed rest : List Msg}
      (split : messages = pushed ++ after.inProgress :: rest)
      (allowed : ∀ m ∈ pushed, exceeds limit m.size = false)
      (waiting : exceeds limit after.inProgress.size = false)
      (expects : after.Expects rest (left ++ later)) :
      Drains limit messages later (after, left, pushed, .again)
  | error {after : V2Decoder} {left : List UInt8} {m : Msg} {pushed rest : List Msg}
      (split : messages = pushed ++ m :: rest)
      (allowed : ∀ m ∈ pushed, exceeds limit m.size = false)
      (large : exceeds limit m.size = true) :
      Drains limit messages later (after, left, pushed, .error)

theorem Drains.cons {limit : Int} {messages : List Msg} {later : List UInt8} (m : Msg)
    {result : V2Decoder × List UInt8 × List Msg × Drained}
    (small : exceeds limit m.size = false) (drains : Drains limit messages later result) :
    Drains limit (m :: messages) later
      (result.1, result.2.1, m :: result.2.2.1, result.2.2.2) := by
  cases drains with
  | ok split allowed expects =>
      exact .ok (by rw [split, List.cons_append]) (List.forall_mem_cons.mpr ⟨small, allowed⟩) expects
  | again split allowed waiting expects =>
      exact .again (by rw [split, List.cons_append]) (List.forall_mem_cons.mpr ⟨small, allowed⟩)
        waiting expects
  | error split allowed large =>
      exact .error (by rw [split, List.cons_append]) (List.forall_mem_cons.mpr ⟨small, allowed⟩)
        large

theorem drain_spec {fuel : Nat} {decoder : V2Decoder} {input later : List UInt8} {inPlace : Bool}
    {room : Nat} {messages : List Msg} (enough : input.length ≤ fuel)
    (fits : ∀ m ∈ messages, m.size < 2 ^ 64) (within : inPlace = true → input.length ≤ decoder.toRead)
    (expects : decoder.Expects messages (input ++ later)) :
    ∃ result, drain fuel decoder input inPlace room = some result ∧
      Drains decoder.maxmsgsize messages later result ∧
      result.1.maxmsgsize = decoder.maxmsgsize := by
  induction fuel generalizing decoder input inPlace room messages with
  | zero =>
      have empty : input = [] := List.length_eq_zero_iff.mp (Nat.le_zero.mp enough)
      subst empty
      exact ⟨_, rfl, .ok rfl (by simp) expects, rfl⟩
  | succ fuel ih =>
      unfold drain
      by_cases empty : input = []
      · subst empty
        rw [if_pos rfl]
        exact ⟨_, rfl, .ok rfl (by simp) expects, rfl⟩
      rw [if_neg empty]
      have either : (if inPlace = true then decoder.decodeInPlace input
          else some (decoder.decode input)) = some (decoder.decode input) := by
        split
        next place => exact V2Decoder.decodeInPlace_eq empty (within place)
        next => rfl
      have decoded := V2Decoder.decode_spec fits expects
      rw [either]
      generalize decoder.decode input = result at decoded
      obtain ⟨after, outcome, rest⟩ := result
      obtain ⟨reads, limit, used, all_used, some_used⟩ := decoded
      have shorter := some_used empty
      dsimp only at reads limit used all_used shorter ⊢
      cases reads with
      | needsMore stands =>
          have nothing := all_used rfl
          subst nothing
          exact ⟨_, rfl, .ok rfl (by simp) stands, limit⟩
      | @tooLarge _ m behind first large =>
          exact ⟨_, rfl, .error first (by simp) large, limit⟩
      | @message _ m behind first whole allowed stands =>
          subst first
          cases room with
          | zero =>
              refine ⟨_, rfl, .again ?_ (by simp) ?_ stands, limit⟩
              · rw [whole, List.nil_append]
              · rw [whole]
                exact allowed
          | succ room =>
              have behind_fits : ∀ other ∈ behind, other.size < 2 ^ 64 :=
                fun other member => fits other (by simp [member])
              have not_in_place : false = true → rest.length ≤ after.toRead :=
                fun never => by cases never
              obtain ⟨result, same, drains, kept⟩ :=
                @ih after rest false room behind (by omega) behind_fits not_in_place stands
              refine ⟨(result.1, result.2.1, after.inProgress :: result.2.2.1, result.2.2.2), ?_, ?_,
                kept.trans limit⟩
              · dsimp only
                rw [same]
                rfl
              · rw [whole]
                rw [limit] at drains
                exact drains.cons m allowed

def inFlight (c : Connection) : List UInt8 :=
  c.input ++ (c.wire ++ (c.out ++ c.encoder.remaining))

def waiting (c : Connection) : List Msg := if c.inputStopped then [c.decoder.inProgress] else []

structure Sound (limit : Int) (c : Connection) : Prop where
  aborted : c.aborted = false
  encoder : c.encoder.Sound
  configured : c.decoder.maxmsgsize = limit
  fits : ∀ m ∈ c.pulled ++ c.toSend, m.size < 2 ^ 64
  idle : c.outputStopped = true → c.out ++ c.encoder.remaining = []
  receiving : c.ended = none →
    ∃ todo, c.pulled = c.pushed ++ c.waiting ++ todo ∧ c.decoder.Expects todo c.inFlight
  pushed : c.pushed <+: c.pulled
  allowed : ∀ m ∈ c.pushed ++ c.waiting, exceeds limit m.size = false
  rejected : c.ended = some .tooLarge →
    ∃ m rest, c.pulled = c.pushed ++ m :: rest ∧ exceeds limit m.size = true

theorem sound_initial (limit : Int) : Sound limit { decoder := { maxmsgsize := limit } } where
  aborted := rfl
  encoder := V2Encoder.sound_initial
  configured := rfl
  fits := by simp
  idle := fun stopped => by cases stopped
  receiving := fun _ => ⟨[], rfl, V2Decoder.expects_start limit []⟩
  pushed := List.prefix_refl []
  allowed := by simp [waiting]
  rejected := fun ended => by cases ended

theorem Sound.batch {limit : Int} {c : Connection} (sound : c.Sound limit)
    (polling : c.outputStopped = false) :
    c.batch.Sound limit ∧ c.batch.pulled ++ c.batch.toSend = c.pulled ++ c.toSend := by
  unfold Connection.batch
  split
  next empty =>
    have encoded := V2Encoder.encode_spec sound.encoder false outBatchSize
    have own : c.encoder.inProgress.isSome = false → (c.encoder.encode false outBatchSize).1 = [] := by
      intro none
      rw [Option.isSome_eq_false_iff, Option.isNone_iff_eq_none] at none
      simp [V2Encoder.encode, none]
    obtain ⟨⟨toSend, pulled, encoder, out⟩, same, filled⟩ :=
      @fill_spec c.toSend _ _ _ encoded.sound own encoded.ended
    have bytes := filled.bytes
    have split := filled.split
    rw [← encoded.all] at bytes
    dsimp only at bytes split ⊢
    rw [same]
    dsimp only
    have all : c.pulled ++ pulled ++ toSend = c.pulled ++ c.toSend := by
      rw [List.append_assoc, split]
    refine ⟨?_, all⟩
    exact
      { aborted := sound.aborted
        encoder := filled.sound
        configured := sound.configured
        fits := fun m member => sound.fits m (all ▸ member)
        idle := by
          intro stopped
          simp only [polling, Bool.false_or, decide_eq_true_eq] at stopped
          have nothing := filled.nothing stopped
          dsimp only at nothing
          rw [stopped, nothing]
          rfl
        receiving := by
          intro running
          obtain ⟨todo, whole, expects⟩ := sound.receiving running
          refine ⟨todo ++ pulled, ?_, ?_⟩
          · dsimp only [waiting]
            rw [whole, List.append_assoc _ todo]
            rfl
          · have more := expects.append pulled
            simp only [inFlight, empty, List.nil_append, List.append_assoc] at more ⊢
            rw [bytes]
            exact more
        pushed := List.IsPrefix.trans sound.pushed (List.prefix_append _ _)
        allowed := sound.allowed
        rejected := by
          intro ended
          obtain ⟨m, rest, whole, large⟩ := sound.rejected ended
          refine ⟨m, rest ++ pulled, ?_, large⟩
          dsimp only
          rw [whole, List.append_assoc, List.cons_append] }
  next => exact ⟨sound, rfl⟩

theorem Sound.outEvent {limit : Int} {c : Connection} (sound : c.Sound limit)
    (polling : c.outputStopped = false) (nbytes : Nat) :
    (c.outEvent nbytes).Sound limit ∧
      (c.outEvent nbytes).pulled ++ (c.outEvent nbytes).toSend = c.pulled ++ c.toSend := by
  obtain ⟨filled, all⟩ := sound.batch polling
  refine ⟨?_, all⟩
  exact
    { aborted := filled.aborted
      encoder := filled.encoder
      configured := filled.configured
      fits := filled.fits
      idle := by
        intro stopped
        have nothing := filled.idle stopped
        rw [List.append_eq_nil_iff] at nothing
        simp [Connection.outEvent, nothing.1, nothing.2]
      receiving := by
        intro running
        obtain ⟨todo, whole, expects⟩ := filled.receiving running
        refine ⟨todo, whole, ?_⟩
        have same : (c.outEvent nbytes).inFlight = c.batch.inFlight := by
          simp only [inFlight, Connection.outEvent]
          rw [List.append_assoc c.batch.wire, ← List.append_assoc (List.take _ _),
            List.take_append_drop]
        rw [same]
        exact expects
      pushed := filled.pushed
      allowed := filled.allowed
      rejected := filled.rejected }

theorem Sound.process {limit : Int} {c : Connection} (sound : c.Sound limit)
    (running : c.ended = none) (reading : c.inputStopped = false) {inPlace : Bool}
    (within : inPlace = true → c.input.length ≤ c.decoder.toRead) (room : Nat) :
    (c.process inPlace room).Sound limit := by
  obtain ⟨todo, whole, expects⟩ := sound.receiving running
  simp only [waiting, reading, Bool.false_eq_true, if_false, List.append_nil] at whole
  have fits : ∀ m ∈ todo, m.size < 2 ^ 64 := fun m member => sound.fits m (by simp [whole, member])
  have pushed_allowed : ∀ m ∈ c.pushed, exceeds limit m.size = false :=
    fun m member => sound.allowed m (by simp [member])
  obtain ⟨⟨decoder, input, pushed, drained⟩, same, drains, kept⟩ :=
    @drain_spec c.input.length c.decoder c.input _ inPlace room todo (Nat.le_refl _) fits within
      expects
  rw [sound.configured] at drains kept
  unfold Connection.process
  rw [same]
  dsimp only at kept ⊢
  cases drains with
  | @ok _ _ rest split allowed stands =>
      exact
        { aborted := sound.aborted
          encoder := sound.encoder
          configured := kept
          fits := sound.fits
          idle := sound.idle
          receiving := by
            intro _
            refine ⟨rest, ?_, stands⟩
            simp [waiting, whole, split]
          pushed := by simp [whole, split]
          allowed := by
            simp only [waiting, reduceCtorEq, decide_false, Bool.false_eq_true, if_false,
              List.append_nil]
            exact List.forall_mem_append.mpr ⟨pushed_allowed, allowed⟩
          rejected := by simp [running] }
  | @again _ _ _ rest split allowed waits stands =>
      exact
        { aborted := sound.aborted
          encoder := sound.encoder
          configured := kept
          fits := sound.fits
          idle := sound.idle
          receiving := by
            intro _
            refine ⟨rest, ?_, stands⟩
            simp [waiting, whole, split]
          pushed := by simp [whole, split]
          allowed := by
            simp only [waiting, decide_true, if_true]
            rw [List.forall_mem_append, List.forall_mem_append, List.forall_mem_singleton]
            exact ⟨⟨pushed_allowed, allowed⟩, waits⟩
          rejected := by simp [running] }
  | @error _ _ m _ rest split allowed large =>
      exact
        { aborted := sound.aborted
          encoder := sound.encoder
          configured := kept
          fits := sound.fits
          idle := sound.idle
          receiving := by simp
          pushed := by simp [whole, split]
          allowed := by
            simp only [waiting, reduceCtorEq, decide_false, Bool.false_eq_true, if_false,
              List.append_nil]
            exact List.forall_mem_append.mpr ⟨pushed_allowed, allowed⟩
          rejected := by
            intro _
            exact ⟨m, rest, by rw [whole, split, List.append_assoc], large⟩ }

theorem process_pulled (c : Connection) (inPlace : Bool) (room : Nat) :
    (c.process inPlace room).pulled = c.pulled ∧ (c.process inPlace room).toSend = c.toSend := by
  unfold Connection.process
  split
  next => exact ⟨rfl, rfl⟩
  next => exact ⟨rfl, rfl⟩

theorem Sound.inEvent {limit : Int} {c next : Connection} {received room : Nat}
    (sound : c.Sound limit) (taken : c.inEvent received room = some next) :
    next.Sound limit ∧ next.pulled ++ next.toSend = c.pulled ++ c.toSend := by
  unfold Connection.inEvent at taken
  split at taken
  next => cases taken
  next open_ =>
    simp only [ne_eq, Bool.or_eq_true, decide_eq_true_eq, not_or, Decidable.not_not] at open_
    obtain ⟨-, running⟩ := open_
    split at taken
    next =>
      cases taken
      exact ⟨{ sound with }, rfl⟩
    next reading =>
      have reading := Bool.eq_false_iff.mpr reading
      split at taken
      next empty =>
        split at taken
        next arrived =>
          cases taken
          simp only [Bool.and_eq_true, decide_eq_true_eq] at arrived
          obtain ⟨⟨-, buffer⟩, present⟩ := arrived
          have read : Sound limit { c with
              input := c.wire.take received
              wire := c.wire.drop received } := by
            refine { sound with receiving := fun _ => ?_ }
            obtain ⟨todo, whole, expects⟩ := sound.receiving running
            refine ⟨todo, whole, ?_⟩
            have same := expects
            rw [inFlight, empty, List.nil_append, ← List.take_append_drop received c.wire,
              List.append_assoc] at same
            exact same
          refine ⟨read.process running reading ?_ room, ?_⟩
          · intro large
            rw [decide_eq_true_eq] at large
            rw [V2Decoder.bufferSize, if_pos large] at buffer
            dsimp only
            rw [List.length_take]
            omega
          · rw [(process_pulled _ _ _).1, (process_pulled _ _ _).2]
        next => cases taken
      next =>
        cases taken
        have not_in_place : false = true → c.input.length ≤ c.decoder.toRead :=
          fun never => by cases never
        refine ⟨sound.process running reading not_in_place room, ?_⟩
        rw [(process_pulled _ _ _).1, (process_pulled _ _ _).2]

theorem Sound.resume {limit : Int} {c : Connection} (sound : c.Sound limit)
    (running : c.ended = none) (stopped : c.inputStopped = true) :
    Sound limit { c with
      pushed := c.pushed ++ [c.decoder.inProgress]
      inputStopped := false } := by
  have waits : c.waiting = [c.decoder.inProgress] := if_pos stopped
  obtain ⟨todo, whole, expects⟩ := sound.receiving running
  rw [waits] at whole
  exact
    { sound with
      receiving := by
        intro _
        refine ⟨todo, ?_, expects⟩
        simp [waiting, whole]
      pushed := by simp [whole]
      allowed := by
        have allowed := sound.allowed
        rw [waits] at allowed
        simpa [waiting] using allowed
      rejected := by simp [running] }

theorem Sound.restartInput {limit : Int} {c next : Connection} {room : Nat}
    (sound : c.Sound limit) (taken : c.restartInput room = some next) :
    next.Sound limit ∧ next.pulled ++ next.toSend = c.pulled ++ c.toSend := by
  unfold Connection.restartInput at taken
  split at taken
  next => cases taken
  next stopped =>
    simp only [ne_eq, Bool.or_eq_true, Bool.not_eq_true', decide_eq_true_eq, not_or,
      Bool.not_eq_false, Decidable.not_not] at stopped
    obtain ⟨stopped, running⟩ := stopped
    cases room with
    | zero =>
        cases taken
        exact ⟨sound, rfl⟩
    | succ room =>
        have not_in_place : false = true → c.input.length ≤ c.decoder.toRead :=
          fun never => by cases never
        have resumed := (sound.resume running stopped).process running rfl not_in_place room
        have same := process_pulled { c with
          pushed := c.pushed ++ [c.decoder.inProgress]
          inputStopped := false } false room
        dsimp only at taken
        generalize Connection.process _ false room = after at taken resumed same
        dsimp only at same
        split at taken
        next =>
          cases taken
          refine ⟨{ resumed with receiving := fun ended => ?_, rejected := fun ended => ?_ }, ?_⟩
          · cases ended
          · cases ended
          · rw [← same.1, ← same.2]
        next =>
          cases taken
          rw [same.1, same.2]
          exact ⟨resumed, rfl⟩

namespace Action

def arrivals : Action → List Msg
  | .arrive m => [m]
  | _ => []

end Action

theorem Sound.step {limit : Int} {c next : Connection} {action : Action} (sound : c.Sound limit)
    (fits : ∀ m ∈ action.arrivals, m.size < 2 ^ 64)
    (taken : Connection.step c action = some next) :
    next.Sound limit ∧ next.pulled ++ next.toSend = c.pulled ++ c.toSend ++ action.arrivals := by
  cases action with
  | arrive m =>
      cases taken
      refine ⟨{ sound with fits := ?_ }, ?_⟩
      · dsimp only
        rw [← List.append_assoc]
        exact List.forall_mem_append.mpr ⟨sound.fits, fits⟩
      · simp [Action.arrivals]
  | outEvent nbytes =>
      simp only [Connection.step] at taken
      split at taken
      next => cases taken
      next polling =>
        cases taken
        simp only [Action.arrivals, List.append_nil]
        exact sound.outEvent (Bool.eq_false_iff.mpr polling) nbytes
  | restartOutput nbytes =>
      cases taken
      simp only [Action.arrivals, List.append_nil]
      have awake : Sound limit { c with outputStopped := false } :=
        { sound with idle := fun stopped => by cases stopped }
      exact awake.outEvent rfl nbytes
  | inEvent received room =>
      simp only [Action.arrivals, List.append_nil]
      exact sound.inEvent taken
  | restartInput room =>
      simp only [Action.arrivals, List.append_nil]
      exact sound.restartInput taken
  | hangUp =>
      cases taken
      refine ⟨{ sound with receiving := fun running => ?_, rejected := fun ended => ?_ }, ?_⟩
      · cases before : c.ended with
        | none => simp [before] at running
        | some ending => simp [before] at running
      · cases before : c.ended with
        | none => simp [before] at ended
        | some ending =>
            simp only [before, Option.or_some, Option.getD_some, Option.some.injEq] at ended
            exact sound.rejected (ended ▸ before)
      · simp [Action.arrivals]

def arrivals (actions : List Action) : List Msg := actions.flatMap Action.arrivals

theorem Sound.run {limit : Int} {c final : Connection} {actions : List Action}
    (sound : c.Sound limit) (fits : ∀ m ∈ arrivals actions, m.size < 2 ^ 64)
    (reached : Transition.run Connection.step c actions = some final) :
    final.Sound limit ∧ final.pulled ++ final.toSend = c.pulled ++ c.toSend ++ arrivals actions := by
  induction actions generalizing c with
  | nil =>
      cases reached
      exact ⟨sound, by simp [arrivals]⟩
  | cons action rest ih =>
      obtain ⟨next, taken, remaining⟩ := run_cons_some.mp reached
      rw [arrivals, List.flatMap_cons] at fits ⊢
      rw [List.forall_mem_append] at fits
      obtain ⟨sound_next, all⟩ := sound.step fits.1 taken
      obtain ⟨sound_final, all_final⟩ := ih sound_next fits.2 remaining
      refine ⟨sound_final, ?_⟩
      rw [all_final, all, List.append_assoc]
      rfl

structure Carries (limit : Int) (given : List Msg) (c : Connection) : Prop where
  aborted : c.aborted = false
  pulled : c.pulled ++ c.toSend = given
  pushed : c.pushed <+: c.pulled
  allowed : ∀ m ∈ c.pushed, exceeds limit m.size = false
  rejected : c.ended = some .tooLarge →
    ∃ m rest, c.pulled = c.pushed ++ m :: rest ∧ exceeds limit m.size = true
  idle : c.outputStopped = true → c.out ++ c.encoder.remaining = []
  whole : c.ended = none → c.inputStopped = false → c.inFlight = [] → c.pushed = c.pulled

/-- However the bytes are cut on their way, and however often the session refuses a message for a
time, the messages that come out are those that went in. -/
theorem carries_messages (limit : Int) {actions : List Action} {final : Connection}
    (fits : ∀ m ∈ arrivals actions, m.size < 2 ^ 64)
    (reached : Transition.run Connection.step { decoder := { maxmsgsize := limit } } actions =
      some final) : Carries limit (arrivals actions) final := by
  obtain ⟨sound, all⟩ := (sound_initial limit).run fits reached
  refine ⟨sound.aborted, ?_, sound.pushed, ?_, sound.rejected, sound.idle, ?_⟩
  · simpa using all
  · intro m member
    exact sound.allowed m (by simp [member])
  · intro running reading empty
    obtain ⟨todo, whole, expects⟩ := sound.receiving running
    rw [empty] at expects
    have nothing := V2Decoder.expects_nothing expects
    simpa [waiting, reading, nothing] using whole.symm

-- The second message comes in two pieces, and the session takes it only when asked again.
theorem carries_messages_refused :
    let first : Msg := { body := [7, 8], more := true }
    let second : Msg := { body := [9] }
    let actions : List Action := [.restartOutput 0, .arrive first, .arrive second, .restartOutput 3,
      .inEvent 3 1, .outEvent 2, .inEvent 2 1, .outEvent 9, .inEvent 2 0, .outEvent 9,
      .restartInput 1]
    ∃ final, Transition.run Connection.step { decoder := { maxmsgsize := 2 } } actions = some final ∧
      final.pushed = [first, second] ∧ final.outputStopped = true ∧
      Carries 2 [first, second] final := by
  intro first second actions
  have accepted : (Transition.run Connection.step { decoder := { maxmsgsize := 2 } } actions).any
      (fun c => c.pushed = [first, second] && c.outputStopped) = true := by decide +kernel
  obtain ⟨final, reached, checked⟩ := Transition.reached_of_check accepted
  simp only [Bool.and_eq_true, decide_eq_true_eq] at checked
  have given : arrivals actions = [first, second] := rfl
  refine ⟨final, reached, checked.1, checked.2, ?_⟩
  rw [← given]
  exact carries_messages 2 (by rw [given]; decide) reached

end Connection

end Zmqcpp
