import Zmqcpp.Engine.Wire

set_option autoImplicit false

namespace Zmqcpp

open Wire

inductive EncoderStep
  | messageReady
  | sizeReady
  deriving DecidableEq, Repr

/-- v2_encoder_t. `toWrite` is what is left to be written before `next`. -/
structure V2Encoder where
  inProgress : Option Msg := none
  toWrite : List UInt8 := []
  next : EncoderStep := .messageReady
  newMsgFlag : Bool := true
  deriving DecidableEq, Repr

namespace V2Encoder

def nextStep (e : V2Encoder) (toWrite : List UInt8) (next : EncoderStep) (newMsgFlag : Bool) :
    V2Encoder :=
  { e with toWrite, next, newMsgFlag }

def advance (e : V2Encoder) (m : Msg) : V2Encoder :=
  match e.next with
  | .messageReady => e.nextStep (header m) .sizeReady false
  | .sizeReady => e.nextStep m.body .messageReady true

/-- load_msg; `none` is the assertion that no message is in progress. -/
def loadMsg (e : V2Encoder) (m : Msg) : Option V2Encoder :=
  if e.inProgress = none then some ({ e with inProgress := some m }.advance m) else none

/-- The loop of encode. `fresh` says that nothing is in the buffer yet and that the caller has
given no buffer: then what fills the room is handed out where it is, all of it. -/
def encodeLoop (m : Msg) : Nat → V2Encoder → Nat → Bool → List UInt8 × V2Encoder
  | 0, e, _, _ => ([], e)
  | fuel + 1, e, room, fresh =>
      if room = 0 then ([], e)
      else if e.toWrite = [] && e.newMsgFlag then ([], { e with inProgress := none })
      else
        let ready := if e.toWrite = [] then e.advance m else e
        if fresh && room ≤ ready.toWrite.length then (ready.toWrite, { ready with toWrite := [] })
        else
          let toCopy := min ready.toWrite.length room
          let rest := encodeLoop m fuel { ready with toWrite := ready.toWrite.drop toCopy }
            (room - toCopy) (fresh && toCopy = 0)
          (ready.toWrite.take toCopy ++ rest.1, rest.2)

/-- encode into a buffer of that size, `given` by the caller or the encoder's own. -/
def encode (e : V2Encoder) (given : Bool) (size : Nat) : List UInt8 × V2Encoder :=
  match e.inProgress with
  | none => ([], e)
  | some m => encodeLoop m (size + 2) e size (!given)

def remaining (e : V2Encoder) : List UInt8 :=
  match e.inProgress with
  | none => []
  | some m => e.toWrite ++ if e.newMsgFlag then [] else m.body

structure Sound (e : V2Encoder) : Prop where
  next : e.next = if e.newMsgFlag then .messageReady else .sizeReady
  between : e.inProgress = none → e.toWrite = [] ∧ e.newMsgFlag = true

theorem sound_initial : Sound {} := ⟨rfl, fun _ => ⟨rfl, rfl⟩⟩

theorem header_ne_nil (m : Msg) : header m ≠ [] := List.cons_ne_nil _ _

theorem loadMsg_spec {e : V2Encoder} (sound : e.Sound) (free : e.inProgress = none) (m : Msg) :
    ∃ loaded, e.loadMsg m = some loaded ∧ loaded.Sound ∧ loaded.inProgress = some m ∧
      loaded.remaining = frame m ∧ loaded.toWrite ≠ [] := by
  obtain ⟨-, new⟩ := sound.between free
  have ready : e.next = .messageReady := by rw [sound.next, new]; rfl
  refine ⟨_, if_pos free, ?_⟩
  simp only [advance, ready, nextStep]
  exact ⟨⟨rfl, fun none => by cases none⟩, by simp, rfl, header_ne_nil m⟩

/-- What an encoding gives and what it leaves are together what there was; and it stops short of the
room only at the end of the message. -/
structure Encoded (e : V2Encoder) (room : Nat) (result : List UInt8 × V2Encoder) : Prop where
  sound : result.2.Sound
  all : e.remaining = result.1 ++ result.2.remaining
  ended : result.1.length < room → result.2.inProgress = none
  same : result.2.inProgress = none ∨ result.2.inProgress = e.inProgress

-- When nothing is left to be written of a step, the next one is taken.
theorem ready_spec {m : Msg} {e : V2Encoder} (sound : e.Sound) (loaded : e.inProgress = some m)
    (open_ : ¬(e.toWrite = [] && e.newMsgFlag) = true) :
    let ready := if e.toWrite = [] then e.advance m else e
    ready.Sound ∧ ready.inProgress = some m ∧ ready.remaining = e.remaining ∧
      (e.newMsgFlag = true → ready.newMsgFlag = true) ∧
      (e.newMsgFlag = true ∨ ready.newMsgFlag = false → ready.toWrite ≠ []) := by
  by_cases empty : e.toWrite = []
  · have more : e.newMsgFlag = false := by simpa [empty] using open_
    have next : e.next = .sizeReady := by rw [sound.next, more]; rfl
    simp only [empty, if_true, advance, next, nextStep]
    refine ⟨⟨rfl, fun none => ?_⟩, loaded, ?_, fun _ => trivial, ?_⟩
    · cases loaded.symm.trans none
    · simp [remaining, loaded, empty, more]
    · simp [more]
  · simp only [empty, if_false]
    exact ⟨sound, loaded, trivial, id, fun _ => empty⟩

theorem encodeLoop_spec {m : Msg} {fuel : Nat} {e : V2Encoder} {room : Nat} (sound : e.Sound)
    (loaded : e.inProgress = some m) (fresh : Bool)
    (enough : room + (if e.newMsgFlag then 0 else 1) < fuel) :
    Encoded e room (encodeLoop m fuel e room fresh) := by
  induction fuel generalizing e room fresh with
  | zero => omega
  | succ fuel ih =>
      unfold encodeLoop
      by_cases none_left : room = 0
      · rw [if_pos none_left]
        exact ⟨sound, rfl, fun short => by simp [none_left] at short, .inr rfl⟩
      rw [if_neg none_left]
      by_cases spent : (e.toWrite = [] && e.newMsgFlag) = true
      · rw [if_pos spent]
        simp only [Bool.and_eq_true, decide_eq_true_eq] at spent
        refine ⟨⟨sound.next, fun _ => spent⟩, ?_, fun _ => rfl, .inl rfl⟩
        simp [remaining, loaded, spent.1, spent.2]
      rw [if_neg spent]
      obtain ⟨ready_sound, ready_loaded, same, flag, some_left⟩ := ready_spec sound loaded spent
      dsimp only at ready_sound ready_loaded same flag some_left ⊢
      generalize (if e.toWrite = [] then e.advance m else e) = ready at *
      have parts : ready.remaining =
          ready.toWrite ++ if ready.newMsgFlag then [] else m.body := by
        simp [remaining, ready_loaded]
      by_cases handed : (fresh && room ≤ ready.toWrite.length) = true
      · rw [if_pos handed]
        simp only [Bool.and_eq_true, decide_eq_true_eq] at handed
        refine ⟨⟨ready_sound.next, fun none => ?_⟩, ?_, fun short => ?_, .inr ?_⟩
        · cases ready_loaded.symm.trans none
        · rw [← same, parts]
          simp [remaining, ready_loaded]
        · exact absurd short (Nat.not_lt.mpr handed.2)
        · exact ready_loaded.trans loaded.symm
      rw [if_neg handed]
      have copied_sound (count : Nat) : Sound { ready with toWrite := ready.toWrite.drop count } := by
        refine ⟨ready_sound.next, fun none => ?_⟩
        cases ready_loaded.symm.trans none
      have rest : Encoded { ready with toWrite := ready.toWrite.drop (min ready.toWrite.length room) }
          (room - min ready.toWrite.length room) _ :=
        ih (copied_sound (min ready.toWrite.length room)) ready_loaded
          (fresh && min ready.toWrite.length room = 0) ?_
      · generalize encodeLoop m fuel { ready with
          toWrite := ready.toWrite.drop (min ready.toWrite.length room) }
          (room - min ready.toWrite.length room)
          (fresh && min ready.toWrite.length room = 0) = result at rest ⊢
        refine ⟨rest.sound, ?_, fun short => rest.ended ?_, ?_⟩
        · have all := rest.all
          simp only [remaining, ready_loaded] at all
          rw [← same, parts, List.append_assoc]
          simp only [remaining]
          rw [← all, ← List.append_assoc, List.take_append_drop]
        · rw [List.length_append, List.length_take] at short
          omega
        · rw [loaded, ← ready_loaded]
          exact rest.same
      · have copies (left : ready.toWrite ≠ []) : 0 < min ready.toWrite.length room := by
          have positive := List.length_pos_of_ne_nil left
          omega
        cases former : e.newMsgFlag with
        | true =>
            have positive := copies (some_left (.inl former))
            simp only [former, flag former, if_true] at enough ⊢
            omega
        | false =>
            simp only [former, Bool.false_eq_true, if_false] at enough
            cases now : ready.newMsgFlag with
            | true =>
                simp only [if_true]
                omega
            | false =>
                have positive := copies (some_left (.inr now))
                simp only [Bool.false_eq_true, if_false]
                omega

theorem encode_spec {e : V2Encoder} (sound : e.Sound) (given : Bool) (size : Nat) :
    Encoded e size (e.encode given size) := by
  unfold encode
  split
  next none => exact ⟨sound, rfl, fun _ => none, .inr rfl⟩
  next m loaded =>
    apply encodeLoop_spec sound loaded
    split <;> omega

-- Of what is ready some is always written.
theorem encode_loaded {e : V2Encoder} {m : Msg} (loaded : e.inProgress = some m)
    (some_left : e.toWrite ≠ []) (given : Bool) {size : Nat} (room : 0 < size) :
    (e.encode given size).1 ≠ [] := by
  simp only [encode, loaded]
  rw [encodeLoop, if_neg (by omega), if_neg (by simp [some_left])]
  simp only [some_left, if_false]
  split
  next => exact some_left
  next =>
    have positive := List.length_pos_of_ne_nil some_left
    intro none_written
    have first := (List.append_eq_nil_iff.mp none_written).1
    rw [List.take_eq_nil_iff] at first
    rcases first with zero | empty
    · omega
    · exact some_left empty

end V2Encoder

end Zmqcpp
