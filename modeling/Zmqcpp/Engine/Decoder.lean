import Zmqcpp.Engine.Wire

set_option autoImplicit false

namespace Zmqcpp

open Wire

inductive DecoderStep
  | flagsReady
  | oneByteSizeReady
  | eightByteSizeReady
  | messageReady
  deriving DecidableEq, Repr

/-- What decode returns: 0, 1, or -1 with EMSGSIZE. -/
inductive DecodeResult
  | needsMore
  | message
  | tooLarge
  deriving DecidableEq, Repr

/-- v2_decoder_t. `got` is what has been read of the present field, `toRead` what is missing of it,
`next` what is to be done when it is there. -/
structure V2Decoder where
  next : DecoderStep := .flagsReady
  got : List UInt8 := []
  toRead : Nat := 1
  more : Bool := false
  command : Bool := false
  inProgress : Msg := { body := [] }
  maxmsgsize : Int
  deriving DecidableEq, Repr

def exceeds (maxmsgsize : Int) (size : Nat) : Bool := 0 ≤ maxmsgsize && maxmsgsize < size

namespace V2Decoder

def nextStep (d : V2Decoder) (toRead : Nat) (next : DecoderStep) : V2Decoder :=
  { d with got := [], toRead, next }

def flagsReady (d : V2Decoder) : V2Decoder × DecodeResult :=
  let flags := d.got.headD 0
  let read := { d with
    more := flags &&& moreFlag ≠ 0
    command := flags &&& commandFlag ≠ 0 }
  if flags &&& largeFlag ≠ 0 then (read.nextStep 8 .eightByteSizeReady, .needsMore)
  else (read.nextStep 1 .oneByteSizeReady, .needsMore)

def sizeReady (d : V2Decoder) (size : Nat) : V2Decoder × DecodeResult :=
  if exceeds d.maxmsgsize size then (d, .tooLarge) else (d.nextStep size .messageReady, .needsMore)

def messageReady (d : V2Decoder) : V2Decoder × DecodeResult :=
  ({ d with inProgress := { body := d.got, more := d.more, command := d.command } }.nextStep 1
    .flagsReady, .message)

def advance (d : V2Decoder) : V2Decoder × DecodeResult :=
  match d.next with
  | .flagsReady => d.flagsReady
  | .oneByteSizeReady => d.sizeReady (d.got.headD 0).toNat
  | .eightByteSizeReady => d.sizeReady (getUint64 d.got)
  | .messageReady => d.messageReady

/-- The loop while to_read is 0. Only the size of an empty message is followed by a second step. -/
def advances : Nat → V2Decoder → V2Decoder × DecodeResult
  | 0, d => (d, .needsMore)
  | fuel + 1, d =>
      if d.toRead = 0 then
        match d.advance with
        | (after, .needsMore) => advances fuel after
        | stopped => stopped
      else (d, .needsMore)

def copy (d : V2Decoder) (data : List UInt8) (toCopy : Nat) : V2Decoder :=
  { d with got := d.got ++ data.take toCopy, toRead := d.toRead - toCopy }

/-- decode; the last component is what it leaves of the data. -/
def decodeLoop : Nat → V2Decoder → List UInt8 → V2Decoder × DecodeResult × List UInt8
  | 0, d, data => (d, .needsMore, data)
  | fuel + 1, d, data =>
      if data = [] then (d, .needsMore, [])
      else
        let toCopy := min d.toRead data.length
        match (d.copy data toCopy).advances 3 with
        | (after, .needsMore) => decodeLoop fuel after (data.drop toCopy)
        | (after, stopped) => (after, stopped, data.drop toCopy)

def decode (d : V2Decoder) (data : List UInt8) : V2Decoder × DecodeResult × List UInt8 :=
  d.decodeLoop data.length data

/-- decode of data that the caller has read straight into the message. -/
def decodeInPlace (d : V2Decoder) (data : List UInt8) :
    Option (V2Decoder × DecodeResult × List UInt8) :=
  if d.toRead < data.length then none
  else
    let filled := d.copy data data.length
    some ((filled.advances 3).1, (filled.advances 3).2, [])

def bufferSize (d : V2Decoder) (bufsize : Nat) : Nat :=
  if bufsize ≤ d.toRead then d.toRead else bufsize

/-- The decoder stands within the frames of these messages, of which these bytes are to come. -/
inductive Expects : V2Decoder → List Msg → List UInt8 → Prop
  | flags {d : V2Decoder} {messages : List Msg} (next : d.next = .flagsReady) (got : d.got = [])
      (toRead : d.toRead = 1) : Expects d messages (frames messages)
  | oneByte {d : V2Decoder} {m : Msg} {later : List Msg} (next : d.next = .oneByteSizeReady)
      (got : d.got = []) (toRead : d.toRead = 1) (small : m.size ≤ 255) (more : d.more = m.more)
      (command : d.command = m.command) :
      Expects d (m :: later) (UInt8.ofNat m.size :: m.body ++ frames later)
  | eightByte {d : V2Decoder} {m : Msg} {later : List Msg} {rest : List UInt8}
      (next : d.next = .eightByteSizeReady) (toRead : d.got.length + d.toRead = 8)
      (missing : 0 < d.toRead) (fits : m.size < 2 ^ 64) (split : d.got ++ rest = putUint64 m.size)
      (more : d.more = m.more) (command : d.command = m.command) :
      Expects d (m :: later) (rest ++ m.body ++ frames later)
  | message {d : V2Decoder} {m : Msg} {later : List Msg} {rest : List UInt8}
      (next : d.next = .messageReady) (toRead : rest.length = d.toRead) (missing : 0 < d.toRead)
      (split : d.got ++ rest = m.body) (allowed : exceeds d.maxmsgsize m.size = false)
      (more : d.more = m.more) (command : d.command = m.command) :
      Expects d (m :: later) (rest ++ frames later)

/-- What a call leaves of the messages that the decoder expects, and of the bytes to come. -/
inductive Reads (limit : Int) (messages : List Msg) (bytes : List UInt8) :
    V2Decoder × DecodeResult → Prop
  | needsMore {after : V2Decoder} (expects : Expects after messages bytes) :
      Reads limit messages bytes (after, .needsMore)
  | message {after : V2Decoder} {m : Msg} {later : List Msg} (first : messages = m :: later)
      (whole : after.inProgress = m) (allowed : exceeds limit m.size = false)
      (expects : Expects after later bytes) : Reads limit messages bytes (after, .message)
  | tooLarge {after : V2Decoder} {m : Msg} {later : List Msg} (first : messages = m :: later)
      (large : exceeds limit m.size = true) : Reads limit messages bytes (after, .tooLarge)

-- Nothing is left to be read of the field that the decoder is in.
theorem reads_message {d : V2Decoder} {m : Msg} (later : List Msg) (next : d.next = .messageReady)
    (toRead : d.toRead = 0) (got : d.got = m.body) (allowed : exceeds d.maxmsgsize m.size = false)
    (more : d.more = m.more) (command : d.command = m.command) (fuel : Nat) :
    Reads d.maxmsgsize (m :: later) (frames later) (d.advances (fuel + 1)) := by
  simp only [advances, toRead, if_true, advance, next, messageReady]
  exact .message rfl (by simp [nextStep, got, more, command]) allowed (.flags rfl rfl rfl)

theorem reads_size {d : V2Decoder} {m : Msg} (later : List Msg)
    (advances_ : d.advance = d.sizeReady m.size) (toRead : d.toRead = 0) (more : d.more = m.more)
    (command : d.command = m.command) (fuel : Nat) :
    Reads d.maxmsgsize (m :: later) (m.body ++ frames later) (d.advances (fuel + 2)) := by
  rw [advances, if_pos toRead, advances_, sizeReady]
  by_cases large : exceeds d.maxmsgsize m.size = true
  · simp only [large, if_true]
    exact .tooLarge rfl large
  · have allowed := Bool.eq_false_iff.mpr large
    simp only [large, Bool.false_eq_true, if_false]
    by_cases empty : m.body = []
    · have read := reads_message (d := d.nextStep m.size .messageReady) later rfl
        (by simp [nextStep, Msg.size, empty]) (by simp [nextStep, empty]) allowed more command fuel
      rw [empty, List.nil_append]
      exact read
    · have missing : 0 < m.size := List.length_pos_of_ne_nil empty
      have there : (d.nextStep m.size .messageReady).toRead ≠ 0 := Nat.pos_iff_ne_zero.mp missing
      rw [advances, if_neg there]
      exact .needsMore (.message rfl rfl missing rfl allowed more command)

theorem reads_flags {d : V2Decoder} {m : Msg} (later : List Msg) (fits : m.size < 2 ^ 64)
    (next : d.next = .flagsReady) (toRead : d.toRead = 0) (got : d.got = [protocolFlags m])
    (fuel : Nat) :
    Reads d.maxmsgsize (m :: later)
      ((if 255 < m.size then putUint64 m.size else [UInt8.ofNat m.size]) ++ m.body ++ frames later)
      (d.advances (fuel + 2)) := by
  obtain ⟨flags_more, flags_large, flags_command⟩ := protocolFlags_apart m
  have more : decide (protocolFlags m &&& moreFlag ≠ 0) = m.more := by
    simp [flags_more]
  have command : decide (protocolFlags m &&& commandFlag ≠ 0) = m.command := by
    simp [flags_command]
  rw [advances, if_pos toRead, advance, next]
  simp only [flagsReady, got, List.headD_cons]
  by_cases large : 255 < m.size
  · simp only [flags_large.mpr large, large, if_true, ne_eq, not_false_eq_true]
    rw [advances, if_neg (by simp [nextStep])]
    exact .needsMore (.eightByte rfl rfl (Nat.succ_pos 7) fits rfl more command)
  · have small : ¬(protocolFlags m &&& largeFlag ≠ 0) := fun set => large (flags_large.mp set)
    simp only [small, large, if_false]
    rw [advances, if_neg (by simp [nextStep])]
    exact .needsMore (.oneByte rfl rfl rfl (by omega) more command)

-- As much of the data as there is room for is the beginning of what is missing.
theorem cut {data later missed behind : List UInt8} (stream : data ++ later = missed ++ behind) :
    data.take (min missed.length data.length) = missed.take (min missed.length data.length) ∧
      data.drop (min missed.length data.length) ++ later =
        missed.drop (min missed.length data.length) ++ behind := by
  have within := Nat.min_le_left missed.length data.length
  have within_data := Nat.min_le_right missed.length data.length
  constructor
  · have taken := congrArg (List.take (min missed.length data.length)) stream
    rwa [List.take_append_of_le_length within_data, List.take_append_of_le_length within] at taken
  · have dropped := congrArg (List.drop (min missed.length data.length)) stream
    rwa [List.drop_append_of_le_length within_data, List.drop_append_of_le_length within] at dropped

theorem reads_copy {d : V2Decoder} {messages : List Msg} {data later : List UInt8}
    (fits : ∀ m ∈ messages, m.size < 2 ^ 64) (expects : Expects d messages (data ++ later))
    (present : data ≠ []) :
    0 < d.toRead ∧ Reads d.maxmsgsize messages (data.drop (min d.toRead data.length) ++ later)
      ((d.copy data (min d.toRead data.length)).advances 3) := by
  have some_data : 0 < data.length := List.length_pos_of_ne_nil present
  generalize stream : data ++ later = bytes at expects
  cases expects with
  | flags next got toRead =>
      cases messages with
      | nil =>
          rw [frames, List.flatMap_nil, List.append_eq_nil_iff] at stream
          exact absurd stream.1 present
      | cons m rest =>
          cases data with
          | nil => exact absurd rfl present
          | cons byte data =>
              simp only [frames, List.flatMap_cons, frame, header, List.cons_append,
                List.cons.injEq] at stream
              obtain ⟨rfl, stream⟩ := stream
              have one : min d.toRead (protocolFlags m :: data).length = 1 := by
                rw [toRead]
                simp
              rw [one, List.drop_one, List.tail_cons, stream]
              refine ⟨by omega, ?_⟩
              exact reads_flags (d := d.copy (protocolFlags m :: data) 1) rest (fits m (by simp)) next
                (by simp [copy, toRead]) (by simp [copy, got]) 1
  | @oneByte m rest next got toRead small more command =>
      cases data with
      | nil => exact absurd rfl present
      | cons byte data =>
          simp only [List.cons_append, List.cons.injEq] at stream
          obtain ⟨rfl, stream⟩ := stream
          have one : min d.toRead (UInt8.ofNat m.size :: data).length = 1 := by
            rw [toRead]
            simp
          have size : (UInt8.ofNat m.size).toNat = m.size := by
            rw [UInt8.toNat_ofNat']
            omega
          rw [one, List.drop_one, List.tail_cons, stream]
          refine ⟨by omega, ?_⟩
          refine reads_size (d := d.copy (UInt8.ofNat m.size :: data) 1) rest ?_
            (by simp [copy, toRead]) more command 1
          simp [advance, copy, next, got, size]
  | @eightByte m rest missed next toRead missing small split more command =>
      have length : missed.length = d.toRead := by
        have total := congrArg List.length split
        rw [List.length_append, putUint64_length] at total
        omega
      rw [List.append_assoc] at stream
      obtain ⟨taken, left⟩ := cut stream
      rw [← length, left]
      refine ⟨by omega, ?_⟩
      by_cases part : data.length < missed.length
      · have short : min missed.length data.length = data.length := by omega
        rw [advances, if_neg (by simp only [copy]; omega), ← List.append_assoc]
        refine .needsMore (.eightByte next ?_ ?_ small ?_ more command)
        · simp only [copy, List.length_append, List.length_take]
          omega
        · simp only [copy]
          omega
        · simp only [copy]
          rw [taken, List.append_assoc, List.take_append_drop, split]
      · have whole : min missed.length data.length = missed.length := by omega
        rw [whole, List.take_length] at taken
        rw [whole, List.drop_length, List.nil_append]
        refine reads_size (d := d.copy data missed.length) rest ?_ ?_ more command 1
        · simp only [advance, copy, next, taken, split, getUint64_putUint64 small]
        · simp [copy, length]
  | @message m rest missed next toRead missing split allowed more command =>
      obtain ⟨taken, left⟩ := cut stream
      rw [← toRead, left]
      refine ⟨by omega, ?_⟩
      by_cases part : data.length < missed.length
      · have short : min missed.length data.length = data.length := by omega
        rw [advances, if_neg (by simp only [copy]; omega)]
        refine .needsMore (.message next ?_ ?_ ?_ allowed more command)
        · simp only [copy, List.length_drop]
          omega
        · simp only [copy]
          omega
        · simp only [copy]
          rw [taken, List.append_assoc, List.take_append_drop, split]
      · have whole : min missed.length data.length = missed.length := by omega
        rw [whole, List.take_length] at taken
        rw [whole, List.drop_length, List.nil_append]
        refine reads_message (d := d.copy data missed.length) rest next ?_ ?_ allowed more command 2
        · simp [copy, toRead]
        · simp only [copy, taken, split]

theorem advance_maxmsgsize (d : V2Decoder) : d.advance.1.maxmsgsize = d.maxmsgsize := by
  unfold advance
  cases d.next with
  | flagsReady =>
      simp only [flagsReady]
      split <;> rfl
  | oneByteSizeReady =>
      simp only [sizeReady]
      split <;> rfl
  | eightByteSizeReady =>
      simp only [sizeReady]
      split <;> rfl
  | messageReady => rfl

theorem advances_maxmsgsize (fuel : Nat) (d : V2Decoder) :
    (d.advances fuel).1.maxmsgsize = d.maxmsgsize := by
  induction fuel generalizing d with
  | zero => rfl
  | succ fuel ih =>
      have kept := advance_maxmsgsize d
      unfold advances
      split
      next =>
        split
        next after same =>
          rw [ih, ← kept, same]
        next stopped same => rw [← kept]
      next => rfl

structure Decoded (d : V2Decoder) (messages : List Msg) (data later : List UInt8)
    (result : V2Decoder × DecodeResult × List UInt8) : Prop where
  reads : Reads d.maxmsgsize messages (result.2.2 ++ later) (result.1, result.2.1)
  limit : result.1.maxmsgsize = d.maxmsgsize
  used : result.2.2.length ≤ data.length
  all_used : result.2.1 = .needsMore → result.2.2 = []
  some_used : data ≠ [] → result.2.2.length < data.length

theorem decodeLoop_spec {fuel : Nat} {d : V2Decoder} {messages : List Msg}
    {data later : List UInt8} (enough : data.length ≤ fuel)
    (fits : ∀ m ∈ messages, m.size < 2 ^ 64) (expects : Expects d messages (data ++ later)) :
    Decoded d messages data later (d.decodeLoop fuel data) := by
  induction fuel generalizing d data with
  | zero =>
      have empty : data = [] := List.length_eq_zero_iff.mp (Nat.le_zero.mp enough)
      subst empty
      exact ⟨.needsMore expects, rfl, Nat.le_refl _, fun _ => rfl, fun present => absurd rfl present⟩
  | succ fuel ih =>
      unfold decodeLoop
      by_cases empty : data = []
      · subst empty
        rw [if_pos rfl]
        exact ⟨.needsMore expects, rfl, Nat.le_refl _, fun _ => rfl,
          fun present => absurd rfl present⟩
      · rw [if_neg empty]
        obtain ⟨missing, reads⟩ := reads_copy fits expects empty
        have limit := advances_maxmsgsize 3 (d.copy data (min d.toRead data.length))
        have some_data : 0 < data.length := List.length_pos_of_ne_nil empty
        have shorter : (data.drop (min d.toRead data.length)).length < data.length := by
          rw [List.length_drop]
          omega
        change _ = d.maxmsgsize at limit
        dsimp only
        generalize (d.copy data (min d.toRead data.length)).advances 3 = stopped at reads limit ⊢
        cases reads with
        | @needsMore after expects =>
            have next := ih (by omega) expects
            dsimp only at limit ⊢
            exact
              { reads := limit ▸ next.reads
                limit := next.limit.trans limit
                used := Nat.le_trans next.used (Nat.le_of_lt shorter)
                all_used := next.all_used
                some_used := fun _ => Nat.lt_of_le_of_lt next.used shorter }
        | message first whole allowed expects =>
            exact
              { reads := .message first whole (limit ▸ allowed) expects
                limit := limit
                used := Nat.le_of_lt shorter
                all_used := fun same => by cases same
                some_used := fun _ => shorter }
        | tooLarge first large =>
            exact
              { reads := .tooLarge first large
                limit := limit
                used := Nat.le_of_lt shorter
                all_used := fun same => by cases same
                some_used := fun _ => shorter }

theorem decode_spec {d : V2Decoder} {messages : List Msg} {data later : List UInt8}
    (fits : ∀ m ∈ messages, m.size < 2 ^ 64) (expects : Expects d messages (data ++ later)) :
    Decoded d messages data later (d.decode data) :=
  decodeLoop_spec (Nat.le_refl _) fits expects

-- To read into the message itself makes no difference.
theorem decodeInPlace_eq {d : V2Decoder} {data : List UInt8} (present : data ≠ [])
    (within : data.length ≤ d.toRead) : d.decodeInPlace data = some (d.decode data) := by
  have whole : min d.toRead data.length = data.length := Nat.min_eq_right within
  have one : data.length = data.length - 1 + 1 := by
    have positive := List.length_pos_of_ne_nil present
    omega
  have emptied (fuel : Nat) (after : V2Decoder) :
      after.decodeLoop fuel [] = (after, .needsMore, []) := by
    cases fuel <;> rfl
  rw [decodeInPlace, if_neg (by omega), decode, one, decodeLoop, if_neg present]
  simp only [← one, whole, List.drop_length]
  generalize (d.copy data data.length).advances 3 = stopped
  obtain ⟨after, result⟩ := stopped
  cases result with
  | needsMore => simp only [emptied]
  | message => rfl
  | tooLarge => rfl

theorem expects_start (maxmsgsize : Int) (messages : List Msg) :
    Expects { maxmsgsize } messages (frames messages) := .flags rfl rfl rfl

theorem Expects.append {d : V2Decoder} {messages : List Msg} {bytes : List UInt8}
    (expects : Expects d messages bytes) (later : List Msg) :
    Expects d (messages ++ later) (bytes ++ frames later) := by
  cases expects with
  | flags next got toRead =>
      rw [← frames_append]
      exact .flags next got toRead
  | oneByte next got toRead small more command =>
      rw [List.append_assoc, ← frames_append]
      exact .oneByte next got toRead small more command
  | eightByte next toRead missing fits split more command =>
      rw [List.append_assoc, ← frames_append]
      exact .eightByte next toRead missing fits split more command
  | message next toRead missing split allowed more command =>
      rw [List.append_assoc, ← frames_append]
      exact .message next toRead missing split allowed more command

-- A decoder to which nothing more comes has nothing to expect.
theorem expects_nothing {d : V2Decoder} {messages : List Msg} (expects : Expects d messages []) :
    messages = [] := by
  generalize ended : ([] : List UInt8) = bytes at expects
  cases expects with
  | flags next got toRead =>
      cases messages with
      | nil => rfl
      | cons m rest => simp [frames, frame, header] at ended
  | oneByte => simp at ended
  | @eightByte m rest missed next toRead missing small split more command =>
      have total := congrArg List.length split
      simp only [List.nil_eq, List.append_eq_nil_iff] at ended
      rw [ended.1.1, List.append_nil, putUint64_length] at total
      omega
  | @message m rest missed next toRead missing split allowed more command =>
      simp only [List.nil_eq, List.append_eq_nil_iff] at ended
      rw [ended.1, List.length_nil] at toRead
      omega

end V2Decoder

end Zmqcpp
