import Zmqcpp.Engine.Greeting

set_option autoImplicit false

namespace Zmqcpp

open Transition

namespace Handshake

def greeting (options : EngineOptions) : List UInt8 :=
  signature options ++ 3 :: 0 :: options.mechanism.name ++ List.replicate 32 0

def conclusion (mine theirs : EngineOptions) : Outcome :=
  if mine.mechanism = theirs.mechanism ∧ (mine.mechanism = .curve → mine.libsodium = true) then
    .agreed .zmtp3
  else .rejected

theorem greeting_length (options : EngineOptions) : (greeting options).length = 64 := by
  simp [greeting, signature_length, Mechanism.name_length]

theorem versioned_greeting (options : EngineOptions) : versioned (greeting options) = true := by
  refine (versioned_iff _).mpr ⟨rfl, ?_⟩
  show (0x7f : UInt8) &&& 1 ≠ 0
  decide

theorem protocol_greeting (options : EngineOptions) : protocol (greeting options) = .zmtp3 := by
  rw [protocol, versioned_greeting, if_pos rfl]
  rfl

theorem supports_name (mine theirs : EngineOptions) : supports mine theirs.mechanism.name = true ↔
    mine.mechanism = theirs.mechanism ∧ (mine.mechanism = .curve → mine.libsodium = true) := by
  simp only [supports, Bool.and_eq_true, Bool.or_eq_true, decide_eq_true_eq]
  constructor
  · rintro ⟨named, built⟩
    exact ⟨(Mechanism.name_injective named).symm, fun curve => built.resolve_left (by simp [curve])⟩
  · rintro ⟨same, built⟩
    exact ⟨congrArg Mechanism.name same.symm, or_iff_not_imp_left.mpr fun curve =>
      built (not_not.mp curve)⟩

theorem judge_greeting (mine theirs : EngineOptions) :
    judge mine (greeting theirs) = conclusion mine theirs := by
  have name : ((greeting theirs).drop 12).take 20 = theirs.mechanism.name := by
    show (theirs.mechanism.name ++ List.replicate 32 0).take 20 = theirs.mechanism.name
    exact List.take_left' (Mechanism.name_length _)
  simp only [judge, protocol_greeting, name, conclusion, supports_name]

section Begun

variable {recv : List UInt8} {theirs : EngineOptions} (begun : recv <+: greeting theirs)

include begun

theorem length_le_of_begun : recv.length ≤ 64 := by
  rw [← greeting_length theirs]
  exact begun.length_le

theorem versioned_of_begun (enough : 10 ≤ recv.length) : versioned recv = true := by
  obtain ⟨later, whole⟩ := begun
  rw [← versioned_append enough later, whole]
  exact versioned_greeting theirs

theorem protocol_of_begun (enough : 11 ≤ recv.length) : protocol recv = .zmtp3 := by
  obtain ⟨later, whole⟩ := begun
  rw [← protocol_append enough later, whole]
  exact protocol_greeting theirs

theorem sizeFor_of_begun (enough : 11 ≤ recv.length) : sizeFor recv = 64 := by
  have long : 10 < recv.length := enough
  simp [sizeFor, long, protocol_of_begun begun enough, v3GreetingSize]

theorem undecided_of_begun : undecided recv = true ↔ recv.length < 64 := by
  rw [undecided_iff]
  constructor
  · rintro (nothing | ⟨-, short | ⟨-, short⟩⟩)
    · simp [nothing]
    · omega
    · by_cases enough : 11 ≤ recv.length
      · rw [sizeFor_of_begun begun enough] at short
        exact short
      · omega
  · intro short
    by_cases nothing : recv = []
    · exact .inl nothing
    · obtain ⟨later, whole⟩ := id begun
      have head : recv.headD 0 = 0xff := by
        rw [← headD_append nothing later, whole]
        rfl
      refine .inr ⟨head, ?_⟩
      by_cases enough : 10 ≤ recv.length
      · refine .inr ⟨versioned_of_begun begun enough, ?_⟩
        by_cases ten : recv.length ≤ 10
        · rw [sizeFor_short ten]
          omega
        · rw [sizeFor_of_begun begun (by omega)]
          exact short
      · exact .inl (Nat.lt_of_not_le enough)

theorem answer_greeting (options : EngineOptions) (enough : 11 ≤ recv.length) :
    answer options recv = greeting options := by
  have peer := versioned_of_begun begun (Nat.le_of_succ_le enough)
  rw [answer_whole options peer enough, remainder, protocol_of_begun begun enough, greeting]
  simp

theorem answer_begun (options : EngineOptions) : answer options recv <+: greeting options := by
  by_cases long : 11 ≤ recv.length
  · exact ⟨[], by rw [answer_greeting begun options long, List.append_nil]⟩
  · by_cases ten : recv.length = 10
    · rw [answer_version options (versioned_of_begun begun (by omega)) ten]
      exact ⟨0 :: options.mechanism.name ++ List.replicate 32 0, by simp [greeting]⟩
    · rw [answer_short options (by omega)]
      exact ⟨3 :: 0 :: options.mechanism.name ++ List.replicate 32 0, by simp [greeting]⟩

end Begun

theorem receive_written (h : Handshake) (data : List UInt8) :
    (h.receive data).written = h.written := by
  unfold Handshake.receive
  split
  · rfl
  · dsimp only
    repeat' split
    all_goals first
      | rfl
      | exact (finish_kept _).2.2.1
      | exact (acknowledge_kept _).2.2.2
      | exact (finish_kept _).2.2.1.trans (acknowledge_kept _).2.2.2

theorem outEvent_written (h : Handshake) (nbytes : Option Nat) :
    (h.outEvent nbytes).written = h.written ++ h.out.take (nbytes.getD 0) := by
  unfold Handshake.outEvent
  split
  next nothing => simp [nothing]
  next => cases nbytes <;> simp

/-- What a step reads and what it writes. -/
def Action.reads : Action → List UInt8
  | .read data => data
  | _ => []

def Action.writes (h : Handshake) : Action → List UInt8
  | .outEvent nbytes | .restartOutput nbytes => h.out.take (nbytes.getD 0)
  | _ => []

theorem step_bytes {h next : Handshake} {action : Action} (sound : h.Sound)
    (taken : h.step action = some next) :
    next.recv = h.recv ++ action.reads ∧ next.written = h.written ++ action.writes h := by
  cases action with
  | read data =>
      obtain ⟨waiting, room, rfl⟩ := step_read taken
      simp only [Action.reads, Action.writes, receive_written, List.append_nil, and_true]
      by_cases nothing : data = []
      · simp [nothing, receive_nil, Handshake.disconnect]
      · exact (sound.receive waiting nothing room).2.1
  | readError =>
      obtain rfl := step_disconnect (.inl taken)
      simp [Action.reads, Action.writes, Handshake.disconnect]
  | outEvent nbytes =>
      obtain rfl := step_outEvent (.inl taken)
      simp [Action.reads, Action.writes, (outEvent_kept h nbytes).1, outEvent_written]
  | restartOutput nbytes =>
      obtain rfl := step_outEvent (.inr taken)
      simp [Action.reads, Action.writes, (outEvent_kept h nbytes).1, outEvent_written]
  | terminate =>
      obtain rfl := step_disconnect (.inr taken)
      simp [Action.reads, Action.writes, Handshake.disconnect]

theorem step_not_closed {h next : Handshake} {action : Action} (taken : h.step action = some next) :
    h.closed = false := by
  cases action with
  | read | readError =>
      have guard := Option.ite_none_right_eq_some.mp taken
      simp [Handshake.closed, guard.1]
  | outEvent => exact (Option.ite_none_right_eq_some.mp taken).1.2
  | restartOutput | terminate => exact (Option.ite_none_right_eq_some.mp taken).1

end Handshake

open Handshake

/-- Two engines, and what is written to each and not read yet. -/
structure Meeting where
  first : Handshake
  second : Handshake
  toFirst : List UInt8 := []
  toSecond : List UInt8 := []
  deriving DecidableEq, Repr

namespace Meeting

inductive Action
  | first (action : Handshake.Action)
  | second (action : Handshake.Action)
  deriving DecidableEq, Repr

def initial (mine theirs : EngineOptions) : Meeting where
  first := plug mine
  second := plug theirs

def swap (s : Meeting) : Meeting where
  first := s.second
  second := s.first
  toFirst := s.toSecond
  toSecond := s.toFirst

/-- A read finds some of what is on its way, or, after all of it, that the other side is closed. -/
def possible (s : Meeting) : Handshake.Action → Bool
  | .read [] => s.toFirst.isEmpty && s.second.closed
  | .read data => data <+: s.toFirst
  | _ => true

def after (s : Meeting) (action : Handshake.Action) (first : Handshake) : Meeting :=
  { s with
    first
    toFirst := s.toFirst.drop action.reads.length
    toSecond := s.toSecond ++ action.writes s.first }

def move (s : Meeting) (action : Handshake.Action) : Option Meeting :=
  if s.possible action then (s.first.step action).map (s.after action) else none

def step (s : Meeting) : Action → Option Meeting
  | .first action => s.move action
  | .second action => (s.swap.move action).map swap

def OwnUnbroken (s : Meeting) (action : Handshake.Action) : Prop :=
  action ≠ .terminate ∧
    (action = .readError ∨ action.writeFails = true → s.second.closed = true)

/-- No engine is terminated, and a read or a write fails only when the other side is closed. -/
def Unbroken (s : Meeting) : Action → Prop
  | .first action => s.OwnUnbroken action
  | .second action => s.swap.OwnUnbroken action

structure Half (s : Meeting) : Prop where
  sound : s.first.Sound
  sent : s.second.recv ++ s.toSecond = s.first.written
  expected : s.first.recv <+: greeting s.second.options

structure Sound (mine theirs : EngineOptions) (s : Meeting) : Prop where
  first : s.Half
  second : s.swap.Half
  mine : s.first.options = mine
  theirs : s.second.options = theirs

theorem Sound.swap {mine theirs : EngineOptions} {s : Meeting} (sound : Sound mine theirs s) :
    Sound theirs mine s.swap :=
  ⟨sound.second, sound.first, sound.theirs, sound.mine⟩

theorem sound_initial (mine theirs : EngineOptions) :
    Sound mine theirs (initial mine theirs) :=
  ⟨⟨sound_plug mine, rfl, ⟨_, rfl⟩⟩, ⟨sound_plug theirs, rfl, ⟨_, rfl⟩⟩, rfl, rfl⟩

theorem Half.written {s : Meeting} (half : s.Half) :
    s.first.written <+: greeting s.first.options := by
  have put : s.first.written <+: answer s.first.options s.first.recv := by
    rw [← half.sound.bytes]
    exact List.prefix_append _ _
  exact put.trans (answer_begun half.expected s.first.options)

theorem move_some {s next : Meeting} {action : Handshake.Action}
    (taken : s.move action = some next) : s.possible action = true ∧
      ∃ first, s.first.step action = some first ∧ next = s.after action first := by
  obtain ⟨possible, moved⟩ := Option.ite_none_right_eq_some.mp taken
  obtain ⟨first, stepped, rfl⟩ := Option.map_eq_some_iff.mp moved
  exact ⟨possible, first, stepped, rfl⟩

theorem step_first {s : Meeting} {action : Handshake.Action} {first : Handshake}
    (possible : s.possible action = true) (stepped : s.first.step action = some first) :
    s.step (.first action) = some (s.after action first) := by
  rw [Meeting.step, Meeting.move, if_pos possible, stepped]
  rfl

theorem reads_of_possible {s : Meeting} {action : Handshake.Action}
    (possible : s.possible action = true) : action.reads <+: s.toFirst := by
  cases action with
  | read data =>
      cases data with
      | nil => exact List.nil_prefix
      | cons first rest => exact of_decide_eq_true possible
  | _ => exact List.nil_prefix

theorem Sound.move {mine theirs : EngineOptions} {s next : Meeting} {action : Handshake.Action}
    (sound : Sound mine theirs s) (taken : s.move action = some next) :
    Sound mine theirs next := by
  obtain ⟨first, second, same_mine, same_theirs⟩ := sound
  obtain ⟨possible, engine, stepped, rfl⟩ := move_some taken
  obtain ⟨sound_engine, options⟩ := first.sound.step stepped
  obtain ⟨recv, written⟩ := step_bytes first.sound stepped
  obtain ⟨later, arrived⟩ := reads_of_possible possible
  have rest : s.toFirst.drop action.reads.length = later := by
    rw [← arrived, List.drop_left]
  have received : engine.recv ++ later = s.second.written := by
    rw [recv, List.append_assoc, arrived]
    exact second.sent
  refine ⟨⟨sound_engine, ?_, ?_⟩, ⟨second.sound, ?_, ?_⟩, options.trans same_mine, same_theirs⟩
  · show s.second.recv ++ (s.toSecond ++ action.writes s.first) = engine.written
    rw [written, ← first.sent, List.append_assoc]
  · have came : engine.recv <+: s.second.written := ⟨later, received⟩
    exact came.trans second.written
  · show engine.recv ++ s.toFirst.drop action.reads.length = s.second.written
    rw [rest]
    exact received
  · show s.second.recv <+: greeting engine.options
    rw [options]
    exact second.expected

theorem Sound.step {mine theirs : EngineOptions} {s next : Meeting} {action : Action}
    (sound : Sound mine theirs s) (taken : s.step action = some next) :
    Sound mine theirs next := by
  cases action with
  | first action => exact sound.move taken
  | second action =>
      obtain ⟨swapped, moved, rfl⟩ := Option.map_eq_some_iff.mp taken
      exact (sound.swap.move moved).swap

theorem sound_run {mine theirs : EngineOptions} {s : Meeting} {actions : List Action}
    (reached : run Meeting.step (initial mine theirs) actions = some s) : Sound mine theirs s :=
  run_invariant (Sound mine theirs) (fun _ _ _ sound _ taken => sound.step taken)
    (sound_initial mine theirs) (along_true _ actions) reached

structure Concludes (mine theirs : EngineOptions) (h : Handshake) : Prop where
  outcome : ∀ outcome, h.outcome = some outcome →
    outcome = conclusion mine theirs ∨ outcome = .disconnected
  whole : ∀ outcome, h.outcome = some outcome → outcome ≠ .disconnected → h.recv = greeting theirs

theorem Sound.concludes {mine theirs : EngineOptions} {s : Meeting}
    (sound : Sound mine theirs s) : Concludes mine theirs s.first := by
  have begun := sound.first.expected
  rw [sound.theirs] at begun
  have judged := sound.first.sound.judged begun
  rw [sound.mine] at judged
  have decided (outcome : Outcome) (known : s.first.outcome = some outcome)
      (goes_on : outcome ≠ .disconnected) : undecided s.first.recv = false := by
    by_contra yet
    have waits := judged.waits (by simpa using yet)
    simp [known, goes_on] at waits
  refine ⟨fun outcome known => ?_, fun outcome known goes_on => ?_⟩
  · by_cases goes_on : outcome = .disconnected
    · exact .inr goes_on
    · have verdict := judged.verdict (decided outcome known goes_on)
      rw [known, judge_greeting] at verdict
      simpa using verdict
  · have all_read : ¬s.first.recv.length < 64 := by
      intro short
      cases (decided outcome known goes_on).symm.trans ((undecided_of_begun begun).mpr short)
    refine begun.eq_of_length ?_
    have most := length_le_of_begun begun
    rw [greeting_length]
    omega

structure Calm (s : Meeting) : Prop where
  cut : s.first.outcome = some .disconnected → s.second.outcome = some .rejected
  polled : s.second.closed = false → s.first.Polled

theorem Calm.move {s next : Meeting} {action : Handshake.Action} (calm : s.Calm)
    (other : s.swap.Calm) (unbroken : s.OwnUnbroken action) (taken : s.move action = some next) :
    next.Calm ∧ next.swap.Calm := by
  obtain ⟨possible, engine, stepped, rfl⟩ := move_some taken
  have running := step_not_closed stepped
  have not_rejected : s.first.outcome ≠ some .rejected := by
    intro rejected
    simp [Handshake.closed, rejected] at running
  have connected : s.first.outcome ≠ some .disconnected := by
    intro disconnected
    simp [Handshake.closed, disconnected] at running
  refine ⟨⟨fun disconnected => ?_, fun running_yet => ?_⟩, fun disconnected => ?_, fun _ => ?_⟩
  · -- The other engine has closed, and it was not disconnected first.
    have closed : s.second.closed = true := by
      by_cases cuts : action.cuts = true
      · unfold Handshake.Action.cuts at cuts
        split at cuts
        · exact (Bool.and_eq_true_iff.mp possible).2
        · exact unbroken.2 (.inl rfl)
        · exact absurd rfl unbroken.1
        · cases cuts
      · exact absurd disconnected (step_uncut (by simpa using cuts) stepped connected)
    simp only [Handshake.closed, Bool.or_eq_true, decide_eq_true_eq] at closed
    exact closed.resolve_right fun earlier => not_rejected (other.cut earlier)
  · refine (calm.polled running_yet).step ?_ stepped
    by_contra fails
    cases running_yet.symm.trans (unbroken.2 (.inr (by simpa using fails)))
  · exact absurd (other.cut disconnected) not_rejected
  · exact other.polled running

theorem calm_run {mine theirs : EngineOptions} {s : Meeting} {actions : List Action}
    (unbroken : Along Meeting.step Unbroken (initial mine theirs) actions)
    (reached : run Meeting.step (initial mine theirs) actions = some s) :
    s.Calm ∧ s.swap.Calm := by
  refine run_invariant (fun s : Meeting => s.Calm ∧ s.swap.Calm) ?_ ?_ unbroken reached
  · intro s action next calm unbroken taken
    cases action with
    | first action => exact calm.1.move calm.2 unbroken taken
    | second action =>
        obtain ⟨swapped, moved, rfl⟩ := Option.map_eq_some_iff.mp taken
        exact (calm.2.move calm.1 unbroken moved).symm
  · exact ⟨⟨fun never => (nomatch never), fun _ _ => rfl⟩,
      ⟨fun never => (nomatch never), fun _ _ => rfl⟩⟩

/-- Whatever is cut and delayed, an engine that reads on concludes what the mechanisms of both say,
having read the greeting of the other and nothing after it. -/
theorem both_conclude {mine theirs : EngineOptions} {s : Meeting} {actions : List Action}
    (reached : run Meeting.step (initial mine theirs) actions = some s) :
    Concludes mine theirs s.first ∧ Concludes theirs mine s.second ∧
      (Along Meeting.step Unbroken (initial mine theirs) actions →
        (s.first.outcome = some .disconnected → s.second.outcome = some .rejected) ∧
        (s.second.outcome = some .disconnected → s.first.outcome = some .rejected)) := by
  have sound := sound_run reached
  refine ⟨sound.concludes, sound.swap.concludes, fun unbroken => ?_⟩
  have calm := calm_run unbroken reached
  exact ⟨calm.1.cut, calm.2.cut⟩

-- The mechanisms differ: the second engine rejects with most of its greeting not written.
theorem both_conclude_apart :
    let mine : EngineOptions := { type := 5 }
    let theirs : EngineOptions := { type := 5, mechanism := .plain }
    let actions : List Action := [.first (.outEvent (some 10)),
      .second (.read (signature mine)), .second (.outEvent (some 11)),
      .first (.read (signature theirs ++ [3])), .first (.outEvent (some 54)),
      .second (.read [3]), .second (.read ((greeting mine).drop 11)), .first (.read [])]
    ∃ s, run Meeting.step (initial mine theirs) actions = some s ∧
      s.second.outcome = some .rejected ∧ s.first.outcome = some .disconnected ∧
      Concludes theirs mine s.second := by
  intro mine theirs actions
  have accepted : (run Meeting.step (initial mine theirs) actions).any
      (fun s => s.second.outcome = some .rejected && s.first.outcome = some .disconnected) =
        true := by
    decide +kernel
  obtain ⟨s, reached, checked⟩ := reached_of_check accepted
  simp only [Bool.and_eq_true, decide_eq_true_eq] at checked
  exact ⟨s, reached, checked.1, checked.2, (both_conclude reached).2.1⟩

section Progress

def moved (s : Meeting) : Nat :=
  s.first.written.length + s.first.recv.length + s.second.written.length + s.second.recv.length

theorem moved_swap (s : Meeting) : s.swap.moved = s.moved := by
  simp only [moved, Meeting.swap]
  omega

def Action.polled : Action → Bool
  | .first (.read _) | .first (.outEvent _) | .second (.read _) | .second (.outEvent _) => true
  | _ => false

def Advances (s : Meeting) : Prop :=
  ∃ action next, action.polled = true ∧ s.step action = some next ∧ s.moved < next.moved

variable {mine theirs : EngineOptions} {s : Meeting}

theorem Advances.of_swap (advances : s.swap.Advances) : s.Advances := by
  obtain ⟨action, next, polled, taken, more⟩ := advances
  rw [moved_swap, ← moved_swap next] at more
  cases action with
  | first action =>
      have moves : s.swap.move action = some next := taken
      refine ⟨.second action, next.swap, ?_, by rw [Meeting.step, moves]; rfl, more⟩
      cases action <;> first | rfl | cases polled
  | second action =>
      obtain ⟨back, moves, rfl⟩ := Option.map_eq_some_iff.mp taken
      refine ⟨.first action, back, ?_, moves, more⟩
      cases action <;> first | rfl | cases polled

theorem advances_of_out (polled : s.first.Polled) (left : s.first.out ≠ [])
    (running : s.first.closed = false) : s.Advances := by
  have stepped : s.first.step (.outEvent (some s.first.out.length)) =
      some (s.first.outEvent (some s.first.out.length)) := if_pos ⟨polled left, running⟩
  refine ⟨.first (.outEvent (some s.first.out.length)), s.after _ _, rfl,
    step_first rfl stepped, ?_⟩
  · have pos : 0 < s.first.out.length := List.length_pos_iff.mpr left
    simp only [moved, Meeting.after, (outEvent_kept _ _).1, outEvent_written, Option.getD_some, List.take_length,
      List.length_append]
    omega

theorem Sound.advances_of_arrived (sound : Sound mine theirs s)
    (waiting : s.first.outcome = none) (arrived : s.toFirst ≠ []) : s.Advances := by
  obtain ⟨first, rest, wire⟩ := List.exists_cons_of_ne_nil arrived
  have room : s.first.recv.length + [first].length ≤ s.first.greetingSize := by
    have least := sizeFor_ge s.first.recv
    rw [sound.first.sound.size]
    rcases (undecided_iff _).mp (sound.first.sound.not_decided waiting) with
      nothing | ⟨-, short | short⟩
    · simp only [nothing, List.length_nil, List.length_singleton] at least ⊢
      omega
    · simp only [List.length_singleton]
      omega
    · exact short.2
  have stepped : s.first.step (.read [first]) = some (s.first.receive [first]) :=
    if_pos ⟨waiting, room⟩
  have possible : s.possible (.read [first]) = true := by simp [Meeting.possible, wire]
  have received := step_bytes sound.first.sound stepped
  refine ⟨.first (.read [first]), s.after _ _, rfl, step_first possible stepped, ?_⟩
  · simp only [moved, Meeting.after, received.1, received.2, Handshake.Action.reads, Handshake.Action.writes,
      List.length_append, List.length_singleton, List.length_nil]
    omega

theorem Sound.caught_up (sound : Sound mine theirs s) (empty : s.toFirst = [])
    (written : s.second.out = []) : s.first.recv = answer theirs s.second.recv := by
  have sent : s.first.recv ++ s.toFirst = s.second.written := sound.second.sent
  have bytes : s.second.written ++ s.second.out = answer s.second.options s.second.recv :=
    sound.second.sound.bytes
  rw [empty, List.append_nil] at sent
  rw [written, List.append_nil, sound.theirs] at bytes
  exact sent.trans bytes

theorem Sound.not_both_wait (sound : Sound mine theirs s) (waiting : s.first.outcome = none)
    (running : s.second.outcome ≠ some .disconnected) (mine_written : s.first.out = []) (theirs_written : s.second.out = [])
    (empty : s.toFirst = []) (empty_if : s.second.outcome = none → s.toSecond = []) : False := by
  have mine_begun := sound.first.expected
  have theirs_begun : s.second.recv <+: greeting s.first.options := sound.second.expected
  have mine_short : s.first.recv.length < 64 :=
    (undecided_of_begun mine_begun).mp (sound.first.sound.not_decided waiting)
  have mine_all := sound.caught_up empty theirs_written
  -- The second engine has not seen the version of the first, or its whole greeting would be read.
  have theirs_short : s.second.recv.length ≤ 10 := by
    by_contra long
    rw [mine_all, answer_greeting theirs_begun theirs (by omega), greeting_length] at mine_short
    omega
  have theirs_waits : s.second.outcome = none := by
    have waits := sound.second.sound.waits ((undecided_of_begun theirs_begun).mpr (by
      show s.second.recv.length < 64
      omega))
    exact waits.resolve_right running
  have theirs_all : s.second.recv = answer mine s.first.recv :=
    sound.swap.caught_up (empty_if theirs_waits) mine_written
  have mine_enough : 10 ≤ s.first.recv.length := by
    rw [mine_all, answer, List.length_append, signature_length]
    omega
  by_cases ten : s.first.recv.length = 10
  · rw [theirs_all, answer_version mine (versioned_of_begun mine_begun mine_enough) ten,
      List.length_append, signature_length] at theirs_short
    simp at theirs_short
  · rw [theirs_all, answer_greeting mine_begun mine (by omega), greeting_length] at theirs_short
    omega

theorem Sound.advances (sound : Sound mine theirs s) (calm : s.Calm) (other : s.swap.Calm)
    (waiting : s.first.outcome = none) (running : s.second.closed = false) : s.Advances := by
  have mine_running : s.first.closed = false := by simp [Handshake.closed, waiting]
  have connected : s.second.outcome ≠ some .disconnected := by
    intro disconnected
    simp [Handshake.closed, disconnected] at running
  by_contra stuck
  refine sound.not_both_wait waiting connected ?_ ?_ ?_ fun theirs_waits => ?_
  · by_contra left
    exact stuck (advances_of_out (calm.polled running) left mine_running)
  · by_contra left
    exact stuck (advances_of_out (s := s.swap) (other.polled mine_running) left running).of_swap
  · by_contra arrived
    exact stuck (sound.advances_of_arrived waiting arrived)
  · by_contra arrived
    exact stuck (sound.swap.advances_of_arrived theirs_waits arrived).of_swap

theorem Sound.moved_le (sound : Sound mine theirs s) : s.moved ≤ 256 := by
  have mine_written := sound.first.written.length_le
  have theirs_written : s.second.written.length ≤ (greeting s.second.options).length :=
    sound.second.written.length_le
  have mine_read := sound.first.expected.length_le
  have theirs_read : s.second.recv.length ≤ (greeting s.first.options).length :=
    sound.second.expected.length_le
  simp only [greeting_length] at mine_written theirs_written mine_read theirs_read
  unfold moved
  omega

theorem Sound.not_closed (sound : Sound mine theirs s) (calm : s.Calm)
    (mine_agrees : conclusion mine theirs = .agreed .zmtp3)
    (theirs_agrees : conclusion theirs mine = .agreed .zmtp3) : s.first.closed = false := by
  have not_rejected : s.first.outcome ≠ some .rejected := by
    intro rejected
    have concludes := sound.concludes.outcome _ rejected
    simp [mine_agrees] at concludes
  have connected : s.first.outcome ≠ some .disconnected := by
    intro disconnected
    have concludes : Outcome.rejected = conclusion theirs mine ∨ Outcome.rejected = .disconnected :=
      sound.swap.concludes.outcome _ (calm.cut disconnected)
    simp [theirs_agrees] at concludes
  simp [Handshake.closed, not_rejected, connected]

theorem Sound.agrees (sound : Sound mine theirs s)
    (mine_agrees : conclusion mine theirs = .agreed .zmtp3) (running : s.first.closed = false)
    (decided : s.first.outcome ≠ none) : s.first.outcome = some (.agreed .zmtp3) := by
  obtain ⟨outcome, known⟩ := Option.ne_none_iff_exists'.mp decided
  rcases sound.concludes.outcome outcome known with concludes | rfl
  · rw [known, concludes, mine_agrees]
  · simp [Handshake.closed, known] at running

/-- Two engines of one mechanism agree, after no more bytes than their greetings have. -/
theorem never_stuck {actions : List Action} (same : mine.mechanism = theirs.mechanism)
    (built : mine.mechanism = .curve → mine.libsodium = true ∧ theirs.libsodium = true)
    (unbroken : Along Meeting.step Unbroken (initial mine theirs) actions)
    (reached : run Meeting.step (initial mine theirs) actions = some s) :
    s.moved ≤ 256 ∧
      ((s.first.outcome = some (.agreed .zmtp3) ∧ s.second.outcome = some (.agreed .zmtp3)) ∨
        s.Advances) := by
  have sound := sound_run reached
  obtain ⟨calm, other⟩ := calm_run unbroken reached
  have mine_agrees : conclusion mine theirs = .agreed .zmtp3 :=
    if_pos ⟨same, fun curve => (built curve).1⟩
  have theirs_agrees : conclusion theirs mine = .agreed .zmtp3 :=
    if_pos ⟨same.symm, fun curve => (built (same.trans curve)).2⟩
  have mine_running := sound.not_closed calm mine_agrees theirs_agrees
  have theirs_running : s.second.closed = false :=
    sound.swap.not_closed other theirs_agrees mine_agrees
  refine ⟨sound.moved_le, ?_⟩
  by_cases mine_known : s.first.outcome = none
  · exact .inr (sound.advances calm other mine_known theirs_running)
  · by_cases theirs_known : s.second.outcome = none
    · exact .inr (sound.swap.advances other calm theirs_known mine_running).of_swap
    · exact .inl ⟨sound.agrees mine_agrees mine_running mine_known,
        sound.swap.agrees theirs_agrees theirs_running theirs_known⟩

-- Each has written its signature, and neither has read.
theorem never_stuck_signatures :
    let options : EngineOptions := { type := 5 }
    let actions : List Action := [.first (.outEvent (some 10)), .second (.outEvent (some 10))]
    ∃ s, run Meeting.step (initial options options) actions = some s ∧
      s.first.pollout = false ∧ s.second.pollout = false ∧ s.moved ≤ 256 ∧
      ((s.first.outcome = some (.agreed .zmtp3) ∧ s.second.outcome = some (.agreed .zmtp3)) ∨
        s.Advances) := by
  intro options actions
  have accepted : (run Meeting.step (initial options options) actions).any
      (fun s => !s.first.pollout && !s.second.pollout) = true := by decide
  obtain ⟨s, reached, checked⟩ := reached_of_check accepted
  simp only [Bool.and_eq_true, Bool.not_eq_true'] at checked
  have writes (s : Meeting) : s.OwnUnbroken (.outEvent (some 10)) := by
    refine ⟨nofun, ?_⟩
    rintro (never | never) <;> cases never
  have unbroken : Along Meeting.step Unbroken (initial options options) actions :=
    ⟨writes _, fun next _ => ⟨writes next.swap, fun _ _ => trivial⟩⟩
  exact ⟨s, reached, checked.1, checked.2,
    never_stuck rfl (fun curve => by cases curve) unbroken reached⟩

end Progress

end Meeting

end Zmqcpp
