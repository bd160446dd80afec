import Zmqcpp.Shared.Transition

set_option autoImplicit false

/-!
# The lock-free pipe

One thread writes to it and flushes, another reads. They meet in one pointer only.
-/

namespace Zmqcpp

open Transition

inductive PipeOutcome (Item : Type)
  | unwritten (value : Option Item)
  | flushed (readerAwake : Bool)
  | checked (available : Bool)
  | read (value : Option Item)
  deriving DecidableEq, Repr

def PipeOutcome.delivered {Item : Type} : PipeOutcome Item → Option Item
  | .read value => value
  | _ => none

inductive PipeCall (Item : Type)
  | write (value : Item) (incomplete : Bool)
  | unwrite
  | flush
  | checkRead
  | read
  deriving DecidableEq, Repr

def PipeCall.byWriter {Item : Type} : PipeCall Item → Bool
  | .write _ _ | .unwrite | .flush => true
  | .checkRead | .read => false

/-- What a pipe is for, when each call on it is a single step. -/
structure Upipe (Item : Type) where
  flushed : List Item := []
  complete : List Item := []
  incomplete : List Item := []
  asleep : Bool := false
  deriving DecidableEq, Repr

namespace Upipe

variable {Item : Type}

def write (p : Upipe Item) (value : Item) (incomplete : Bool) : Upipe Item :=
  if incomplete then { p with incomplete := p.incomplete ++ [value] }
  else { p with complete := p.complete ++ p.incomplete ++ [value], incomplete := [] }

def unwrite (p : Upipe Item) : Upipe Item × Option Item :=
  ({ p with incomplete := p.incomplete.dropLast }, p.incomplete.getLast?)

-- The result is whether the reader is awake.
def flush (p : Upipe Item) : Upipe Item × Bool :=
  if p.complete = [] then (p, true)
  else ({ p with flushed := p.flushed ++ p.complete, complete := [], asleep := false }, !p.asleep)

def checkRead (p : Upipe Item) : Upipe Item × Bool :=
  if p.flushed = [] then ({ p with asleep := true }, false) else (p, true)

def read (p : Upipe Item) : Upipe Item × Option Item :=
  match p.flushed with
  | [] => ({ p with asleep := true }, none)
  | value :: rest => ({ p with flushed := rest }, some value)

theorem checkRead_available {p : Upipe Item} (available : p.checkRead.2 = true) :
    p.checkRead.1 = p := by
  unfold checkRead at available ⊢
  split at available
  next => cases available
  next present => rw [if_neg present]

theorem read_unavailable {p : Upipe Item} (unavailable : p.checkRead.2 = false) :
    p.read = (p.checkRead.1, none) := by
  unfold checkRead at unavailable ⊢
  split at unavailable
  next empty => rw [if_pos empty, read, empty]
  next => cases unavailable

def call (state : Upipe Item × List (PipeOutcome Item)) :
    PipeCall Item → Option (Upipe Item × List (PipeOutcome Item))
  | .write value incomplete => some (state.1.write value incomplete, state.2)
  | .unwrite => some (state.1.unwrite.1, state.2 ++ [.unwritten state.1.unwrite.2])
  | .flush => some (state.1.flush.1, state.2 ++ [.flushed state.1.flush.2])
  | .checkRead => some (state.1.checkRead.1, state.2 ++ [.checked state.1.checkRead.2])
  | .read => some (state.1.read.1, state.2 ++ [.read state.1.read.2])

end Upipe

/-- ypipe_t. A pointer into the queue is a position in all that has been put in and not taken back,
what the reader has popped included; `none` is NULL. -/
structure Ypipe (Item : Type) where
  items : List Item := []
  front : Nat := 0
  w : Nat := 0
  f : Nat := 0
  r : Option Nat := some 0
  c : Option Nat := some 0
  -- The writer's compare-and-swap has failed and it has yet to set `c`.
  waking : Bool := false
  -- The reader's check has succeeded and it has yet to take the front item.
  taking : Bool := false
  outcomes : List (PipeOutcome Item) := []
  deriving DecidableEq, Repr

/-- atomic_ptr_t::cas; the second component is the former value. -/
def cas (pointer expected desired : Option Nat) : Option Nat × Option Nat :=
  (if pointer = expected then desired else pointer, pointer)

namespace Ypipe

variable {Item : Type}

inductive Action (Item : Type)
  | write (value : Item) (incomplete : Bool)
  | unwrite
  | flush
  | wake
  | checkRead
  | read
  | take
  deriving DecidableEq, Repr

def write (s : Ypipe Item) (value : Item) (incomplete : Bool) : Ypipe Item :=
  { s with
    items := s.items ++ [value]
    f := if incomplete then s.f else s.items.length + 1 }

def unwrite (s : Ypipe Item) : Ypipe Item :=
  if s.f = s.items.length then { s with outcomes := s.outcomes ++ [.unwritten none] }
  else
    { s with
      items := s.items.dropLast
      outcomes := s.outcomes ++ [.unwritten s.items.getLast?] }

-- flush up to its compare-and-swap, with which it ends unless the reader is asleep.
def flush (s : Ypipe Item) : Ypipe Item :=
  if s.w = s.f then { s with outcomes := s.outcomes ++ [.flushed true] }
  else if (cas s.c (some s.w) (some s.f)).2 = some s.w then
    { s with
      c := (cas s.c (some s.w) (some s.f)).1
      w := s.f
      outcomes := s.outcomes ++ [.flushed true] }
  else { s with c := (cas s.c (some s.w) (some s.f)).1, waking := true }

def wake (s : Ypipe Item) : Ypipe Item :=
  { s with
    c := some s.f
    w := s.f
    waking := false
    outcomes := s.outcomes ++ [.flushed false] }

-- There is one access to the shared pointer in it.
def checkRead (s : Ypipe Item) : Ypipe Item × Bool :=
  if s.r ≠ some s.front ∧ s.r ≠ none then (s, true)
  else
    ({ s with c := (cas s.c (some s.front) none).1, r := (cas s.c (some s.front) none).2 },
      decide ((cas s.c (some s.front) none).2 ≠ some s.front ∧
        (cas s.c (some s.front) none).2 ≠ none))

def read (s : Ypipe Item) : Ypipe Item :=
  if s.checkRead.2 then { s.checkRead.1 with taking := true }
  else { s.checkRead.1 with outcomes := s.outcomes ++ [.read none] }

-- Past the last item there is no value to take.
def take (s : Ypipe Item) : Option (Ypipe Item) :=
  s.items[s.front]?.map fun value =>
    { s with
      front := s.front + 1
      taking := false
      outcomes := s.outcomes ++ [.read (some value)] }

def step (s : Ypipe Item) : Action Item → Option (Ypipe Item)
  | .write value incomplete => if s.waking then none else some (s.write value incomplete)
  | .unwrite => if s.waking then none else some s.unwrite
  | .flush => if s.waking then none else some s.flush
  | .wake => if s.waking then some s.wake else none
  | .checkRead =>
      if s.taking then none
      else
        some { s.checkRead.1 with outcomes := s.outcomes ++ [.checked s.checkRead.2] }
  | .read => if s.taking then none else some s.read
  | .take => if s.taking then s.take else none

structure Valid (s : Ypipe Item) : Prop where
  read_flushed : s.front ≤ s.w
  flushed_complete : s.w ≤ s.f
  complete_written : s.f ≤ s.items.length
  -- The writer's compare-and-swap fails only because the reader has set NULL.
  shared : s.c = some s.w ∨ s.c = none ∧ s.front = s.w
  prefetched : ∀ position, s.r = some position → s.front ≤ position ∧ position ≤ s.w
  waking : s.waking = true → s.c = none ∧ s.w < s.f
  taking : s.taking = true → ∃ position, s.r = some position ∧ s.front < position

theorem valid_initial : ({} : Ypipe Item).Valid where
  read_flushed := Nat.le_refl 0
  flushed_complete := Nat.le_refl 0
  complete_written := Nat.le_refl 0
  shared := .inl rfl
  prefetched := by
    intro position same
    cases same
    exact ⟨Nat.le_refl 0, Nat.le_refl 0⟩
  waking := by simp
  taking := by simp

section Reader

-- A check finds an item that was fetched before, finds what has been flushed, or sets NULL.
theorem checkRead_cases (s : Ypipe Item) (valid : s.Valid) :
    (s.checkRead = (s, true) ∧ ∃ position, s.r = some position ∧ s.front < position) ∨
    (s.checkRead = ({ s with r := some s.w }, true) ∧ s.c = some s.w ∧ s.front < s.w) ∨
    (s.checkRead.2 = false ∧ s.front = s.w ∧
      ∃ r, (r = none ∨ r = some s.w) ∧ s.checkRead.1 = { s with c := none, r := r }) := by
  have bounds := valid.read_flushed
  by_cases fetched : s.r ≠ some s.front ∧ s.r ≠ none
  · obtain ⟨position, same⟩ := Option.ne_none_iff_exists'.mp fetched.2
    have above := valid.prefetched position same
    have apart : position ≠ s.front := fun equal => fetched.1 (by rw [same, equal])
    exact .inl ⟨by rw [checkRead, if_pos fetched], position, same, by omega⟩
  · rw [checkRead, if_neg fetched]
    rcases valid.shared with shared | ⟨shared, empty⟩
    · by_cases empty : s.front = s.w
      · refine .inr (.inr ⟨by simp [cas, shared, empty], empty, some s.w, .inr rfl, ?_⟩)
        simp [cas, shared, empty]
      · have apart : s.w ≠ s.front := fun equal => empty equal.symm
        refine .inr (.inl ⟨?_, shared, by omega⟩)
        simp [cas, shared, apart]
    · exact .inr (.inr ⟨by simp [cas, shared], empty, none, .inl rfl, by simp [cas, shared]⟩)

theorem checkRead_outcomes (s : Ypipe Item) : s.checkRead.1.outcomes = s.outcomes := by
  unfold checkRead
  split <;> rfl

theorem checkRead_valid {s : Ypipe Item} (valid : s.Valid) (idle : s.taking = false) :
    s.checkRead.1.Valid := by
  rcases checkRead_cases s valid with ⟨same, -⟩ | ⟨same, shared, -⟩ | ⟨-, empty, r, which, same⟩
  · rw [same]
    exact valid
  · rw [same]
    refine { valid with prefetched := ?_, taking := by simp [idle] }
    intro position fetched
    cases fetched
    exact ⟨valid.read_flushed, Nat.le_refl s.w⟩
  · rw [same]
    refine
      { valid with shared := .inr ⟨rfl, empty⟩, prefetched := ?_, waking := ?_,
                   taking := by simp [idle] }
    · intro position fetched
      rcases which with none | same
      · cases none.symm.trans fetched
      · cases same.symm.trans fetched
        exact ⟨Nat.le_of_eq empty, Nat.le_refl s.w⟩
    · intro waking
      exact ⟨rfl, (valid.waking waking).2⟩

theorem checkRead_fetched {s : Ypipe Item} (valid : s.Valid) (found : s.checkRead.2 = true) :
    ∃ position, s.checkRead.1.r = some position ∧ s.checkRead.1.front < position := by
  rcases checkRead_cases s valid with ⟨same, fetched⟩ | ⟨same, -, ahead⟩ | ⟨empty, -⟩
  · rw [same]
    exact fetched
  · rw [same]
    exact ⟨s.w, rfl, ahead⟩
  · cases found.symm.trans empty

-- A read goes on to take an item that is flushed, or finds that there is none and falls asleep.
theorem read_cases (s : Ypipe Item) (valid : s.Valid) :
    (s.front < s.w ∧ ∃ r, s.read = { s with r := r, taking := true }) ∨
    (s.front = s.w ∧ ∃ r,
      s.read = { s with c := none, r := r, outcomes := s.outcomes ++ [.read none] }) := by
  rcases checkRead_cases s valid with ⟨same, position, fetched, ahead⟩ | ⟨same, -, ahead⟩ |
    ⟨none, empty, r, -, same⟩
  · have below := (valid.prefetched position fetched).2
    exact .inl ⟨by omega, s.r, by simp [read, same]⟩
  · exact .inl ⟨ahead, some s.w, by simp [read, same]⟩
  · exact .inr ⟨empty, r, by simp [read, none, same]⟩

theorem read_valid {s : Ypipe Item} (valid : s.Valid) (idle : s.taking = false) : s.read.Valid := by
  have checked := checkRead_valid valid idle
  unfold read
  split
  next found => exact { checked with taking := fun _ => checkRead_fetched valid found }
  next => exact { checked with }

theorem take_some {s : Ypipe Item} (valid : s.Valid) (taking : s.taking = true) :
    ∃ value, s.items[s.front]? = some value ∧ s.take = some
      { s with
        front := s.front + 1
        taking := false
        outcomes := s.outcomes ++ [.read (some value)] } := by
  obtain ⟨position, fetched, ahead⟩ := valid.taking taking
  have within : s.front < s.items.length := by
    have below := (valid.prefetched position fetched).2
    have flushed := valid.flushed_complete
    have written := valid.complete_written
    omega
  exact ⟨s.items[s.front], List.getElem?_eq_getElem within, by simp [take, within]⟩

theorem take_valid {s next : Ypipe Item} (valid : s.Valid) (taking : s.taking = true)
    (taken : s.take = some next) : next.Valid := by
  obtain ⟨position, fetched, ahead⟩ := valid.taking taking
  obtain ⟨value, -, same⟩ := take_some valid taking
  cases same.symm.trans taken
  have below := (valid.prefetched position fetched).2
  refine { valid with read_flushed := ?_, shared := ?_, prefetched := ?_, taking := by simp }
  · show s.front + 1 ≤ s.w
    omega
  · rcases valid.shared with shared | ⟨-, empty⟩
    · exact .inl shared
    · omega
  · intro other same
    cases fetched.symm.trans same
    exact ⟨ahead, below⟩

end Reader

section Writer

theorem write_valid {s : Ypipe Item} (valid : s.Valid) (idle : s.waking = false) (value : Item)
    (incomplete : Bool) : (s.write value incomplete).Valid := by
  have flushed := valid.flushed_complete
  have written := valid.complete_written
  refine
    { valid with flushed_complete := ?_, complete_written := ?_, waking := by simp [write, idle] }
  · simp only [write]
    split <;> omega
  · simp only [write, List.length_append, List.length_singleton]
    split <;> omega

theorem unwrite_valid {s : Ypipe Item} (valid : s.Valid) : s.unwrite.Valid := by
  have written := valid.complete_written
  unfold unwrite
  split
  next => exact { valid with }
  next apart =>
    refine { valid with complete_written := ?_ }
    simp only [List.length_dropLast]
    omega

-- The reader sees what is flushed, unless it is asleep and has to be woken.
theorem flush_cases (s : Ypipe Item) (valid : s.Valid) :
    (s.w = s.f ∧ s.flush = { s with outcomes := s.outcomes ++ [.flushed true] }) ∨
    (s.w < s.f ∧ s.c = some s.w ∧
      s.flush = { s with c := some s.f, w := s.f, outcomes := s.outcomes ++ [.flushed true] }) ∨
    (s.w < s.f ∧ s.c = none ∧ s.flush = { s with waking := true }) := by
  have flushed := valid.flushed_complete
  by_cases nothing : s.w = s.f
  · exact .inl ⟨nothing, by rw [flush, if_pos nothing]⟩
  · have more : s.w < s.f := by omega
    rcases valid.shared with shared | ⟨shared, -⟩
    · exact .inr (.inl ⟨more, shared, by simp [flush, nothing, cas, shared]⟩)
    · refine .inr (.inr ⟨more, shared, ?_⟩)
      simp [flush, nothing, cas, shared]

theorem flush_awake {s : Ypipe Item} (valid : s.Valid) (awake : s.flush.waking = false) :
    s.flush.items = s.items ∧ s.flush.front = s.front ∧ s.flush.w = s.f ∧ s.flush.f = s.f ∧
      s.flush.taking = s.taking ∧ (s.flush.c = none ↔ s.c = none) := by
  rcases flush_cases s valid with ⟨nothing, same⟩ | ⟨-, shared, same⟩ | ⟨-, -, same⟩
  · rw [same]
    exact ⟨rfl, rfl, nothing, rfl, rfl, Iff.rfl⟩
  · rw [same]
    exact ⟨rfl, rfl, rfl, rfl, rfl, by simp [shared]⟩
  · rw [same] at awake
    cases awake

theorem flush_valid {s : Ypipe Item} (valid : s.Valid) (idle : s.waking = false) :
    s.flush.Valid := by
  have read := valid.read_flushed
  rcases flush_cases s valid with ⟨-, same⟩ | ⟨more, -, same⟩ | ⟨more, shared, same⟩
  · rw [same]
    exact { valid with }
  · rw [same]
    refine
      { valid with read_flushed := ?_, flushed_complete := Nat.le_refl s.f, shared := .inl rfl,
                   prefetched := ?_, waking := by simp [idle] }
    · show s.front ≤ s.f
      omega
    · intro position fetched
      have bounds := valid.prefetched position fetched
      exact ⟨bounds.1, by show position ≤ s.f; omega⟩
  · rw [same]
    exact { valid with waking := fun _ => ⟨shared, more⟩ }

theorem wake_valid {s : Ypipe Item} (valid : s.Valid) (waking : s.waking = true) :
    s.wake.Valid := by
  have read := valid.read_flushed
  have more := (valid.waking waking).2
  refine
    { valid with read_flushed := ?_, flushed_complete := Nat.le_refl s.f, shared := .inl rfl,
                 prefetched := ?_, waking := by simp [wake] }
  · show s.front ≤ s.f
    omega
  · intro position fetched
    have bounds := valid.prefetched position fetched
    exact ⟨bounds.1, by show position ≤ s.f; omega⟩

end Writer

theorem step_valid (s : Ypipe Item) (action : Action Item) (next : Ypipe Item) (valid : s.Valid)
    (taken : s.step action = some next) : next.Valid := by
  cases action with
  | write value incomplete =>
      obtain ⟨idle, same⟩ := Option.ite_none_left_eq_some.mp taken
      cases same
      exact write_valid valid (by simpa using idle) value incomplete
  | unwrite =>
      obtain ⟨idle, same⟩ := Option.ite_none_left_eq_some.mp taken
      cases same
      exact unwrite_valid valid
  | flush =>
      obtain ⟨idle, same⟩ := Option.ite_none_left_eq_some.mp taken
      cases same
      exact flush_valid valid (by simpa using idle)
  | wake =>
      obtain ⟨waking, same⟩ := Option.ite_none_right_eq_some.mp taken
      cases same
      exact wake_valid valid waking
  | checkRead =>
      obtain ⟨idle, same⟩ := Option.ite_none_left_eq_some.mp taken
      cases same
      exact { checkRead_valid valid (by simpa using idle) with }
  | read =>
      obtain ⟨idle, same⟩ := Option.ite_none_left_eq_some.mp taken
      cases same
      exact read_valid valid (by simpa using idle)
  | take =>
      obtain ⟨taking, same⟩ := Option.ite_none_right_eq_some.mp taken
      exact take_valid valid taking same

section View

def between (s : Ypipe Item) (start stop : Nat) : List Item := (s.items.take stop).drop start

theorem between_eq_nil {s : Ypipe Item} {start stop : Nat} (within : stop ≤ s.items.length) :
    s.between start stop = [] ↔ stop ≤ start := by
  simp only [between, List.drop_eq_nil_iff, List.length_take]
  omega

theorem between_append (s : Ypipe Item) {start middle stop : Nat} (first : start ≤ middle)
    (second : middle ≤ stop) (within : stop ≤ s.items.length) :
    s.between start middle ++ s.between middle stop = s.between start stop := by
  have cut : s.items.take middle ++ s.between middle stop = s.items.take stop := by
    have same : (s.items.take stop).take middle = s.items.take middle := by
      rw [List.take_take, Nat.min_eq_left second]
    rw [between, ← same, List.take_append_drop]
  have short : start ≤ (s.items.take middle).length := by
    simp only [List.length_take]
    omega
  calc s.between start middle ++ s.between middle stop
      = (s.items.take middle ++ s.between middle stop).drop start := by
        rw [List.drop_append_of_le_length short, between]
    _ = s.between start stop := by rw [cut, between]

theorem between_all (s : Ypipe Item) (start : Nat) :
    s.between start s.items.length = s.items.drop start := by
  rw [between, List.take_length]

def pipe (s : Ypipe Item) : Upipe Item where
  flushed := s.between s.front s.w
  complete := s.between s.w s.f
  incomplete := s.items.drop s.f
  asleep := s.c.isNone

def view (s : Ypipe Item) : Upipe Item × List (PipeOutcome Item) := (s.pipe, s.outcomes)

/-- The calls that take effect in a step: a flush that has to wake the reader does so in its last
access to the pointer, a read that succeeds when it takes its item. -/
def effects (s : Ypipe Item) : Action Item → List (PipeCall Item)
  | .write value incomplete => [.write value incomplete]
  | .unwrite => [.unwrite]
  | .flush => if s.flush.waking then [] else [.flush]
  | .wake => [.flush]
  | .checkRead => [.checkRead]
  | .read => if s.checkRead.2 then [] else [.read]
  | .take => [.read]

theorem write_view {s : Ypipe Item} (valid : s.Valid) (value : Item) (incomplete : Bool) :
    (s.write value incomplete).pipe = s.pipe.write value incomplete := by
  have flushed := valid.flushed_complete
  have written := valid.complete_written
  have kept : ∀ start stop, stop ≤ s.items.length →
      (s.write value incomplete).between start stop = s.between start stop := by
    intro start stop within
    rw [between, between, write, List.take_append_of_le_length within]
  cases incomplete with
  | true =>
      simp only [pipe, Upipe.write, if_true]
      congr 1
      · exact kept s.front s.w (by omega)
      · exact kept s.w s.f written
      · show (s.items ++ [value]).drop s.f = _
        rw [List.drop_append_of_le_length written]
  | false =>
      have all : s.between s.w s.f ++ s.items.drop s.f = s.items.drop s.w := by
        rw [← between_all, between_append s flushed written (Nat.le_refl _), between_all]
      simp only [pipe, Upipe.write]
      congr 1
      · exact kept s.front s.w (by omega)
      · show ((s.items ++ [value]).take (s.items.length + 1)).drop s.w = _
        rw [List.take_of_length_le (by simp), List.drop_append_of_le_length (by omega),
          all]
      · show (s.items ++ [value]).drop (s.items.length + 1) = []
        simp

theorem unwrite_view {s : Ypipe Item} (valid : s.Valid) :
    s.unwrite.view = (s.pipe.unwrite.1, s.outcomes ++ [.unwritten s.pipe.unwrite.2]) := by
  have flushed := valid.flushed_complete
  have written := valid.complete_written
  by_cases nothing : s.f = s.items.length
  · have empty : s.items.drop s.f = [] := by simp [nothing]
    simp [view, unwrite, nothing, pipe, Upipe.unwrite, between]
  · have below : s.f ≤ s.items.length - 1 := by omega
    have kept : ∀ start stop, stop ≤ s.f → s.unwrite.between start stop = s.between start stop := by
      intro start stop within
      rw [between, between, unwrite, if_neg nothing, List.dropLast_eq_take, List.take_take,
        Nat.min_eq_left (by omega)]
    have last : (s.items.drop s.f).getLast? = s.items.getLast? := by
      rw [List.getLast?_drop, if_neg (by omega)]
    simp only [view, pipe, Upipe.unwrite, Prod.mk.injEq, Upipe.mk.injEq]
    refine ⟨⟨?_, ?_, ?_, ?_⟩, ?_⟩
    · have same : s.unwrite.front = s.front ∧ s.unwrite.w = s.w := by
        simp [unwrite, nothing]
      rw [same.1, same.2]
      exact kept s.front s.w flushed
    · have same : s.unwrite.w = s.w ∧ s.unwrite.f = s.f := by
        simp [unwrite, nothing]
      rw [same.1, same.2]
      exact kept s.w s.f (Nat.le_refl _)
    · simp only [unwrite, nothing, if_false, List.dropLast_eq_take, List.drop_take,
        List.length_drop]
      rw [Nat.sub_right_comm]
    · simp [unwrite, nothing]
    · simp [unwrite, nothing, last]

-- A flush of the atomic pipe hands over what is complete.
theorem pipe_flush {s : Ypipe Item} (valid : s.Valid) (more : s.w < s.f) :
    s.pipe.flush = ({ s with c := some s.f, w := s.f : Ypipe Item }.pipe, !s.c.isNone) := by
  have read := valid.read_flushed
  have written := valid.complete_written
  have some_complete : s.pipe.complete ≠ [] := by
    intro empty
    have none_left := (between_eq_nil written).mp empty
    omega
  have nothing_left : s.between s.f s.f = [] := (between_eq_nil written).mpr (Nat.le_refl s.f)
  have joined := between_append s read (Nat.le_of_lt more) written
  rw [Upipe.flush, if_neg some_complete]
  rw [show s.pipe.flushed ++ s.pipe.complete = s.between s.front s.f from joined]
  simp only [pipe, Prod.mk.injEq, Upipe.mk.injEq, Option.isNone_some, and_true]
  exact ⟨rfl, nothing_left.symm⟩

theorem pipe_flush_nothing {s : Ypipe Item} (valid : s.Valid) (nothing : s.w = s.f) :
    s.pipe.flush = (s.pipe, true) := by
  have empty : s.pipe.complete = [] :=
    (between_eq_nil valid.complete_written).mpr (Nat.le_of_eq nothing.symm)
  rw [Upipe.flush, if_pos empty]

theorem pipe_empty {s : Ypipe Item} (valid : s.Valid) (empty : s.front = s.w) :
    s.pipe.flushed = [] := by
  have flushed := valid.flushed_complete
  have written := valid.complete_written
  exact (between_eq_nil (by omega)).mpr (Nat.le_of_eq empty.symm)

theorem pipe_head {s : Ypipe Item} (valid : s.Valid) (ahead : s.front < s.w) {value : Item}
    (first : s.items[s.front]? = some value) :
    s.pipe.flushed = value :: s.between (s.front + 1) s.w := by
  have flushed := valid.flushed_complete
  have written := valid.complete_written
  obtain ⟨within, same⟩ := List.getElem?_eq_some_iff.mp first
  show (s.items.take s.w).drop s.front = value :: (s.items.take s.w).drop (s.front + 1)
  rw [List.drop_eq_getElem_cons (by simp only [List.length_take]; omega), List.getElem_take, same]

-- In every case the check reads the same of the atomic pipe.
theorem pipe_checkRead {s : Ypipe Item} (valid : s.Valid) :
    s.pipe.checkRead = (s.checkRead.1.pipe, s.checkRead.2) := by
  have flushed := valid.flushed_complete
  have written := valid.complete_written
  have nonempty (ahead : s.front < s.w) : s.pipe.flushed ≠ [] := by
    intro empty
    have passed := (between_eq_nil (by omega)).mp empty
    omega
  rcases checkRead_cases s valid with ⟨same, position, fetched, ahead⟩ | ⟨same, shared, ahead⟩ |
    ⟨none, empty, r, -, same⟩
  · have below := (valid.prefetched position fetched).2
    rw [same, Upipe.checkRead, if_neg (nonempty (by omega))]
  · rw [same, Upipe.checkRead, if_neg (nonempty ahead)]
    rfl
  · rw [same, none, Upipe.checkRead, if_pos (pipe_empty valid empty)]
    rfl

theorem effects_view (s : Ypipe Item) (action : Action Item) (next : Ypipe Item) (valid : s.Valid)
    (taken : s.step action = some next) :
    run Upipe.call s.view (s.effects action) = some next.view := by
  have one (call : PipeCall Item) (after : Upipe Item × List (PipeOutcome Item))
      (same : Upipe.call s.view call = some after) : run Upipe.call s.view [call] = some after := by
    rw [run_cons_some]
    exact ⟨after, same, rfl⟩
  cases action with
  | write value incomplete =>
      obtain ⟨-, same⟩ := Option.ite_none_left_eq_some.mp taken
      cases same
      apply one
      show some (s.pipe.write value incomplete, s.outcomes) = _
      rw [← write_view valid]
      rfl
  | unwrite =>
      obtain ⟨-, same⟩ := Option.ite_none_left_eq_some.mp taken
      cases same
      apply one
      rw [unwrite_view valid]
      rfl
  | flush =>
      obtain ⟨idle, same⟩ := Option.ite_none_left_eq_some.mp taken
      cases same
      rcases flush_cases s valid with ⟨nothing, same⟩ | ⟨more, shared, same⟩ | ⟨more, shared, same⟩
      · rw [effects, same, if_neg (by simpa using idle)]
        apply one
        show some (s.pipe.flush.1, s.outcomes ++ [.flushed s.pipe.flush.2]) = _
        rw [pipe_flush_nothing valid nothing]
        rfl
      · rw [effects, same, if_neg (by simpa using idle)]
        apply one
        show some (s.pipe.flush.1, s.outcomes ++ [.flushed s.pipe.flush.2]) = _
        rw [pipe_flush valid more, shared]
        rfl
      · rw [effects, same, if_pos rfl]
        rfl
  | wake =>
      obtain ⟨waking, same⟩ := Option.ite_none_right_eq_some.mp taken
      cases same
      obtain ⟨shared, more⟩ := valid.waking waking
      apply one
      show some (s.pipe.flush.1, s.outcomes ++ [.flushed s.pipe.flush.2]) = _
      rw [pipe_flush valid more, shared]
      rfl
  | checkRead =>
      obtain ⟨-, same⟩ := Option.ite_none_left_eq_some.mp taken
      cases same
      apply one
      show some (s.pipe.checkRead.1, s.outcomes ++ [.checked s.pipe.checkRead.2]) = _
      rw [pipe_checkRead valid]
      rfl
  | read =>
      obtain ⟨-, same⟩ := Option.ite_none_left_eq_some.mp taken
      cases same
      have checked := pipe_checkRead valid
      cases found : s.checkRead.2 with
      | true =>
          have unchanged := @Upipe.checkRead_available _ s.pipe (by rw [checked, found])
          rw [effects, if_pos found, run_nil, read, if_pos found]
          simp only [checked] at unchanged
          show some (s.pipe, s.outcomes) = some (s.checkRead.1.pipe, s.checkRead.1.outcomes)
          rw [unchanged, checkRead_outcomes]
      | false =>
          have unavailable := @Upipe.read_unavailable _ s.pipe (by rw [checked, found])
          rw [effects, if_neg (by simp [found])]
          apply one
          show some (s.pipe.read.1, s.outcomes ++ [.read s.pipe.read.2]) = _
          rw [unavailable, checked, read, if_neg (by simp [found])]
          rfl
  | take =>
      obtain ⟨taking, same⟩ := Option.ite_none_right_eq_some.mp taken
      obtain ⟨position, fetched, ahead⟩ := valid.taking taking
      have below := (valid.prefetched position fetched).2
      obtain ⟨value, first, after⟩ := take_some valid taking
      cases after.symm.trans same
      apply one
      show some (s.pipe.read.1, s.outcomes ++ [.read s.pipe.read.2]) = _
      rw [Upipe.read, pipe_head valid (by omega) first]
      rfl

/-- The calls of a run in the order in which they take effect. -/
def linearization : Ypipe Item → List (Action Item) → List (PipeCall Item) :=
  simulated step effects

end View

section ProgramOrder

def writerCall : Action Item → Option (PipeCall Item)
  | .write value incomplete => some (.write value incomplete)
  | .unwrite => some .unwrite
  | .flush => some .flush
  | .wake | .checkRead | .read | .take => none

def readerCall : Action Item → Option (PipeCall Item)
  | .checkRead => some .checkRead
  | .read => some .read
  | .write _ _ | .unwrite | .flush | .wake | .take => none

-- The call of each thread that has begun and not yet taken effect.
def writerPending (s : Ypipe Item) : List (PipeCall Item) := if s.waking then [.flush] else []

def readerPending (s : Ypipe Item) : List (PipeCall Item) := if s.taking then [.read] else []

theorem checkRead_idle (s : Ypipe Item) :
    s.checkRead.1.waking = s.waking ∧ s.checkRead.1.taking = s.taking := by
  unfold checkRead
  split <;> exact ⟨rfl, rfl⟩

theorem flush_taking (s : Ypipe Item) : s.flush.taking = s.taking := by
  unfold flush
  split
  next => rfl
  next => split <;> rfl

-- A step begins a call, has the call that is under way take effect, or does both.
theorem effects_order (s : Ypipe Item) (action : Action Item) (next : Ypipe Item)
    (taken : s.step action = some next) :
    s.writerPending ++ (writerCall action).toList =
        (s.effects action).filter PipeCall.byWriter ++ next.writerPending ∧
      s.readerPending ++ (readerCall action).toList =
        (s.effects action).filter (fun call => !call.byWriter) ++ next.readerPending := by
  cases action with
  | write value incomplete =>
      obtain ⟨idle, same⟩ := Option.ite_none_left_eq_some.mp taken
      cases same
      simp [writerPending, readerPending, writerCall, readerCall, effects, write, List.filter_cons,
        PipeCall.byWriter,
        idle]
  | unwrite =>
      obtain ⟨idle, same⟩ := Option.ite_none_left_eq_some.mp taken
      cases same
      have kept : s.unwrite.waking = s.waking ∧ s.unwrite.taking = s.taking := by
        unfold unwrite
        split <;> exact ⟨rfl, rfl⟩
      simp [writerPending, readerPending, writerCall, readerCall, effects, List.filter_cons,
        PipeCall.byWriter, kept, idle]
  | flush =>
      obtain ⟨idle, same⟩ := Option.ite_none_left_eq_some.mp taken
      cases same
      cases flushing : s.flush.waking <;>
        simp [writerPending, readerPending, writerCall, readerCall, effects, List.filter_cons,
          PipeCall.byWriter, idle, flushing, flush_taking]
  | wake =>
      obtain ⟨waking, same⟩ := Option.ite_none_right_eq_some.mp taken
      cases same
      have kept : s.wake.taking = s.taking ∧ s.wake.waking = false := ⟨rfl, rfl⟩
      simp [writerPending, readerPending, writerCall, readerCall, effects, List.filter_cons,
        PipeCall.byWriter, kept, waking]
  | checkRead =>
      obtain ⟨idle, same⟩ := Option.ite_none_left_eq_some.mp taken
      cases same
      simp [writerPending, readerPending, writerCall, readerCall, effects, PipeCall.byWriter, idle,
        checkRead_idle]
  | read =>
      obtain ⟨idle, same⟩ := Option.ite_none_left_eq_some.mp taken
      cases same
      cases found : s.checkRead.2 <;>
        simp [writerPending, readerPending, writerCall, readerCall, effects, PipeCall.byWriter,
          idle, checkRead_idle, read, found]
  | take =>
      obtain ⟨taking, same⟩ := Option.ite_none_right_eq_some.mp taken
      obtain ⟨value, -, same⟩ := Option.map_eq_some_iff.mp same
      subst same
      simp [writerPending, readerPending, writerCall, readerCall, effects, PipeCall.byWriter,
        taking]

theorem linearization_order {s final : Ypipe Item} {actions : List (Action Item)}
    (reached : run step s actions = some final) :
    s.writerPending ++ actions.filterMap writerCall =
        (linearization s actions).filter PipeCall.byWriter ++ final.writerPending ∧
      s.readerPending ++ actions.filterMap readerCall =
        (linearization s actions).filter (fun call => !call.byWriter) ++ final.readerPending := by
  induction actions generalizing s with
  | nil =>
      cases reached
      simp [linearization, simulated]
  | cons action rest ih =>
      obtain ⟨next, taken, remaining⟩ := run_cons_some.mp reached
      obtain ⟨writer, reader⟩ := effects_order s action next taken
      obtain ⟨laterWriter, laterReader⟩ := ih remaining
      have split (call : Action Item → Option (PipeCall Item)) :
          (action :: rest).filterMap call = (call action).toList ++ rest.filterMap call := by
        cases called : call action <;> simp [called]
      have unfolded : linearization s (action :: rest) =
          s.effects action ++ linearization next rest := by
        simp [linearization, simulated, taken]
      rw [split, split, unfolded, List.filter_append, List.filter_append]
      constructor
      · rw [← List.append_assoc, writer, List.append_assoc, laterWriter, List.append_assoc]
      · rw [← List.append_assoc, reader, List.append_assoc, laterReader, List.append_assoc]

end ProgramOrder

/-- Every interleaving of the writer and the reader is a run of the atomic pipe: each call takes
effect in one of its own steps, those of either thread in the order it makes them, and each returns
what the atomic pipe returns. -/
theorem linearizable {actions : List (Action Item)} {final : Ypipe Item}
    (reached : run step {} actions = some final) :
    run Upipe.call ({}, []) (linearization {} actions) = some (final.pipe, final.outcomes) ∧
      actions.filterMap writerCall =
        (linearization {} actions).filter PipeCall.byWriter ++ final.writerPending ∧
      actions.filterMap readerCall =
        (linearization {} actions).filter (fun call => !call.byWriter) ++ final.readerPending := by
  have simulates := run_simulates Valid view effects step_valid
    (fun s action next valid taken => effects_view s action next valid taken) valid_initial reached
  exact ⟨simulates, linearization_order reached⟩

-- The reader finds nothing; the writer's flush is overtaken by a second failing check.
def wokenReader : List (Action Nat) :=
  [.read, .write 7 true, .unwrite, .write 1 true, .write 2 false, .flush, .checkRead, .wake, .read,
    .write 3 true, .take]

theorem linearizable_woken : ∃ final, run step {} wokenReader = some final ∧
    final.outcomes = [.read none, .unwritten (some 7), .checked false, .flushed false,
      .read (some 1)] ∧
    run Upipe.call ({}, []) (linearization {} wokenReader) = some (final.pipe, final.outcomes) := by
  have reached : ∃ final, run step {} wokenReader = some final ∧ final.outcomes =
      [.read none, .unwritten (some 7), .checked false, .flushed false, .read (some 1)] :=
    ⟨_, rfl, rfl⟩
  obtain ⟨final, reached, outcomes⟩ := reached
  exact ⟨final, reached, outcomes, (linearizable reached).1⟩

section Messages

variable (more : Item → Bool)

-- Frames that do not end in the middle of a message.
def Whole (frames : List Item) : Prop := ∀ last, frames.getLast? = some last → more last = false

-- A writer that says of each frame whether the message goes on after it.
def Framing : Action Item → Prop
  | .write value incomplete => incomplete = more value
  | _ => True

structure Framed (s : Ypipe Item) : Prop where
  flushed : Whole more (s.items.take s.w)
  complete : Whole more (s.items.take s.f)
  delivered : s.outcomes.filterMap PipeOutcome.delivered = s.items.take s.front

theorem framed_initial : Framed more ({} : Ypipe Item) where
  flushed := by simp [Whole]
  complete := by simp [Whole]
  delivered := rfl

variable {more}

theorem write_framed {s : Ypipe Item} (valid : s.Valid) (framed : Framed more s) (value : Item) :
    Framed more (s.write value (more value)) := by
  have read := valid.read_flushed
  have flushed := valid.flushed_complete
  have written := valid.complete_written
  have kept (position : Nat) (within : position ≤ s.items.length) :
      (s.items ++ [value]).take position = s.items.take position :=
    List.take_append_of_le_length within
  constructor
  · show Whole more ((s.items ++ [value]).take s.w)
    rw [kept s.w (by omega)]
    exact framed.flushed
  · show Whole more ((s.items ++ [value]).take (if more value then s.f else s.items.length + 1))
    split
    next =>
      rw [kept s.f written]
      exact framed.complete
    next last =>
      intro other same
      simp only [List.take_of_length_le, List.length_append, List.length_singleton, Nat.le_refl,
        List.getLast?_append_cons, List.getLast?_singleton, Option.some.injEq] at same
      subst same
      simpa using last
  · show s.outcomes.filterMap PipeOutcome.delivered = (s.items ++ [value]).take s.front
    rw [kept s.front (by omega)]
    exact framed.delivered

theorem unwrite_framed {s : Ypipe Item} (valid : s.Valid) (framed : Framed more s) :
    Framed more s.unwrite := by
  have read := valid.read_flushed
  have flushed := valid.flushed_complete
  have written := valid.complete_written
  unfold unwrite
  split
  next =>
    refine { framed with delivered := ?_ }
    simpa [List.filterMap_cons, PipeOutcome.delivered] using framed.delivered
  next apart =>
    have kept (position : Nat) (within : position ≤ s.f) :
        s.items.dropLast.take position = s.items.take position := by
      rw [List.dropLast_eq_take, List.take_take, Nat.min_eq_left (by omega)]
    constructor
    · show Whole more (s.items.dropLast.take s.w)
      rw [kept s.w flushed]
      exact framed.flushed
    · show Whole more (s.items.dropLast.take s.f)
      rw [kept s.f (Nat.le_refl _)]
      exact framed.complete
    · show (s.outcomes ++ [_]).filterMap PipeOutcome.delivered = s.items.dropLast.take s.front
      rw [kept s.front (by omega)]
      simpa [List.filterMap_cons, PipeOutcome.delivered] using framed.delivered

theorem flush_framed {s : Ypipe Item} (valid : s.Valid) (framed : Framed more s) :
    Framed more s.flush := by
  have delivered := framed.delivered
  rcases flush_cases s valid with ⟨-, same⟩ | ⟨-, -, same⟩ | ⟨-, -, same⟩
  · rw [same]
    refine { framed with delivered := ?_ }
    simpa [List.filterMap_cons, PipeOutcome.delivered] using delivered
  · rw [same]
    refine { framed with flushed := framed.complete, delivered := ?_ }
    simpa [List.filterMap_cons, PipeOutcome.delivered] using delivered
  · rw [same]
    exact { framed with }

theorem checkRead_items (s : Ypipe Item) :
    s.checkRead.1.items = s.items ∧ s.checkRead.1.w = s.w ∧ s.checkRead.1.f = s.f ∧
      s.checkRead.1.front = s.front := by
  unfold checkRead
  split <;> exact ⟨rfl, rfl, rfl, rfl⟩

theorem check_framed {s checked : Ypipe Item} (framed : Framed more s)
    (items : checked.items = s.items ∧ checked.w = s.w ∧ checked.f = s.f ∧ checked.front = s.front)
    (delivered : checked.outcomes.filterMap PipeOutcome.delivered =
      s.outcomes.filterMap PipeOutcome.delivered) : Framed more checked := by
  obtain ⟨items, w, f, front⟩ := items
  constructor
  · rw [items, w]
    exact framed.flushed
  · rw [items, f]
    exact framed.complete
  · rw [items, front, delivered]
    exact framed.delivered

theorem step_framed {s next : Ypipe Item} (action : Action Item) (valid : s.Valid)
    (framed : Framed more s) (framing : Framing more action) (taken : s.step action = some next) :
    Framed more next := by
  cases action with
  | write value incomplete =>
      obtain ⟨-, same⟩ := Option.ite_none_left_eq_some.mp taken
      cases same
      cases framing
      exact write_framed valid framed value
  | unwrite =>
      obtain ⟨-, same⟩ := Option.ite_none_left_eq_some.mp taken
      cases same
      exact unwrite_framed valid framed
  | flush =>
      obtain ⟨-, same⟩ := Option.ite_none_left_eq_some.mp taken
      cases same
      exact flush_framed valid framed
  | wake =>
      obtain ⟨-, same⟩ := Option.ite_none_right_eq_some.mp taken
      cases same
      refine { framed with flushed := framed.complete, delivered := ?_ }
      simpa [wake, List.filterMap_cons, PipeOutcome.delivered] using framed.delivered
  | checkRead =>
      obtain ⟨-, same⟩ := Option.ite_none_left_eq_some.mp taken
      cases same
      exact check_framed framed (checkRead_items s) (by simp [PipeOutcome.delivered])
  | read =>
      obtain ⟨-, same⟩ := Option.ite_none_left_eq_some.mp taken
      cases same
      unfold read
      split
      next => exact check_framed framed (checkRead_items s) (by simp [checkRead_outcomes])
      next => exact check_framed framed (checkRead_items s) (by simp [PipeOutcome.delivered])
  | take =>
      obtain ⟨taking, same⟩ := Option.ite_none_right_eq_some.mp taken
      obtain ⟨value, first, after⟩ := take_some valid taking
      cases after.symm.trans same
      refine { framed with delivered := ?_ }
      simp only [List.filterMap_append, framed.delivered, List.take_add_one, first]
      rfl

-- In the middle of a message the reader has not caught up with what is flushed.
theorem checkRead_within {s : Ypipe Item} (valid : s.Valid) (framed : Framed more s) {last : Item}
    (read : (s.items.take s.front).getLast? = some last) (goes_on : more last = true) :
    s.checkRead.2 = true := by
  rcases checkRead_cases s valid with ⟨same, -⟩ | ⟨same, -⟩ | ⟨-, empty, -⟩
  · rw [same]
  · rw [same]
  · have ends := framed.flushed last (by rw [← empty, read])
    cases goes_on.symm.trans ends

-- The writer takes back nothing, and overwrites nothing, of what is flushed.
theorem step_flushed {s next : Ypipe Item} {action : Action Item} (valid : s.Valid)
    (taken : s.step action = some next) : next.items.take s.w = s.items.take s.w := by
  have flushed := valid.flushed_complete
  have written := valid.complete_written
  cases action with
  | write value incomplete =>
      obtain ⟨-, same⟩ := Option.ite_none_left_eq_some.mp taken
      cases same
      exact List.take_append_of_le_length (by omega)
  | unwrite =>
      obtain ⟨-, same⟩ := Option.ite_none_left_eq_some.mp taken
      cases same
      unfold unwrite
      split
      next => rfl
      next apart =>
        show s.items.dropLast.take s.w = _
        rw [List.dropLast_eq_take, List.take_take, Nat.min_eq_left (by omega)]
  | flush =>
      obtain ⟨-, same⟩ := Option.ite_none_left_eq_some.mp taken
      cases same
      rcases flush_cases s valid with ⟨-, same⟩ | ⟨-, -, same⟩ | ⟨-, -, same⟩ <;> rw [same]
  | wake =>
      obtain ⟨-, same⟩ := Option.ite_none_right_eq_some.mp taken
      cases same
      rfl
  | checkRead =>
      obtain ⟨-, same⟩ := Option.ite_none_left_eq_some.mp taken
      cases same
      rw [(checkRead_items s).1]
  | read =>
      obtain ⟨-, same⟩ := Option.ite_none_left_eq_some.mp taken
      cases same
      unfold read
      split <;> rw [(checkRead_items s).1]
  | take =>
      obtain ⟨-, same⟩ := Option.ite_none_right_eq_some.mp taken
      obtain ⟨value, -, same⟩ := Option.map_eq_some_iff.mp same
      subst same
      rfl

/-- When the writer says of each frame whether its message goes on, the reader gets the frames once
each and in their order, and from the middle of a message it can always read on. What it may read
no step of the writer changes. -/
theorem reads_whole_messages {actions : List (Action Item)} {final : Ypipe Item}
    (framing : ∀ action ∈ actions, Framing more action)
    (reached : run step {} actions = some final) :
    final.outcomes.filterMap PipeOutcome.delivered = final.items.take final.front ∧
      (∀ last, (final.outcomes.filterMap PipeOutcome.delivered).getLast? = some last →
        more last = true → final.checkRead.2 = true) ∧
      final.front ≤ final.w ∧
      ∀ action next, final.step action = some next →
        next.items.take final.w = final.items.take final.w := by
  obtain ⟨valid, framed⟩ : final.Valid ∧ Framed more final := by
    refine run_invariant (fun s => s.Valid ∧ Framed more s) ?_
      ⟨valid_initial, framed_initial more⟩ (along_of_forall framing _) reached
    intro s action next held framing taken
    exact ⟨step_valid s action next held.1 taken, step_framed action held.1 held.2 framing taken⟩
  refine ⟨framed.delivered, ?_, valid.read_flushed, fun action next => step_flushed valid⟩
  intro last read goes_on
  rw [framed.delivered] at read
  exact checkRead_within valid framed read goes_on

-- An odd number is a frame that another one follows.
theorem reads_whole_messages_woken : ∃ final,
    run step {} [.checkRead, .write 1 true, .write 2 false, .write 5 true, .flush, .wake, .read,
      .take] = some final ∧
    final.outcomes.filterMap PipeOutcome.delivered = [1] ∧ final.checkRead.2 = true := by
  refine ⟨_, rfl, rfl, ?_⟩
  have framing : ∀ action ∈ ([.checkRead, .write 1 true, .write 2 false, .write 5 true, .flush,
      .wake, .read, .take] : List (Action Nat)), Framing (fun frame => frame % 2 = 1) action := by
    simp [Framing]
  exact (reads_whole_messages framing rfl).2.1 1 rfl rfl

end Messages

end Ypipe

end Zmqcpp
