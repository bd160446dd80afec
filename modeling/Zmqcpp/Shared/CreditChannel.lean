import Zmqcpp.Shared.Transition

set_option autoImplicit false

/-!
# A channel with credit

The writer stops when what it has sent and does not know to be read reaches a mark. The reader tells
in lots how much it has read. Each of them sleeps when there is nothing to do for it, and is woken
by the other.
-/

open Transition

structure CreditChannel (Item : Type) where
  hwm : Nat
  lwm : Nat
  -- All that has been put in, and all that has been taken out.
  written : List Item := []
  read : List Item := []
  flushed : List Item := []
  complete : List Item := []
  -- The reader has found nothing; the writer has noticed that; the calls that wake it are on their way.
  asleep : Bool := false
  waking : Bool := false
  wakes : Nat := 0
  readerUp : Bool := true
  writerUp : Bool := true
  writtenCount : Int := 0
  readCount : Nat := 0
  -- What the writer knows to be read, and what it is yet to be told.
  credit : Nat := 0
  acks : List Nat := []
  closed : Bool := false
  done : Bool := false
  gone : Bool := false
  deriving DecidableEq, Repr

namespace CreditChannel

variable {Item : Type}

inductive Action (Item : Type)
  | put (items : List Item)
  | block
  | flush
  | wake
  | close
  | mark (item : Item)
  | take
  | sleep
  | woken
  | credited
  | stop
  | drop
  deriving DecidableEq, Repr

def full (c : CreditChannel Item) : Bool := 0 < c.hwm && c.writtenCount = c.credit + c.hwm

def flush (c : CreditChannel Item) : CreditChannel Item :=
  if c.complete = [] then c
  else
    { c with
      flushed := c.flushed ++ c.complete
      complete := []
      asleep := false
      waking := c.waking || c.asleep }

-- The counts at which a reader tells how much it has read.
def due (lwm count : Nat) : Bool := 0 < lwm && count % UInt64.size % lwm = 0

def count (c : CreditChannel Item) (readCount : Nat) : CreditChannel Item :=
  { c with readCount, acks := if due c.lwm readCount then c.acks ++ [readCount] else c.acks }

/-- `counted` says what takes credit, `final` what ends the channel. -/
def step (counted final : Item → Bool) (c : CreditChannel Item) :
    Action Item → Option (CreditChannel Item)
  | .put items =>
      if c.closed || !c.writerUp || c.full || items.any final || 1 < items.countP counted then none
      else
        some { c with
          written := c.written ++ items
          complete := c.complete ++ items
          writtenCount := c.writtenCount + items.countP counted }
  | .block => if c.closed || !c.full then none else some { c with writerUp := false }
  | .flush => some c.flush
  | .wake => if c.waking then some { c with waking := false, wakes := c.wakes + 1 } else none
  | .close => some { c with closed := true, writerUp := false }
  | .mark item =>
      if !c.closed || !final item then none
      else
        some { c with
          written := c.written ++ [item]
          flushed := c.flushed ++ c.complete ++ [item]
          complete := []
          asleep := false
          waking := c.waking || c.asleep }
  | .take =>
      if !c.readerUp || c.done then none
      else
        match c.flushed with
        | [] => none
        | item :: rest =>
            let taken := { c with flushed := rest, read := c.read ++ [item] }
            if final item then some { taken with done := true }
            else some (taken.count (if counted item then c.readCount + 1 else c.readCount))
  | .sleep =>
      if !c.readerUp || c.done || c.flushed ≠ [] then none
      else some { c with asleep := true, readerUp := false }
  | .woken =>
      match c.wakes with
      | 0 => none
      | wakes + 1 => some { c with wakes, readerUp := c.readerUp || !c.done }
  | .credited =>
      match c.acks with
      | [] => none
      | count :: rest => some { c with credit := count, acks := rest, writerUp := !c.closed }
  | .stop => some { c with done := true }
  | .drop =>
      if c.done then some { c with gone := true, flushed := [], complete := [], asleep := false }
      else none

variable {counted final : Item → Bool}

section Delivery

/-- What is taken out is what has been put in, in its order, and nothing else follows what ends the
channel. -/
structure Delivered (final : Item → Bool) (c : CreditChannel Item) : Prop where
  first : c.read <+: c.written
  held : c.gone = false → c.written = c.read ++ c.flushed ++ c.complete
  last : c.written.Pairwise fun before after => final before = true → final after = true
  marked : c.closed = false → ∀ item ∈ c.written, final item = false
  shown : ∀ item ∈ c.written, final item = true → c.complete = []
  ended : ∀ item ∈ c.read, final item = true → c.done = true
  dropped : c.gone = true → c.done = true

theorem Delivered.put {c : CreditChannel Item} (delivered : Delivered final c) {items : List Item}
    (here : c.closed = false) (plain : ∀ item ∈ items, final item = false) (writtenCount : Int) :
    Delivered final
      { c with
        written := c.written ++ items
        complete := c.complete ++ items
        writtenCount := writtenCount } := by
  have marked : ∀ item ∈ c.written ++ items, final item = false := by
    intro item member
    rcases List.mem_append.mp member with former | new
    · exact delivered.marked here item former
    · exact plain item new
  constructor
  · exact delivered.first.trans (List.prefix_append _ _)
  · intro there
    simp [delivered.held there]
  · rw [List.pairwise_iff_forall_sublist]
    intro before after sub ends
    have member := sub.subset (List.mem_cons_self)
    cases ends.symm.trans (marked before member)
  · exact fun _ => marked
  · intro item member ends
    cases ends.symm.trans (marked item member)
  · exact delivered.ended
  · exact delivered.dropped

theorem Delivered.mark {c : CreditChannel Item} (delivered : Delivered final c) {item : Item}
    (there : c.closed = true) (ends : final item = true) (asleep waking : Bool) :
    Delivered final
      { c with
        written := c.written ++ [item]
        flushed := c.flushed ++ c.complete ++ [item]
        complete := []
        asleep := asleep
        waking := waking } where
  first := delivered.first.trans (List.prefix_append _ _)
  held := by
    intro here
    simp [delivered.held here]
  last := by
    rw [List.pairwise_append]
    refine ⟨delivered.last, List.pairwise_singleton _ _, ?_⟩
    intro before _ after member _
    rw [List.mem_singleton.mp member]
    exact ends
  marked := fun here => by cases here.symm.trans there
  shown := fun _ _ _ => rfl
  ended := delivered.ended
  dropped := delivered.dropped

theorem Delivered.take {c : CreditChannel Item} (delivered : Delivered final c) {item : Item}
    {rest : List Item} (reads : c.done = false) (front : c.flushed = item :: rest) (done : Bool)
    (ended : final item = true → done = true) :
    Delivered final { c with flushed := rest, read := c.read ++ [item], done := done } := by
  have here : c.gone = false := by
    cases gone : c.gone with
    | false => rfl
    | true => cases reads.symm.trans (delivered.dropped gone)
  have held := delivered.held here
  rw [front] at held
  exact
    { delivered with
      first := ⟨rest ++ c.complete, by simp [held]⟩
      held := fun _ => by simp [held]
      ended := by
        intro taken member ends
        rcases List.mem_append.mp member with former | new
        · cases reads.symm.trans (delivered.ended taken former ends)
        · rw [List.mem_singleton.mp new] at ends
          exact ended ends
      dropped := fun gone => by cases here.symm.trans gone }

theorem Delivered.step {c next : CreditChannel Item} {action : Action Item}
    (delivered : Delivered final c) (taken : c.step counted final action = some next) :
    Delivered final next := by
  cases action with
  | put items =>
      obtain ⟨guard, same⟩ := Option.ite_none_left_eq_some.mp taken
      cases same
      simp only [Bool.or_eq_true, List.any_eq_true, not_or, not_exists, not_and] at guard
      exact delivered.put (by simpa using guard.1.1.1.1) (by simpa using guard.1.2) _
  | block =>
      obtain ⟨-, same⟩ := Option.ite_none_left_eq_some.mp taken
      cases same
      exact { delivered with }
  | flush =>
      cases taken
      unfold CreditChannel.flush
      split
      next => exact delivered
      next =>
        refine { delivered with held := fun here => ?_, shown := fun _ _ _ => rfl }
        simpa using delivered.held here
  | wake =>
      obtain ⟨-, same⟩ := Option.ite_none_right_eq_some.mp taken
      cases same
      exact { delivered with }
  | close =>
      cases taken
      exact { delivered with marked := fun here => by cases here }
  | mark item =>
      obtain ⟨guard, same⟩ := Option.ite_none_left_eq_some.mp taken
      cases same
      simp only [Bool.or_eq_true, Bool.not_eq_true', not_or, Bool.not_eq_false] at guard
      exact delivered.mark guard.1 guard.2 _ _
  | take =>
      obtain ⟨guard, same⟩ := Option.ite_none_left_eq_some.mp taken
      simp only [Bool.or_eq_true, not_or, Bool.not_eq_true] at guard
      split at same
      next => cases same
      next item rest front =>
        dsimp only at same
        split at same
        next ends =>
          cases same
          exact delivered.take guard.2 front true fun _ => rfl
        next goes_on =>
          cases same
          exact { delivered.take guard.2 front c.done fun ends => absurd ends goes_on with }
  | sleep =>
      obtain ⟨-, same⟩ := Option.ite_none_left_eq_some.mp taken
      cases same
      exact { delivered with }
  | woken =>
      simp only [CreditChannel.step] at taken
      split at taken
      next => cases taken
      next =>
        cases taken
        exact { delivered with }
  | credited =>
      simp only [CreditChannel.step] at taken
      split at taken
      next => cases taken
      next =>
        cases taken
        exact { delivered with }
  | stop =>
      cases taken
      exact { delivered with ended := fun _ _ _ => rfl, dropped := fun _ => rfl }
  | drop =>
      obtain ⟨done, same⟩ := Option.ite_none_right_eq_some.mp taken
      cases same
      exact
        { delivered with
          held := fun here => by cases here
          shown := fun _ _ _ => rfl
          dropped := fun _ => done }

theorem Delivered.all_read {c : CreditChannel Item} (delivered : Delivered final c) {item : Item}
    (member : item ∈ c.read) (ends : final item = true) :
    c.read.filter (fun item => !final item) = c.written.filter fun item => !final item := by
  obtain ⟨rest, split⟩ := delivered.first
  have last := delivered.last
  rw [← split, List.pairwise_append] at last
  have none_left : rest.filter (fun item => !final item) = [] := by
    rw [List.filter_eq_nil_iff]
    intro later here
    simp [last.2.2 item member later here ends]
  rw [← split, List.filter_append, none_left, List.append_nil]

end Delivery

section Credit

-- The last count up to this one that the reader has told.
def told (lwm count : Nat) : Nat := count - count % UInt64.size % lwm

theorem told_due {lwm count : Nat} (now : due lwm count = true) : told lwm count = count := by
  simp only [due, Bool.and_eq_true, decide_eq_true_eq] at now
  rw [told, now.2, Nat.sub_zero]

theorem lt_told_add {lwm : Nat} (positive : 0 < lwm) (count : Nat) : count < told lwm count + lwm := by
  have small := Nat.mod_lt (count % UInt64.size) positive
  unfold told
  omega

theorem mod_succ {count modulus : Nat} (apart : (count + 1) % modulus ≠ 0) :
    (count + 1) % modulus = count % modulus + 1 := by
  have split := Nat.div_add_mod count modulus
  rcases Nat.lt_or_ge (count % modulus + 1) modulus with below | last
  · rw [← split, Nat.add_assoc, Nat.mul_add_mod, Nat.mul_add_mod, Nat.mod_mod, Nat.mod_eq_of_lt below]
  · rcases Nat.eq_zero_or_pos modulus with zero | positive
    · simp [zero]
    · have wraps : count % modulus + 1 = modulus := by
        have small := Nat.mod_lt count positive
        omega
      rw [← split, Nat.add_assoc, wraps, Nat.mul_add_mod, Nat.mod_self] at apart
      exact absurd rfl apart

theorem told_succ {lwm count : Nat} (positive : 0 < lwm) (later : due lwm (count + 1) = false) :
    told lwm (count + 1) = told lwm count := by
  have apart : (count + 1) % UInt64.size % lwm ≠ 0 := by simpa [due, positive] using later
  have wraps : (count + 1) % UInt64.size = count % UInt64.size + 1 := by
    apply mod_succ
    intro zero
    rw [zero, Nat.zero_mod] at apart
    exact apart rfl
  rw [wraps] at apart
  rw [told, told, wraps, mod_succ apart]
  omega

structure Accounted (counted : Item → Bool) (c : CreditChannel Item) : Prop where
  writtenCount : c.writtenCount = c.written.countP counted
  readCount : c.readCount = c.read.countP counted
  ascending : (c.credit :: c.acks).Pairwise (· ≤ ·)
  acked : ∀ count ∈ c.credit :: c.acks, count ≤ c.readCount
  latest : 0 < c.lwm → (c.credit :: c.acks).getLast? = some (told c.lwm c.readCount)
  bounded : 0 < c.hwm → c.writtenCount ≤ c.credit + c.hwm
  blocked : c.closed = false → c.writerUp = false → c.full = true

theorem Accounted.put {c : CreditChannel Item} (accounted : Accounted counted c) {items : List Item}
    (up : c.writerUp = true) (room : c.full = false) (one : items.countP counted ≤ 1) :
    Accounted counted
      { c with
        written := c.written ++ items
        complete := c.complete ++ items
        writtenCount := c.writtenCount + items.countP counted } :=
  { accounted with
    writtenCount := by simp [accounted.writtenCount]
    bounded := by
      intro positive
      have bounded := accounted.bounded positive
      have below : c.writtenCount ≠ c.credit + c.hwm := by simpa [full, positive] using room
      dsimp only at positive ⊢
      omega
    blocked := fun _ down => by cases up.symm.trans down }

theorem Accounted.take {c : CreditChannel Item} (accounted : Accounted counted c) (item : Item)
    (rest : List Item) :
    Accounted counted
      ({ c with flushed := rest, read := c.read ++ [item] }.count
        (if counted item then c.readCount + 1 else c.readCount)) := by
  generalize counts : (if counted item then c.readCount + 1 else c.readCount) = readCount
  have more : c.readCount ≤ readCount := by
    rw [← counts]
    split <;> omega
  have acked : ∀ count ∈ c.credit :: c.acks, count ≤ readCount :=
    fun count member => Nat.le_trans (accounted.acked count member) more
  have all_counted : readCount = (c.read ++ [item]).countP counted := by
    rw [← counts, accounted.readCount, List.countP_append, List.countP_singleton]
    split <;> rfl
  unfold count
  dsimp only
  split
  next now =>
    exact
      { accounted with
        readCount := all_counted
        ascending := by
          rw [← List.cons_append, List.pairwise_append]
          refine ⟨accounted.ascending, List.pairwise_singleton _ _, fun first member last new => ?_⟩
          rw [List.mem_singleton.mp new]
          exact acked first member
        acked := by
          intro count member
          rw [← List.cons_append, List.mem_append, List.mem_singleton] at member
          rcases member with former | rfl
          · exact acked count former
          · exact Nat.le_refl _
        latest := by
          intro _
          rw [← List.cons_append, List.getLast?_concat, told_due now] }
  next later =>
    have same : 0 < c.lwm → told c.lwm readCount = told c.lwm c.readCount := by
      intro positive
      rw [← counts] at later ⊢
      split
      next counted_ =>
        rw [if_pos counted_] at later
        exact told_succ positive (by simpa using later)
      next => rfl
    exact
      { accounted with
        readCount := all_counted
        acked := acked
        latest := by
          intro positive
          rw [same positive]
          exact accounted.latest positive }

-- The count that comes is the oldest of those told, which the writer has not heard of yet.
theorem Accounted.hear {c : CreditChannel Item} (accounted : Accounted counted c) {count : Nat}
    {rest : List Nat} (acks : c.acks = count :: rest) :
    Accounted counted { c with credit := count, acks := rest, writerUp := !c.closed } := by
  have ascending := accounted.ascending
  have acked := accounted.acked
  have latest := accounted.latest
  rw [acks] at ascending acked latest
  exact
    { accounted with
      ascending := (List.pairwise_cons.mp ascending).2
      acked := fun other member => acked other (List.mem_cons_of_mem _ member)
      latest := fun positive => by simpa using latest positive
      bounded := by
        intro positive
        have bounded := accounted.bounded positive
        have more := (List.pairwise_cons.mp ascending).1 count (by simp)
        dsimp only at positive ⊢
        omega
      blocked := fun here down => by
        dsimp only at here down
        rw [here] at down
        cases down }

theorem Accounted.step {c next : CreditChannel Item} {action : Action Item}
    (plain : ∀ item, final item = true → counted item = false)
    (accounted : Accounted counted c) (taken : c.step counted final action = some next) :
    Accounted counted next := by
  cases action with
  | put items =>
      obtain ⟨guard, same⟩ := Option.ite_none_left_eq_some.mp taken
      cases same
      simp only [Bool.or_eq_true, not_or, Bool.not_eq_true, Bool.not_eq_false',
        decide_eq_true_eq] at guard
      exact accounted.put guard.1.1.1.2 guard.1.1.2 (Nat.le_of_not_lt guard.2)
  | block =>
      obtain ⟨guard, same⟩ := Option.ite_none_left_eq_some.mp taken
      cases same
      simp only [Bool.or_eq_true, not_or, Bool.not_eq_true, Bool.not_eq_false'] at guard
      exact { accounted with blocked := fun _ _ => guard.2 }
  | flush =>
      cases taken
      unfold CreditChannel.flush
      split
      next => exact accounted
      next => exact { accounted with }
  | wake =>
      obtain ⟨-, same⟩ := Option.ite_none_right_eq_some.mp taken
      cases same
      exact { accounted with }
  | close =>
      cases taken
      exact { accounted with blocked := fun here => by cases here }
  | mark item =>
      obtain ⟨guard, same⟩ := Option.ite_none_left_eq_some.mp taken
      cases same
      simp only [Bool.or_eq_true, Bool.not_eq_true', not_or, Bool.not_eq_false] at guard
      exact
        { accounted with
          writtenCount := by simp [accounted.writtenCount, plain item guard.2] }
  | take =>
      obtain ⟨guard, same⟩ := Option.ite_none_left_eq_some.mp taken
      simp only [Bool.or_eq_true, not_or, Bool.not_eq_true] at guard
      split at same
      next => cases same
      next item rest front =>
        dsimp only at same
        split at same
        next ends =>
          cases same
          exact
            { accounted with
              readCount := by simp [accounted.readCount, plain item ends] }
        next =>
          cases same
          exact accounted.take item rest
  | sleep =>
      obtain ⟨-, same⟩ := Option.ite_none_left_eq_some.mp taken
      cases same
      exact { accounted with }
  | woken =>
      simp only [CreditChannel.step] at taken
      split at taken
      next => cases taken
      next =>
        cases taken
        exact { accounted with }
  | credited =>
      simp only [CreditChannel.step] at taken
      split at taken
      next => cases taken
      next count rest acks =>
        cases taken
        exact accounted.hear acks
  | stop =>
      cases taken
      exact { accounted with }
  | drop =>
      obtain ⟨-, same⟩ := Option.ite_none_right_eq_some.mp taken
      cases same
      exact { accounted with }

theorem Accounted.credit_le {c : CreditChannel Item} (accounted : Accounted counted c) :
    c.credit ≤ c.read.countP counted := by
  rw [← accounted.readCount]
  exact accounted.acked c.credit (by simp)

theorem Accounted.unread_le {c : CreditChannel Item} (accounted : Accounted counted c)
    (limited : 0 < c.hwm) : c.written.countP counted ≤ c.read.countP counted + c.hwm := by
  have bounded := accounted.bounded limited
  have credit := accounted.credit_le
  rw [accounted.writtenCount] at bounded
  omega

/-- A writer that is stopped, and has been told what there is to tell, has left nearly as much as
the mark allows unread. -/
theorem Accounted.blocked_unread {c : CreditChannel Item} (accounted : Accounted counted c)
    (lots : 0 < c.lwm) (here : c.closed = false) (down : c.writerUp = false) (told : c.acks = []) :
    c.read.countP counted + c.hwm < c.written.countP counted + c.lwm := by
  have full := accounted.blocked here down
  simp only [CreditChannel.full, Bool.and_eq_true, decide_eq_true_eq] at full
  have latest := accounted.latest lots
  rw [told] at latest
  have credit : c.credit = CreditChannel.told c.lwm c.readCount := by simpa using latest
  have recent := lt_told_add lots c.readCount
  have written := accounted.writtenCount
  rw [← accounted.readCount]
  omega

end Credit

section Waking

structure Wakeful (c : CreditChannel Item) : Prop where
  rests : c.asleep = true → c.flushed = []
  woken : c.readerUp = false → c.done = false → c.asleep = true ∨ c.waking = true ∨ 0 < c.wakes

-- To flush what there is wakes the reader that has found nothing.
theorem Wakeful.flush {c : CreditChannel Item} (wakeful : Wakeful c) (written flushed complete : List Item) :
    Wakeful
      { c with
        written := written
        flushed := flushed
        complete := complete
        asleep := false
        waking := c.waking || c.asleep } where
  rests := fun asleep => by cases asleep
  woken := by
    intro down reads
    rcases wakeful.woken down reads with asleep | waking | coming
    · exact .inr (.inl (by simp [asleep]))
    · exact .inr (.inl (by simp [waking]))
    · exact .inr (.inr coming)

theorem Wakeful.step {c next : CreditChannel Item} {action : Action Item} (wakeful : Wakeful c)
    (taken : c.step counted final action = some next) : Wakeful next := by
  cases action with
  | put items =>
      obtain ⟨-, same⟩ := Option.ite_none_left_eq_some.mp taken
      cases same
      exact { wakeful with }
  | block =>
      obtain ⟨-, same⟩ := Option.ite_none_left_eq_some.mp taken
      cases same
      exact { wakeful with }
  | flush =>
      cases taken
      unfold CreditChannel.flush
      split
      next => exact wakeful
      next => exact wakeful.flush _ _ _
  | wake =>
      obtain ⟨-, same⟩ := Option.ite_none_right_eq_some.mp taken
      cases same
      exact { wakeful with woken := fun _ _ => .inr (.inr (Nat.succ_pos _)) }
  | close =>
      cases taken
      exact { wakeful with }
  | mark item =>
      obtain ⟨-, same⟩ := Option.ite_none_left_eq_some.mp taken
      cases same
      exact wakeful.flush _ _ _
  | take =>
      obtain ⟨guard, same⟩ := Option.ite_none_left_eq_some.mp taken
      simp only [Bool.or_eq_true, not_or, Bool.not_eq_true, Bool.not_eq_false'] at guard
      split at same
      next => cases same
      next item rest front =>
        have rests (asleep : c.asleep = true) : rest = [] := by
          have none_left := wakeful.rests asleep
          rw [front] at none_left
          cases none_left
        dsimp only at same
        split at same
        next =>
          cases same
          exact ⟨rests, fun _ reads => by cases reads⟩
        next =>
          cases same
          exact ⟨rests, wakeful.woken⟩
  | sleep =>
      obtain ⟨guard, same⟩ := Option.ite_none_left_eq_some.mp taken
      cases same
      simp only [Bool.or_eq_true, decide_eq_true_eq, not_or, not_not] at guard
      exact ⟨fun _ => guard.2, fun _ _ => .inl rfl⟩
  | woken =>
      simp only [CreditChannel.step] at taken
      split at taken
      next => cases taken
      next =>
        cases taken
        refine { wakeful with woken := fun down reads => ?_ }
        dsimp only at down reads
        simp [reads] at down
  | credited =>
      simp only [CreditChannel.step] at taken
      split at taken
      next => cases taken
      next =>
        cases taken
        exact { wakeful with }
  | stop =>
      cases taken
      exact { wakeful with woken := fun _ reads => by cases reads }
  | drop =>
      obtain ⟨done, same⟩ := Option.ite_none_right_eq_some.mp taken
      cases same
      refine ⟨fun asleep => (by cases asleep), fun _ reads => ?_⟩
      cases reads.symm.trans done

end Waking

structure Sound (counted final : Item → Bool) (c : CreditChannel Item) : Prop where
  delivered : Delivered final c
  accounted : Accounted counted c
  wakeful : Wakeful c

theorem Sound.step (plain : ∀ item, final item = true → counted item = false)
    {c next : CreditChannel Item} {action : Action Item} (sound : Sound counted final c)
    (taken : c.step counted final action = some next) : Sound counted final next :=
  ⟨sound.delivered.step taken, sound.accounted.step plain taken, sound.wakeful.step taken⟩

theorem sound_initial (hwm lwm : Nat) : Sound counted final ({ hwm, lwm } : CreditChannel Item) where
  delivered := by constructor <;> simp
  accounted := by constructor <;> simp [told]
  wakeful := by constructor <;> simp

/-- When nothing is on its way, a writer that is stopped and has flushed has left its reader awake
and with something to read. -/
theorem Sound.not_both_asleep {c : CreditChannel Item} (sound : Sound counted final c)
    (lots : 0 < c.lwm) (within : c.lwm ≤ c.hwm) (here : c.closed = false) (reads : c.done = false)
    (down : c.writerUp = false) (flushed : c.complete = []) (told : c.acks = [])
    (quiet : c.waking = false) (wakes : c.wakes = 0) : c.readerUp = true ∧ c.flushed ≠ [] := by
  have unread := sound.accounted.blocked_unread lots here down told
  have there : c.gone = false := by
    cases gone : c.gone with
    | false => rfl
    | true => cases reads.symm.trans (sound.delivered.dropped gone)
  have left : c.flushed ≠ [] := by
    intro empty
    have held := sound.delivered.held there
    rw [empty, flushed, List.append_nil, List.append_nil] at held
    rw [held] at unread
    omega
  refine ⟨?_, left⟩
  cases up : c.readerUp with
  | true => rfl
  | false =>
      rcases sound.wakeful.woken up reads with asleep | waking | coming
      · exact absurd (sound.wakeful.rests asleep) left
      · cases quiet.symm.trans waking
      · omega

end CreditChannel
