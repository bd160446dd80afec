import Mathlib.Tactic

set_option autoImplicit false

/-!
# A slot for one worker thread

A thread that finds the slot's worker joined may start a new worker and put it in the slot.
The test, the start and the store are separate steps.
-/

namespace WorkerSlot

/-- Where a thread is between its test of the slot and its store into it. -/
inductive Hold
  | outside
  | entered
  | storing (worker : Nat)
  deriving DecidableEq

structure Slot (Thread : Type) where
  worker : Option Nat
  joined : Nat → Bool
  count : Nat
  ended : Nat → Bool
  hold : Thread → Hold

variable {Thread : Type}

def Slot.Running (slot : Slot Thread) (worker : Nat) : Prop :=
  worker < slot.count ∧ slot.ended worker = false

def Slot.Free (slot : Slot Thread) : Prop :=
  ∀ worker, slot.worker = some worker → slot.joined worker = true

section Steps

variable [DecidableEq Thread]

inductive Step (slot : Slot Thread) : Slot Thread → Prop
  | enter (thread : Thread) (outside : slot.hold thread = .outside) (free : slot.Free) :
      Step slot { slot with hold := Function.update slot.hold thread .entered }
  | start (thread : Thread) (entered : slot.hold thread = .entered) :
      Step slot { slot with
        count := slot.count + 1
        hold := Function.update slot.hold thread (.storing slot.count) }
  | store (thread : Thread) (worker : Nat) (storing : slot.hold thread = .storing worker) :
      Step slot { slot with
        worker := some worker
        hold := Function.update slot.hold thread .outside }
  | finish (worker : Nat) (created : worker < slot.count) :
      Step slot { slot with ended := Function.update slot.ended worker true }
  | join (worker : Nat) (ended : slot.ended worker = true) :
      Step slot { slot with joined := Function.update slot.joined worker true }

end Steps

/-- A thread passes the test only while no other thread stands between test and store. -/
def Exclusive (slot next : Slot Thread) : Prop :=
  ∀ thread, slot.hold thread = .outside → next.hold thread ≠ .outside →
    ∀ other, slot.hold other = .outside

def Guarded [DecidableEq Thread] (slot next : Slot Thread) : Prop :=
  Step slot next ∧ Exclusive slot next

theorem exclusive_of_hold {slot next : Slot Thread} (same : next.hold = slot.hold) :
    Exclusive slot next := by
  intro thread outside inside
  rw [same] at inside
  exact absurd outside inside

theorem exclusive_of_inside [DecidableEq Thread] {slot next : Slot Thread} {thread : Thread}
    {hold : Hold} (inside : slot.hold thread ≠ .outside)
    (moved : next.hold = Function.update slot.hold thread hold) : Exclusive slot next := by
  intro other outside entered
  have different : other ≠ thread := by
    rintro rfl
    exact inside outside
  rw [moved, Function.update_of_ne different] at entered
  exact absurd outside entered

structure Slot.Sound (slot : Slot Thread) : Prop where
  joined_ended : ∀ worker, slot.joined worker = true → slot.ended worker = true
  ended_created : ∀ worker, slot.ended worker = true → worker < slot.count
  alone : ∀ thread other, slot.hold thread ≠ .outside → slot.hold other ≠ .outside →
    thread = other
  entered_idle : ∀ thread, slot.hold thread = .entered → ∀ worker, ¬slot.Running worker
  storing_only : ∀ thread worker, slot.hold thread = .storing worker →
    ∀ other, slot.Running other → other = worker
  held : (∀ thread, slot.hold thread = .outside) →
    ∀ worker, slot.Running worker → slot.worker = some worker

theorem Slot.Sound.free_idle {slot : Slot Thread} (sound : slot.Sound) (free : slot.Free)
    (outside : ∀ thread, slot.hold thread = .outside) (worker : Nat) : ¬slot.Running worker := by
  intro running
  have stored := sound.held outside worker running
  have ended := sound.joined_ended worker (free worker stored)
  simp [running.2] at ended

theorem Slot.Sound.unique {slot : Slot Thread} (sound : slot.Sound) {left right : Nat}
    (leftRunning : slot.Running left) (rightRunning : slot.Running right) : left = right := by
  by_cases outside : ∀ thread, slot.hold thread = .outside
  · have first := sound.held outside left leftRunning
    have second := sound.held outside right rightRunning
    exact Option.some.inj (first.symm.trans second)
  · push Not at outside
    obtain ⟨thread, inside⟩ := outside
    cases here : slot.hold thread with
    | outside => exact absurd here inside
    | entered => exact absurd leftRunning (sound.entered_idle thread here left)
    | storing worker =>
        exact (sound.storing_only thread worker here left leftRunning).trans
          (sound.storing_only thread worker here right rightRunning).symm

section Sound

variable {slot : Slot Thread} {thread : Thread} {worker : Nat}

theorem Slot.Sound.finish (sound : slot.Sound) (created : worker < slot.count) :
    Slot.Sound { slot with ended := Function.update slot.ended worker true } := by
  have earlier (other : Nat)
      (running : Slot.Running { slot with ended := Function.update slot.ended worker true } other) :
      slot.Running other := by
    refine ⟨running.1, ?_⟩
    have alive := running.2
    by_cases same : other = worker
    · simp [same] at alive
    · simpa [same] using alive
  refine ⟨?_, ?_, sound.alone, ?_, ?_, ?_⟩
  · intro other joined
    by_cases same : other = worker
    · simp [same]
    · simpa [same] using sound.joined_ended other joined
  · intro other ended
    by_cases same : other = worker
    · simpa [same] using created
    · exact sound.ended_created other (by simpa [same] using ended)
  · intro thread entered other running
    exact sound.entered_idle thread entered other (earlier other running)
  · intro thread stored storing other running
    exact sound.storing_only thread stored storing other (earlier other running)
  · intro outside other running
    exact sound.held outside other (earlier other running)

theorem Slot.Sound.join (sound : slot.Sound) (ended : slot.ended worker = true) :
    Slot.Sound { slot with joined := Function.update slot.joined worker true } := by
  refine ⟨?_, sound.ended_created, sound.alone, sound.entered_idle, sound.storing_only,
    sound.held⟩
  intro other joined
  by_cases same : other = worker
  · rw [same]
    exact ended
  · exact sound.joined_ended other (by simpa [same] using joined)

variable [DecidableEq Thread]

-- A thread that stands alone between test and store is still alone after a move of its own.
theorem eq_of_inside {hold : Hold}
    (alone : ∀ other, slot.hold other ≠ .outside → other = thread) (other : Thread)
    (inside : Function.update slot.hold thread hold other ≠ .outside) : other = thread := by
  by_contra different
  simp only [Function.update_of_ne different] at inside
  exact different (alone other inside)

theorem Slot.Sound.enter (sound : slot.Sound) (free : slot.Free)
    (none : ∀ other, slot.hold other = .outside) :
    Slot.Sound { slot with hold := Function.update slot.hold thread .entered } := by
  have idle := sound.free_idle free none
  have holder (other : Thread)
      (inside : Function.update slot.hold thread .entered other ≠ .outside) : other = thread :=
    eq_of_inside (fun other inside => absurd (none other) inside) other inside
  refine ⟨sound.joined_ended, sound.ended_created, ?_, fun _ _ => idle, ?_, ?_⟩
  · intro left right leftInside rightInside
    exact (holder left leftInside).trans (holder right rightInside).symm
  · intro other worker storing
    dsimp only at storing
    have same := holder other (by simp [storing])
    simp [same] at storing
  · intro empty
    exact absurd (empty thread) (by simp)

theorem Slot.Sound.start (sound : slot.Sound) (entered : slot.hold thread = .entered) :
    Slot.Sound { slot with
      count := slot.count + 1
      hold := Function.update slot.hold thread (.storing slot.count) } := by
  have idle := sound.entered_idle thread entered
  have holder (other : Thread)
      (inside : Function.update slot.hold thread (.storing slot.count) other ≠ .outside) :
      other = thread :=
    eq_of_inside (fun other inside => sound.alone other thread inside (by simp [entered])) other
      inside
  refine ⟨sound.joined_ended, ?_, ?_, ?_, ?_, ?_⟩
  · intro worker ended
    exact Nat.lt_succ_of_lt (sound.ended_created worker ended)
  · intro left right leftInside rightInside
    exact (holder left leftInside).trans (holder right rightInside).symm
  · intro other here
    dsimp only at here
    have same := holder other (by simp [here])
    simp [same] at here
  · intro other worker storing running
    dsimp only at storing
    have same := holder other (by simp [storing])
    simp only [same, Function.update_self, Hold.storing.injEq] at storing
    intro started
    by_contra different
    have old : running < slot.count := by
      have bound := started.1
      simp only at bound
      omega
    exact idle running ⟨old, started.2⟩
  · intro empty
    exact absurd (empty thread) (by simp)

theorem Slot.Sound.store (sound : slot.Sound) (storing : slot.hold thread = .storing worker) :
    Slot.Sound { slot with
      worker := some worker
      hold := Function.update slot.hold thread .outside } := by
  have emptied (other : Thread) : Function.update slot.hold thread .outside other = .outside := by
    by_contra inside
    have same := eq_of_inside
      (fun other inside => sound.alone other thread inside (by simp [storing])) other inside
    simp [same] at inside
  refine ⟨sound.joined_ended, sound.ended_created, ?_, ?_, ?_, ?_⟩
  · intro left right leftInside
    exact absurd (emptied left) leftInside
  · intro other here
    simp [emptied other] at here
  · intro other stored here
    simp [emptied other] at here
  · intro _ other running
    exact congrArg some (sound.storing_only thread worker storing other running).symm

theorem Guarded.sound {next : Slot Thread} (taken : Guarded slot next) (sound : slot.Sound) :
    next.Sound := by
  obtain ⟨taken, exclusive⟩ := taken
  cases taken with
  | enter thread outside free => exact sound.enter free (exclusive thread outside (by simp))
  | start thread entered => exact sound.start entered
  | store thread worker storing => exact sound.store storing
  | finish worker created => exact sound.finish created
  | join worker ended => exact sound.join ended

end Sound

end WorkerSlot
