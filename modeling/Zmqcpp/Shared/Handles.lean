import Mathlib.Data.List.Count
import Mathlib.Data.List.Induction
import Zmqcpp.Shared.Transition

set_option autoImplicit false

/-!
# One handle at a time

An owner is issued handles, passes them to calls and closes them. The account of the events so far
accepts the next one only if the owner may make it.
-/

namespace Handles

inductive Event (Handle : Type)
  | issued (handle : Handle)
  | used (handle : Option Handle)
  | closed (handle : Option Handle)
  deriving DecidableEq

variable {Handle : Type}

def Event.argument : Event Handle → Option (Option Handle)
  | .issued _ => none
  | .used handle | .closed handle => some handle

def Open (events : List (Event Handle)) (handle : Handle) : Prop :=
  .issued handle ∈ events ∧ .closed (some handle) ∉ events

structure Balanced (events : List (Event Handle)) : Prop where
  given : ∀ before event after, events = before ++ event :: after →
    ∀ argument, event.argument = some argument →
      ∃ handle, argument = some handle ∧ Open before handle
  single : ∀ before after, events = before ++ after →
    ∀ first second, Open before first → Open before second → first = second

structure Account (Handle : Type) where
  current : Option Handle := none
  issued : List Handle := []

variable [DecidableEq Handle]

def Account.accept (account : Account Handle) : Event Handle → Option (Account Handle)
  | .issued handle =>
      if account.current = none ∧ handle ∉ account.issued then
        some ⟨some handle, handle :: account.issued⟩
      else none
  | .used handle =>
      if handle ≠ none ∧ account.current = handle then some account else none
  | .closed handle =>
      if handle ≠ none ∧ account.current = handle then some { account with current := none }
      else none

def Accepted (events : List (Event Handle)) (account : Account Handle) : Prop :=
  Transition.run Account.accept {} events = some account

structure Tally (events : List (Event Handle)) (account : Account Handle) : Prop where
  issued : ∀ handle, handle ∈ account.issued ↔ .issued handle ∈ events
  current : ∀ handle, account.current = some handle → .issued handle ∈ events
  closes : ∀ handle, events.count (.closed (some handle)) =
    if handle ∈ account.issued ∧ account.current ≠ some handle then 1 else 0

variable {events before after : List (Event Handle)} {event : Event Handle}
  {account next : Account Handle}

theorem Tally.open_iff (tally : Tally events account) (handle : Handle) :
    Open events handle ↔ account.current = some handle := by
  have closes := tally.closes handle
  constructor
  · rintro ⟨issued, unclosed⟩
    by_contra other
    rw [List.count_eq_zero_of_not_mem unclosed,
      if_pos ⟨(tally.issued handle).mpr issued, other⟩] at closes
    cases closes
  · intro current
    refine ⟨tally.current handle current, ?_⟩
    rw [if_neg (by simp [current])] at closes
    exact List.count_eq_zero.mp closes

theorem Tally.issue (tally : Tally events account) {handle : Handle}
    (nothing : account.current = none) (fresh : handle ∉ account.issued) :
    Tally (events ++ [.issued handle]) ⟨some handle, handle :: account.issued⟩ where
  issued other := by simp [tally.issued, or_comm]
  current other same := by
    cases same
    simp
  closes other := by
    rw [List.count_append, tally.closes, nothing]
    by_cases same : other = handle
    · simp [same, fresh]
    · simp [same, Ne.symm same]

theorem Tally.use (tally : Tally events account) (handle : Option Handle) :
    Tally (events ++ [.used handle]) account where
  issued other := by simp [tally.issued]
  current other same := by simp [tally.current other same]
  closes other := by simp [tally.closes]

theorem Tally.close (tally : Tally events account) {handle : Handle}
    (current : account.current = some handle) :
    Tally (events ++ [.closed (some handle)]) { account with current := none } where
  issued other := by simp [tally.issued]
  current other same := by cases same
  closes other := by
    have issued := (tally.issued handle).mpr (tally.current handle current)
    rw [List.count_append, tally.closes, current]
    by_cases same : other = handle
    · simp [same, issued]
    · simp [Ne.symm same]

theorem Tally.accept (tally : Tally events account) (accepted : account.accept event = some next) :
    Tally (events ++ [event]) next := by
  cases event with
  | issued handle =>
      simp only [Account.accept, Option.ite_none_right_eq_some, Option.some.injEq] at accepted
      obtain ⟨⟨nothing, fresh⟩, rfl⟩ := accepted
      exact tally.issue nothing fresh
  | used handle =>
      simp only [Account.accept, Option.ite_none_right_eq_some, Option.some.injEq] at accepted
      obtain ⟨-, rfl⟩ := accepted
      exact tally.use handle
  | closed handle =>
      simp only [Account.accept, Option.ite_none_right_eq_some, Option.some.injEq] at accepted
      obtain ⟨⟨given, current⟩, rfl⟩ := accepted
      obtain ⟨handle, rfl⟩ := Option.ne_none_iff_exists'.mp given
      exact tally.close current

theorem Accepted.snoc (accepted : Accepted events account)
    (accepts : account.accept event = some next) : Accepted (events ++ [event]) next := by
  refine Transition.run_append_some.mpr ⟨account, accepted, ?_⟩
  exact Transition.run_cons_some.mpr ⟨next, accepts, rfl⟩

theorem Accepted.tally (accepted : Accepted events account) : Tally events account := by
  induction events using List.reverseRecOn generalizing account with
  | nil =>
      cases accepted
      exact ⟨by simp, by simp, by simp⟩
  | append_singleton before event ih =>
      obtain ⟨middle, reached, last⟩ := Transition.run_append_some.mp accepted
      obtain ⟨next, accepts, rest⟩ := Transition.run_cons_some.mp last
      cases rest
      exact (ih reached).accept accepts

theorem Accepted.split (accepted : Accepted (before ++ after) account) :
    ∃ middle, Accepted before middle ∧ Transition.run Account.accept middle after = some account :=
  Transition.run_append_some.mp accepted

theorem Accepted.balanced (accepted : Accepted events account) : Balanced events where
  given := by
    rintro before event after rfl argument own
    obtain ⟨middle, reached, last⟩ := accepted.split
    obtain ⟨next, accepts, -⟩ := Transition.run_cons_some.mp last
    have known : argument ≠ none ∧ middle.current = argument := by
      cases event with
      | issued handle => cases own
      | used handle | closed handle =>
          cases own
          simp only [Account.accept, Option.ite_none_right_eq_some] at accepts
          exact accepts.1
    obtain ⟨handle, rfl⟩ := Option.ne_none_iff_exists'.mp known.1
    exact ⟨handle, rfl, (reached.tally.open_iff handle).mpr known.2⟩
  single := by
    rintro before after rfl first second one other
    obtain ⟨middle, reached, -⟩ := accepted.split
    have current := (reached.tally.open_iff first).mp one
    rw [(reached.tally.open_iff second).mp other] at current
    exact (Option.some.inj current).symm

theorem Accepted.closed_once (accepted : Accepted events account) (nothing : account.current = none)
    {handle : Handle} (issued : .issued handle ∈ events) :
    events.count (.closed (some handle)) = 1 := by
  have tally := accepted.tally
  rw [tally.closes, if_pos ⟨(tally.issued handle).mpr issued, by simp [nothing]⟩]

end Handles
