import Mathlib.Data.List.Basic

set_option autoImplicit false

/-!
# Runs of partial step functions

A system is a step function that refuses the actions its state does not enable.
`Along` restricts the steps of a run by what held in the state before each of them.
-/

namespace Transition

variable {State Action : Type}

def run (step : State → Action → Option State) : State → List Action → Option State
  | state, [] => some state
  | state, action :: rest => (step state action).bind fun next => run step next rest

/-- `allowed` holds of each step of the run and of the state the step is taken from. -/
def Along (step : State → Action → Option State) (allowed : State → Action → Prop) :
    State → List Action → Prop
  | _, [] => True
  | state, action :: rest =>
      allowed state action ∧ ∀ next, step state action = some next → Along step allowed next rest

variable {step : State → Action → Option State} {allowed : State → Action → Prop}

@[simp]
theorem run_nil (state : State) : run step state [] = some state := rfl

theorem run_cons_some {state final : State} {action : Action} {rest : List Action} :
    run step state (action :: rest) = some final ↔
      ∃ next, step state action = some next ∧ run step next rest = some final := by
  simp [run, Option.bind_eq_some_iff]

theorem run_append {state : State} (before after : List Action) :
    run step state (before ++ after) = (run step state before).bind fun next => run step next after := by
  induction before generalizing state with
  | nil => rfl
  | cons action rest ih =>
      simp only [List.cons_append, run]
      cases step state action with
      | none => rfl
      | some next => exact ih

theorem run_append_some {state final : State} {before after : List Action} :
    run step state (before ++ after) = some final ↔
      ∃ middle, run step state before = some middle ∧ run step middle after = some final := by
  simp [run_append, Option.bind_eq_some_iff]

theorem along_true (state : State) (actions : List Action) :
    Along step (fun _ _ => True) state actions := by
  induction actions generalizing state with
  | nil => trivial
  | cons action rest ih => exact ⟨trivial, fun next _ => ih next⟩

theorem along_mono {also : State → Action → Prop}
    (implies : ∀ state action, allowed state action → also state action) {state : State}
    {actions : List Action} (along : Along step allowed state actions) :
    Along step also state actions := by
  induction actions generalizing state with
  | nil => trivial
  | cons action rest ih =>
      exact ⟨implies state action along.1, fun next taken => ih (along.2 next taken)⟩

theorem along_of_forall {possible : Action → Prop} {actions : List Action}
    (all : ∀ action ∈ actions, possible action) (state : State) :
    Along step (fun _ action => possible action) state actions := by
  induction actions generalizing state with
  | nil => trivial
  | cons action rest ih =>
      refine ⟨all action (by simp), fun next _ => ih (fun later member => ?_) next⟩
      exact all later (by simp [member])

theorem along_append {state middle : State} {before after : List Action}
    (reached : run step state before = some middle)
    (along : Along step allowed state (before ++ after)) :
    Along step allowed state before ∧ Along step allowed middle after := by
  induction before generalizing state with
  | nil =>
      cases reached
      exact ⟨trivial, along⟩
  | cons action rest ih =>
      obtain ⟨next, taken, remaining⟩ := run_cons_some.mp reached
      obtain ⟨first, later⟩ := along
      have split := ih remaining (later next taken)
      refine ⟨⟨first, fun other same => ?_⟩, split.2⟩
      cases taken.symm.trans same
      exact split.1

theorem along_and {also : State → Action → Prop} {state : State} {actions : List Action}
    (first : Along step allowed state actions) (second : Along step also state actions) :
    Along step (fun state action => allowed state action ∧ also state action) state actions := by
  induction actions generalizing state with
  | nil => trivial
  | cons action rest ih =>
      refine ⟨⟨first.1, second.1⟩, fun next taken => ?_⟩
      exact ih (first.2 next taken) (second.2 next taken)

-- What a system allows of a run is allowed of the same run of a layer on it.
theorem along_layer {Layer : Type} {layerStep : Layer → Action → Option Layer}
    (project : Layer → State)
    (moves : ∀ layer action next, layerStep layer action = some next →
      step (project layer) action = some (project next))
    {layer : Layer} {actions : List Action} (along : Along step allowed (project layer) actions) :
    Along layerStep (fun layer action => allowed (project layer) action) layer actions := by
  induction actions generalizing layer with
  | nil => trivial
  | cons action rest ih =>
      obtain ⟨now, later⟩ := along
      exact ⟨now, fun next taken => ih (later (project next) (moves layer action next taken))⟩

/-- Along a run whose steps keep an invariant each step has what the invariant gives it. -/
theorem along_imp (invariant : State → Prop) {also : State → Action → Prop}
    (kept : ∀ state action next, invariant state → allowed state action →
      step state action = some next → invariant next)
    (gives : ∀ state action, invariant state → allowed state action → also state action)
    {state : State} {actions : List Action} (initial : invariant state)
    (along : Along step allowed state actions) : Along step also state actions := by
  induction actions generalizing state with
  | nil => trivial
  | cons action rest ih =>
      obtain ⟨now, later⟩ := along
      refine ⟨gives state action initial now, fun next taken => ?_⟩
      exact ih (kept state action next initial now taken) (later next taken)

/-- Two conditions on steps allow the same runs when they agree wherever the first has led. -/
theorem along_iff (invariant : State → Prop) {also : State → Action → Prop}
    (kept : ∀ state action next, invariant state → allowed state action →
      step state action = some next → invariant next)
    (same : ∀ state action, invariant state → (allowed state action ↔ also state action))
    {state : State} {actions : List Action} (initial : invariant state) :
    Along step allowed state actions ↔ Along step also state actions := by
  constructor
  · exact along_imp invariant kept (fun state action held => (same state action held).mp) initial
  · refine along_imp invariant ?_ (fun state action held => (same state action held).mpr) initial
    intro state action next held also taken
    exact kept state action next held ((same state action held).mpr also) taken

theorem run_invariant (invariant : State → Prop)
    (kept : ∀ state action next, invariant state → allowed state action →
      step state action = some next → invariant next)
    {state final : State} {actions : List Action} (initial : invariant state)
    (along : Along step allowed state actions) (reached : run step state actions = some final) :
    invariant final := by
  induction actions generalizing state with
  | nil =>
      cases reached
      exact initial
  | cons action rest ih =>
      obtain ⟨next, taken, remaining⟩ := run_cons_some.mp reached
      exact ih (kept state action next initial along.1 taken) (along.2 next taken) remaining

section Simulation

variable {Abstract Call : Type} {abstractStep : Abstract → Call → Option Abstract}

/-- The calls that a run makes of the system it simulates, `calls` those of one step. -/
def simulated (step : State → Action → Option State) (calls : State → Action → List Call) :
    State → List Action → List Call
  | _, [] => []
  | state, action :: rest =>
      calls state action ++ (step state action).elim [] fun next => simulated step calls next rest

/-- When each step is some calls on what the state stands for, so is each run. -/
theorem run_simulates (invariant : State → Prop) (view : State → Abstract)
    (calls : State → Action → List Call)
    (kept : ∀ state action next, invariant state → step state action = some next → invariant next)
    (matched : ∀ state action next, invariant state → step state action = some next →
      run abstractStep (view state) (calls state action) = some (view next))
    {state final : State} {actions : List Action} (initial : invariant state)
    (reached : run step state actions = some final) :
    run abstractStep (view state) (simulated step calls state actions) = some (view final) := by
  induction actions generalizing state with
  | nil =>
      cases reached
      rfl
  | cons action rest ih =>
      obtain ⟨next, taken, remaining⟩ := run_cons_some.mp reached
      have first := matched state action next initial taken
      have later := ih (kept state action next initial taken) remaining
      rw [simulated, taken]
      exact run_append_some.mpr ⟨view next, first, later⟩

end Simulation

section Reaches

def Reaches (step : State → Action → Option State) (state final : State) : Prop :=
  ∃ actions, run step state actions = some final

theorem Reaches.refl (state : State) : Reaches step state state := ⟨[], rfl⟩

theorem Reaches.single (action : Action) {state next : State}
    (taken : step state action = some next) : Reaches step state next :=
  ⟨[action], run_cons_some.mpr ⟨next, taken, rfl⟩⟩

theorem Reaches.trans {state middle final : State} (first : Reaches step state middle)
    (second : Reaches step middle final) : Reaches step state final := by
  obtain ⟨before, reached⟩ := first
  obtain ⟨after, remaining⟩ := second
  exact ⟨before ++ after, run_append_some.mpr ⟨middle, reached, remaining⟩⟩

theorem Reaches.invariant (invariant : State → Prop)
    (kept : ∀ state action next, invariant state → step state action = some next → invariant next)
    {state final : State} (initial : invariant state) (reaches : Reaches step state final) :
    invariant final := by
  obtain ⟨actions, reached⟩ := reaches
  exact run_invariant invariant (fun state action next held _ => kept state action next held) initial
    (along_true state actions) reached

end Reaches

def accepts (step : State → Action → Option State) (check : State → Action → Bool) :
    State → List Action → Bool
  | _, [] => true
  | state, action :: rest =>
      check state action && (step state action).all fun next => accepts step check next rest

-- A concrete run is shown to be allowed by a check of its steps and what they all keep.
theorem along_of_accepts (invariant : State → Prop) (check : State → Action → Bool)
    (kept : ∀ state action next, invariant state → check state action = true →
      step state action = some next → invariant next)
    (permits : ∀ state action, invariant state → check state action = true → allowed state action)
    {state : State} {actions : List Action} (initial : invariant state)
    (accepted : accepts step check state actions = true) : Along step allowed state actions := by
  induction actions generalizing state with
  | nil => trivial
  | cons action rest ih =>
      simp only [accepts, Bool.and_eq_true] at accepted
      obtain ⟨first, remaining⟩ := accepted
      refine ⟨permits state action initial first, fun next taken => ?_⟩
      rw [taken] at remaining
      exact ih (kept state action next initial first taken) remaining

theorem reached_of_check {state : State} {actions : List Action} {check : State → Bool}
    (accepted : (run step state actions).any check = true) :
    ∃ final, run step state actions = some final ∧ check final = true := by
  simpa [Option.any_eq_true] using accepted

end Transition
