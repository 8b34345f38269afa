import Mathlib.Data.Option.Basic

/-!
Runs of a system given by a partial step function: `step state action` is `none` where the action
cannot happen.  `Reached` holds of the states of runs whose steps are all allowed; the rules here
turn what one step keeps into what every run keeps.
-/

namespace Run

variable {State Action : Type}

inductive Reached (step : State → Action → Option State) (start : State)
    (Allowed : State → Action → Prop) : State → Prop
  | start : Reached step start Allowed start
  | step {before after : State} {action : Action} : Reached step start Allowed before →
      Allowed before action → step before action = some after → Reached step start Allowed after

variable {step : State → Action → Option State} {start : State}
variable {Allowed Weaker : State → Action → Prop} {Invariant : State → Prop}

theorem Reached.invariant {state : State} (reached : Reached step start Allowed state)
    (initially : Invariant start)
    (kept : ∀ before action after, Invariant before → Allowed before action →
      step before action = some after → Invariant after) : Invariant state := by
  induction reached with
  | start => exact initially
  | step _ allowed stepped ih => exact kept _ _ _ ih allowed stepped

theorem Reached.trans {middle state : State} (first : Reached step start Allowed middle)
    (second : Reached step middle Allowed state) : Reached step start Allowed state := by
  induction second with
  | start => exact first
  | step _ allowed stepped ih => exact ih.step allowed stepped

def execute (step : State → Action → Option State) : State → List Action → Option State
  | state, [] => some state
  | state, action :: rest => (step state action).bind fun next => execute step next rest

def Admissible (step : State → Action → Option State) (Allowed : State → Action → Prop) :
    State → List Action → Prop
  | _, [] => True
  | state, action :: rest =>
      Allowed state action ∧ ∀ next ∈ step state action, Admissible step Allowed next rest

instance decidableAdmissible [decided : ∀ state action, Decidable (Allowed state action)] :
    ∀ (state : State) (actions : List Action), Decidable (Admissible step Allowed state actions)
  | _, [] => isTrue trivial
  | state, action :: rest =>
      have : Decidable (∀ next ∈ step state action, Admissible step Allowed next rest) :=
        match stepped : step state action with
        | none => isTrue fun next member => by simp at member
        | some next =>
            have := decidableAdmissible next rest
            decidable_of_iff (Admissible step Allowed next rest) (by simp)
      inferInstanceAs (Decidable (_ ∧ _))

theorem Reached.of_execute {actions : List Action} {state final : State}
    (reached : Reached step start Allowed state)
    (admissible : Admissible step Allowed state actions)
    (done : execute step state actions = some final) : Reached step start Allowed final := by
  induction actions generalizing state with
  | nil =>
      cases done
      exact reached
  | cons action rest ih =>
      obtain ⟨next, stepped, continued⟩ := Option.bind_eq_some_iff.mp done
      exact ih (reached.step admissible.1 stepped) (admissible.2 next stepped) continued

theorem admissible_of_forall {actions : List Action} {state : State}
    (always : ∀ action ∈ actions, ∀ before, Allowed before action) :
    Admissible step Allowed state actions := by
  induction actions generalizing state with
  | nil => trivial
  | cons action rest ih =>
      exact ⟨always action List.mem_cons_self state,
        fun _ _ => ih fun later member => always later (List.mem_cons_of_mem action member)⟩

end Run
