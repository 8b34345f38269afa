import Mathlib.Data.List.Basic

/-! Retry loops over a script.  One turn takes a state and what the environment answers
during that turn; it asks for another turn, returns, or is still waiting when its answers
run out.  The rules relate a property of what the whole loop returned to a condition on the
turns that were taken. -/

namespace Retry

inductive Turned (σ β : Type) where
  | again (state : σ)
  | waiting
  | returned (value : β)

section Loop

variable {σ τ β : Type} (turn : σ → τ → Turned σ β)

def run : σ → List τ → Option β
  | _, [] => none
  | state, first :: rest =>
    match turn state first with
    | .again next => run next rest
    | .waiting => none
    | .returned value => some value

def taken : σ → List τ → List (σ × τ)
  | _, [] => []
  | state, first :: rest =>
    match turn state first with
    | .again next => (state, first) :: taken next rest
    | .waiting => [(state, first)]
    | .returned _ => [(state, first)]

/-- `Condition` holds at every turn of `steps`, taken after `past`. -/
def Throughout (Condition : List (σ × τ) → σ → τ → Prop) (past steps : List (σ × τ)) : Prop :=
  ∀ before state first after, steps = before ++ (state, first) :: after →
    Condition (past ++ before) state first

variable {turn}

theorem Throughout.cons {Condition : List (σ × τ) → σ → τ → Prop} {past rest : List (σ × τ)}
    {state : σ} {first : τ} :
    Throughout Condition past ((state, first) :: rest) ↔
      Condition past state first ∧ Throughout Condition (past ++ [(state, first)]) rest := by
  constructor
  · intro all
    refine ⟨by simpa using all [] state first rest rfl, ?_⟩
    intro before later next after split
    have whole := all ((state, first) :: before) later next after (by simp [split])
    simpa using whole
  · rintro ⟨here, all⟩ before later next after split
    cases before with
    | nil =>
      simp only [List.nil_append, List.cons.injEq, Prod.mk.injEq] at split
      obtain ⟨⟨rfl, rfl⟩, _⟩ := split
      simpa using here
    | cons head before =>
      simp only [List.cons_append, List.cons.injEq] at split
      obtain ⟨rfl, split⟩ := split
      simpa using all before later next after split

theorem Throughout.nil {Condition : List (σ × τ) → σ → τ → Prop} (past : List (σ × τ)) :
    Throughout Condition past [] := by
  intro before state first after split
  simp at split

/-- What a run returns one of its turns returns. -/
theorem run_returned {script : List τ} {state : σ} {value : β}
    (ended : run turn state script = some value) :
    ∃ state, ∃ first ∈ script, turn state first = .returned value := by
  induction script generalizing state with
  | nil => simp [run] at ended
  | cons first rest ih =>
      simp only [run] at ended
      split at ended
      · obtain ⟨later, turned, member, left⟩ := ih ended
        exact ⟨later, turned, List.mem_cons_of_mem _ member, left⟩
      · cases ended
      · rename_i left
        cases ended
        exact ⟨state, first, List.mem_cons_self .., left⟩

end Loop

end Retry
