import Mathlib.Data.List.Perm.Basic

/-!
Steps that can be repeated and taken in any order.  A step that was taken once changes nothing
when it is taken again, and two steps that follow one another may change places; then the end of
a run depends only on which steps it took.
-/

namespace Retry

section Absorb

variable {σ α ε : Type} {step : σ → α → Except ε σ}

theorem foldlM_cons_ok {state last : σ} {first : α} {rest : List α} :
    (first :: rest).foldlM step state = .ok last ↔
      ∃ next, step state first = .ok next ∧ rest.foldlM step next = .ok last := by
  rw [List.foldlM_cons]
  cases taken : step state first with
  | ok next =>
      constructor
      · intro went
        exact ⟨next, rfl, went⟩
      · rintro ⟨other, same, went⟩
        cases same
        exact went
  | error reason => exact ⟨nofun, fun ⟨_, impossible, _⟩ => nomatch impossible⟩

theorem foldlM_append_ok {state last : σ} {first second : List α} :
    (first ++ second).foldlM step state = .ok last ↔
      ∃ next, first.foldlM step state = .ok next ∧ second.foldlM step next = .ok last := by
  induction first generalizing state with
  | nil =>
      constructor
      · intro went
        exact ⟨state, rfl, went⟩
      · rintro ⟨next, same, went⟩
        cases same
        exact went
  | cons head rest ih =>
      simp only [List.cons_append, foldlM_cons_ok, ih]
      constructor
      · rintro ⟨next, taken, middle, went, later⟩
        exact ⟨middle, ⟨next, taken, went⟩, later⟩
      · rintro ⟨middle, ⟨next, taken, went⟩, later⟩
        exact ⟨next, taken, middle, went, later⟩

structure Absorbs (step : σ → α → Except ε σ) : Prop where
  again : ∀ {state next first}, step state first = .ok next → step next first = .ok next
  swap : ∀ {state next last first second}, step state first = .ok next →
    step next second = .ok last → ∃ other, step state second = .ok other ∧
      step other first = .ok last

namespace Absorbs

variable {state last : σ} {first second : List α}

theorem perm (absorbs : Absorbs step) (same : first.Perm second)
    (went : first.foldlM step state = .ok last) : second.foldlM step state = .ok last := by
  induction same generalizing state with
  | nil => exact went
  | cons head _ ih =>
      obtain ⟨next, taken, later⟩ := foldlM_cons_ok.mp went
      exact foldlM_cons_ok.mpr ⟨next, taken, ih later⟩
  | swap one other rest =>
      obtain ⟨next, taken, went⟩ := foldlM_cons_ok.mp went
      obtain ⟨after, follows, later⟩ := foldlM_cons_ok.mp went
      obtain ⟨middle, earlier, joined⟩ := absorbs.swap taken follows
      exact foldlM_cons_ok.mpr ⟨middle, earlier, foldlM_cons_ok.mpr ⟨after, joined, later⟩⟩
  | trans _ _ ih later => exact later (ih went)

theorem settled (absorbs : Absorbs step) (went : first.foldlM step state = .ok last) {taken : α}
    (member : taken ∈ first) : step last taken = .ok last := by
  classical
  have moved : first.Perm (first.erase taken ++ [taken]) :=
    (List.perm_cons_erase member).trans (List.perm_append_singleton taken _).symm
  obtain ⟨before, _, latest⟩ := foldlM_append_ok.mp (absorbs.perm moved went)
  obtain ⟨next, done, ended⟩ := foldlM_cons_ok.mp latest
  cases ended
  exact absorbs.again done

theorem stays (still : ∀ taken ∈ first, step last taken = .ok last) :
    first.foldlM step last = .ok last := by
  induction first with
  | nil => rfl
  | cons head rest ih =>
      refine foldlM_cons_ok.mpr ⟨last, still head List.mem_cons_self, ?_⟩
      exact ih fun taken member => still taken (List.mem_cons_of_mem _ member)

/-- Two runs that take the same steps, however often and in whatever order, end alike. -/
theorem same_steps (absorbs : Absorbs step) (same : ∀ taken, taken ∈ first ↔ taken ∈ second)
    (went : first.foldlM step state = .ok last) : second.foldlM step state = .ok last := by
  have repeated : second.foldlM step last = .ok last :=
    stays fun taken member => absorbs.settled went ((same taken).mpr member)
  have both : (first ++ second).foldlM step state = .ok last :=
    foldlM_append_ok.mpr ⟨last, went, repeated⟩
  obtain ⟨middle, alone, joined⟩ :=
    foldlM_append_ok.mp (absorbs.perm List.perm_append_comm both)
  have unchanged : first.foldlM step middle = .ok middle :=
    stays fun taken member => absorbs.settled alone ((same taken).mp member)
  rw [unchanged] at joined
  cases joined
  exact alone

end Absorbs

end Absorb

end Retry
