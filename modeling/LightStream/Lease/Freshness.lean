import Mathlib.Data.List.Basic
import Mathlib.Order.Basic

/-! Leases on a history.  A history records values with the time of each; a lease holds a
view that was current when it was last confirmed, and serves it for a fixed interval after.
Its view is then never behind what was recorded an interval ago. -/

namespace Lease

section Freshness

variable {α ν : Type} [Preorder ν] {rank : α → ν} {history : List (Nat × α)} {view : ν}
  {confirmed now interval : Nat}

def Covers (rank : α → ν) (history : List (Nat × α)) (time : Nat) (view : ν) : Prop :=
  ∀ entry ∈ history, entry.1 < time → rank entry.2 ≤ view

theorem Covers.record (covers : Covers rank history confirmed view) {value : α}
    (later : confirmed ≤ now) : Covers rank (history ++ [(now, value)]) confirmed view := by
  intro entry member earlier
  rcases List.mem_append.mp member with old | new
  · exact covers entry old earlier
  · obtain rfl := List.mem_singleton.mp new
    dsimp only at earlier
    omega

/-- While the lease is live, the view is at least everything recorded an interval ago. -/
theorem Covers.bounded (covers : Covers rank history confirmed view)
    (live : now < confirmed + interval) :
    ∀ entry ∈ history, entry.1 + interval ≤ now → rank entry.2 ≤ view := by
  intro entry member old
  exact covers entry member (by omega)

/-- A lease whose view missed something serves it behind the bound before it runs out. -/
theorem Covers.exposed (positive : 0 < interval) (live : now < confirmed + interval)
    (missed : ¬Covers rank history confirmed view) :
    ∃ later, now ≤ later ∧ later < confirmed + interval ∧
      ∃ entry ∈ history, entry.1 + interval ≤ later ∧ ¬rank entry.2 ≤ view := by
  unfold Covers at missed
  push Not at missed
  obtain ⟨entry, member, earlier, behind⟩ := missed
  exact ⟨confirmed + interval - 1, by omega, by omega, entry, member, by omega, behind⟩

end Freshness

end Lease
