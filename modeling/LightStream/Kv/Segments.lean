import Mathlib.Algebra.BigOperators.Group.List.Basic
import Mathlib.Algebra.Order.Ring.Nat

/-!
Segments of natural numbers laid one after the other, and what lies under them: the blocks of a
list that grows at its end.
-/

namespace Kv

/-- Segments `(first, next)` that follow each other without a gap from `start` to `stop`. -/
def Tiles : Nat → List (Nat × Nat) → Nat → Prop
  | start, [], stop => start = stop
  | start, (first, next) :: rest, stop => first = start ∧ first < next ∧ Tiles next rest stop

namespace Tiles

variable {start stop : Nat} {segments : List (Nat × Nat)}

theorem snoc (tiles : Tiles start segments stop) {next : Nat} (forward : stop < next) :
    Tiles start (segments ++ [(stop, next)]) next := by
  induction segments generalizing start with
  | nil =>
      cases tiles
      exact ⟨rfl, forward, rfl⟩
  | cons head rest ih =>
      obtain ⟨first, behind⟩ := head
      obtain ⟨same, inside, later⟩ := tiles
      exact ⟨same, inside, ih later⟩

theorem forward (tiles : Tiles start segments stop) : start ≤ stop := by
  induction segments generalizing start with
  | nil => exact Nat.le_of_eq tiles
  | cons head rest ih =>
      obtain ⟨first, next⟩ := head
      obtain ⟨same, inside, later⟩ := tiles
      have tail := ih later
      omega

theorem inside (tiles : Tiles start segments stop) {segment : Nat × Nat}
    (member : segment ∈ segments) :
    start ≤ segment.1 ∧ segment.1 < segment.2 ∧ segment.2 ≤ stop := by
  induction segments generalizing start with
  | nil => simp at member
  | cons head rest ih =>
      obtain ⟨first, next⟩ := head
      obtain ⟨same, inside, later⟩ := tiles
      rcases List.mem_cons.mp member with rfl | inRest
      · exact ⟨by omega, inside, later.forward⟩
      · have tail := ih later inRest
        omega

theorem disjoint (tiles : Tiles start segments stop) :
    segments.Pairwise fun earlier later => earlier.2 ≤ later.1 := by
  induction segments generalizing start with
  | nil => exact .nil
  | cons head rest ih =>
      obtain ⟨first, next⟩ := head
      obtain ⟨same, inside, later⟩ := tiles
      exact List.pairwise_cons.mpr ⟨fun segment member => (later.inside member).1, ih later⟩

/-- An item of blocks laid one after the other lies in the block whose segment holds its place. -/
theorem block {α β : Type} {first : β → Nat} {items : β → List α} {blocks : List β} {start stop : Nat}
    (tiles : Tiles start (blocks.map fun block => (first block, first block + (items block).length))
      stop) {offset : Nat} (above : start ≤ offset) {item : α}
    (found : (blocks.flatMap items)[offset - start]? = some item) :
    ∃ block ∈ blocks, first block ≤ offset ∧ (items block)[offset - first block]? = some item := by
  induction blocks generalizing start with
  | nil => simp at found
  | cons head rest ih =>
      obtain ⟨same, _, later⟩ := tiles
      rw [List.flatMap_cons] at found
      by_cases inHead : offset < first head + (items head).length
      · refine ⟨head, List.mem_cons_self .., by omega, ?_⟩
        rwa [List.getElem?_append_left (by omega), ← same] at found
      · rw [List.getElem?_append_right (by omega),
          show offset - start - (items head).length =
            offset - (first head + (items head).length) by omega] at found
        obtain ⟨block, member, low, at'⟩ := ih later (by omega) found
        exact ⟨block, List.mem_cons_of_mem _ member, low, at'⟩

theorem item {α β : Type} {first : β → Nat} {items : β → List α} {blocks : List β} {start stop : Nat}
    (tiles : Tiles start (blocks.map fun block => (first block, first block + (items block).length))
      stop) {block : β} (member : block ∈ blocks) {index : Nat}
    (within : index < (items block).length) :
    (blocks.flatMap items)[first block - start + index]? = (items block)[index]? := by
  induction blocks generalizing start with
  | nil => simp at member
  | cons head rest ih =>
      obtain ⟨same, _, later⟩ := tiles
      rw [List.flatMap_cons]
      rcases List.mem_cons.mp member with rfl | inRest
      · rw [List.getElem?_append_left (by omega), same, Nat.sub_self, Nat.zero_add]
      · have above := (later.inside (List.mem_map_of_mem inRest)).1
        dsimp only at above
        rw [List.getElem?_append_right (by omega), ← ih later inRest]
        congr 1
        omega

end Tiles

section Sums

variable {α : Type} (size : α → Nat)

def sizeThrough (items : List α) (count : Nat) : Nat := ((items.take count).map size).sum

variable {size}

theorem sizeThrough_all (items : List α) :
    sizeThrough size items items.length = (items.map size).sum := by
  rw [sizeThrough, List.take_length]

theorem sizeThrough_append {items : List α} {count : Nat} (within : count ≤ items.length)
    (more : List α) : sizeThrough size (items ++ more) count = sizeThrough size items count := by
  rw [sizeThrough, List.take_append_of_le_length within, sizeThrough]

theorem sizeThrough_later (items more : List α) (count : Nat) :
    sizeThrough size (items ++ more) (items.length + count) =
      (items.map size).sum + sizeThrough size more count := by
  rw [sizeThrough, List.take_length_add_append, List.map_append, List.sum_append, sizeThrough]

theorem sizeThrough_between (items : List α) {start stop : Nat} (ordered : start ≤ stop) :
    sizeThrough size items stop =
      sizeThrough size items start + (((items.take stop).drop start).map size).sum := by
  have split := List.take_append_drop start (items.take stop)
  rw [List.take_take, Nat.min_eq_left ordered] at split
  rw [sizeThrough, sizeThrough, ← List.sum_append, ← List.map_append, split]

theorem sizeThrough_mono (items : List α) {first second : Nat} (below : first ≤ second) :
    sizeThrough size items first ≤ sizeThrough size items second := by
  obtain ⟨more, rfl⟩ := Nat.exists_eq_add_of_le below
  rw [sizeThrough, sizeThrough, List.take_add, List.map_append, List.sum_append]
  omega

end Sums

end Kv
