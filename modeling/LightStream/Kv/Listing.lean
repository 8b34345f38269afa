import Mathlib.Data.List.Perm.Basic
import Mathlib.Data.List.Nodup
import Mathlib.Algebra.BigOperators.Group.List.Basic
import Mathlib.Algebra.Order.BigOperators.Group.List
import Mathlib.Algebra.Order.Ring.Nat

/-!
The kept entries of a table, listed once each.  A count or a sum over them is settled by how a
write changes the list.
-/

namespace Kv

variable {ι α : Type} {find found : ι → Option α} {key : α → ι} {kept : α → Bool}
  {members others : List α}

structure Listing (find : ι → Option α) (key : α → ι) (kept : α → Bool) (members : List α) :
    Prop where
  nodup : members.Nodup
  mem : ∀ value, value ∈ members ↔ find (key value) = some value ∧ kept value = true

namespace Listing

theorem empty (none : ∀ index, find index = none) : Listing find key kept [] where
  nodup := List.nodup_nil
  mem := by simp [none]

theorem congr (listing : Listing find key kept members)
    (same : ∀ index, found index = find index) : Listing found key kept members where
  nodup := listing.nodup
  mem := by simpa only [same] using listing.mem

theorem dropped (listing : Listing find key kept members) {gone : α → Bool} {drop : α → α}
    (ended : ∀ value, gone value = true → kept (drop value) = false)
    (reads : ∀ index, found index =
      (find index).map fun value => if gone value then drop value else value) :
    Listing found key kept (members.filter fun value => !gone value) where
  nodup := listing.nodup.filter _
  mem := by
    intro value
    rw [List.mem_filter, listing.mem, reads]
    constructor
    · rintro ⟨⟨stored, live⟩, stays⟩
      have stays : gone value = false := by simpa using stays
      exact ⟨by rw [stored, Option.map_some, stays]; rfl, live⟩
    · rintro ⟨stored, live⟩
      obtain ⟨before, present, same⟩ := Option.map_eq_some_iff.mp stored
      cases gones : gone before with
      | true =>
          rw [gones, if_pos rfl] at same
          rw [← same, ended before gones] at live
          simp at live
      | false =>
          rw [gones, if_neg (by simp)] at same
          subst same
          exact ⟨⟨present, live⟩, by simp [gones]⟩

section Stored

variable [DecidableEq ι] {value old : α}

theorem inserted (listing : Listing find key kept members) (absent : find (key value) = none)
    (live : kept value = true)
    (reads : ∀ index, found index = if index = key value then some value else find index) :
    Listing found key kept (members ++ [value]) where
  nodup := by
    refine List.nodup_append.mpr ⟨listing.nodup, List.nodup_singleton value, ?_⟩
    intro member inside other single same
    obtain rfl := List.mem_singleton.mp single
    subst same
    rw [listing.mem, absent] at inside
    simp at inside
  mem := by
    intro member
    rw [List.mem_append, List.mem_singleton, listing.mem, reads]
    constructor
    · rintro (⟨stored, kept⟩ | rfl)
      · rw [if_neg fun same => by rw [same, absent] at stored; simp at stored]
        exact ⟨stored, kept⟩
      · exact ⟨if_pos rfl, live⟩
    · rintro ⟨stored, kept⟩
      split at stored
      · cases stored
        exact .inr rfl
      · exact .inl ⟨stored, kept⟩

variable [DecidableEq α]

theorem removed (listing : Listing find key kept members) (value : α)
    (stored : find (key value) = some old) (own : key old = key value) (dead : kept value = false)
    (reads : ∀ index, found index = if index = key value then some value else find index) :
    Listing found key kept (members.erase old) where
  nodup := listing.nodup.erase old
  mem := by
    intro member
    rw [listing.nodup.mem_erase_iff, listing.mem, reads]
    constructor
    · rintro ⟨different, found, kept⟩
      rw [if_neg fun same => different (Option.some.inj (by rw [← found, same, stored]))]
      exact ⟨found, kept⟩
    · rintro ⟨found, kept⟩
      split at found
      · cases found
        rw [dead] at kept
        simp at kept
      · rename_i different
        exact ⟨fun same => different (by rw [same, own]), found, kept⟩

theorem replaced (listing : Listing find key kept members) (value : α)
    (stored : find (key value) = some old) (own : key old = key value) (live : kept value = true)
    (reads : ∀ index, found index = if index = key value then some value else find index) :
    Listing found key kept (members.erase old ++ [value]) where
  nodup := by
    refine List.nodup_append.mpr ⟨listing.nodup.erase old, List.nodup_singleton value, ?_⟩
    intro member inside other single same
    obtain rfl := List.mem_singleton.mp single
    subst same
    obtain ⟨different, found, _⟩ : member ≠ old ∧ find (key member) = some member ∧ _ := by
      rwa [listing.nodup.mem_erase_iff, listing.mem] at inside
    exact different (Option.some.inj (by rw [← found, stored]))
  mem := by
    intro member
    rw [List.mem_append, List.mem_singleton, listing.nodup.mem_erase_iff, listing.mem, reads]
    constructor
    · rintro (⟨different, found, kept⟩ | rfl)
      · rw [if_neg fun same => different (Option.some.inj (by rw [← found, same, stored]))]
        exact ⟨found, kept⟩
      · exact ⟨if_pos rfl, live⟩
    · rintro ⟨found, kept⟩
      split at found
      · cases found
        exact .inr rfl
      · rename_i different
        exact .inl ⟨fun same => different (by rw [same, own]), found, kept⟩

end Stored

end Listing

def weigh (weight : α → Nat) (members : List α) : Nat := (members.map weight).sum

section Weight

variable {weight : α → Nat}

@[simp] theorem weigh_nil : weigh weight [] = 0 := rfl

@[simp] theorem weigh_cons (value : α) :
    weigh weight (value :: members) = weight value + weigh weight members := rfl

@[simp] theorem weigh_append :
    weigh weight (members ++ others) = weigh weight members + weigh weight others := by
  simp [weigh]

theorem weigh_perm (perm : members.Perm others) : weigh weight members = weigh weight others :=
  (perm.map weight).sum_eq

theorem weigh_erase [DecidableEq α] {value : α} (member : value ∈ members) :
    weight value + weigh weight (members.erase value) = weigh weight members :=
  (weigh_perm (List.perm_cons_erase member)).symm

theorem weigh_split (chosen : α → Bool) :
    weigh weight (members.filter chosen) + weigh weight (members.filter fun value => !chosen value) =
      weigh weight members := by
  rw [← weigh_append]
  exact weigh_perm (List.filter_append_perm chosen members)

theorem weigh_congr {other : α → Nat} (same : ∀ value ∈ members, weight value = other value) :
    weigh weight members = weigh other members := by
  unfold weigh
  rw [List.map_congr_left same]

theorem weigh_mono {other : α → Nat} (below : ∀ value ∈ members, weight value ≤ other value) :
    weigh weight members ≤ weigh other members :=
  List.sum_le_sum below

theorem weigh_placed {β : Type} {items : List β} {size : β → Nat} {place : α → Nat}
    (distinct : (members.map place).Nodup)
    (placed : ∀ value ∈ members, ∃ item, items[place value]? = some item ∧
      weight value = size item) : weigh weight members ≤ weigh size items := by
  let sizeAt (index : Nat) : Nat := (items[index]?.map size).getD 0
  have inside : members.map place ⊆ List.range items.length := by
    intro index member
    obtain ⟨value, inMembers, rfl⟩ := List.mem_map.mp member
    obtain ⟨item, found, _⟩ := placed value inMembers
    rw [List.mem_range]
    exact (List.getElem?_eq_some_iff.mp found).1
  obtain ⟨chosen, permuted, chosenFrom⟩ := List.subperm_of_subset distinct inside
  have values : weigh weight members = ((members.map place).map sizeAt).sum := by
    rw [weigh, List.map_map]
    refine congrArg List.sum (List.map_congr_left fun value member => ?_)
    obtain ⟨item, found, same⟩ := placed value member
    simp [sizeAt, found, same]
  have total : ((List.range items.length).map sizeAt).sum = weigh size items := by
    refine congrArg List.sum (List.ext_getElem (by simp) fun index first second => ?_)
    simp only [List.length_map] at second
    simp [sizeAt, List.getElem?_eq_getElem second]
  rw [values, ← total, ← (permuted.map sizeAt).sum_eq]
  exact (chosenFrom.map sizeAt).sum_le_sum fun _ _ => Nat.zero_le _

end Weight

end Kv
