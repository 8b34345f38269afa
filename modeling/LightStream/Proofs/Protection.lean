import LightStream.Proofs.Placement
import LightStream.Proofs.Reclaim
import LightStream.Proofs.Replica

/-!
Protected replay.  Records from the floor to the tail and inside active leases exist, and a
record below the floor is never forgotten: the cursor, an active lease or a hint still reaches it.
-/

namespace LightStream

namespace GroupView

variable {view : GroupView}

def Leased (view : GroupView) (partition : PartitionKey) (offset : Nat) : Prop :=
  ∃ (id : ReplayLeaseId) (lease : ReplayLease), view.get (.leaseId id) = some lease ∧
    lease.lifecycle = .active ∧ lease.range.partition = partition ∧
    lease.range.contains offset = true

def Reclaimable (view : GroupView) (partition : PartitionKey) (offset : Nat) : Prop :=
  (view.retentionOf partition).reclaimCursor ≤ offset ∨ view.Leased partition offset ∨
    view.exportFenced = true ∧
      ∃ hint, view.get (.reclaimHint partition) = some hint ∧ hint ≤ offset

structure Protected (view : GroupView) : Prop where
  tail : ∀ partition offset, (view.get (.record partition offset)).isSome = true →
    offset < view.nextOffsetOf partition
  retained : ∀ partition offset, (view.retentionOf partition).logicalFloor ≤ offset →
    offset < view.nextOffsetOf partition → (view.get (.record partition offset)).isSome = true
  cursor : ∀ partition,
    (view.retentionOf partition).reclaimCursor ≤ (view.retentionOf partition).logicalFloor
  floor : ∀ partition, (view.retentionOf partition).logicalFloor ≤ view.nextOffsetOf partition
  bounded : ∀ partition, view.nextOffsetOf partition ≤ u64Max
  keyed : ∀ (id : ReplayLeaseId) (lease : ReplayLease), view.get (.leaseId id) = some lease →
    lease.id = id
  leased : ∀ partition offset, view.Leased partition offset →
    (view.get (.record partition offset)).isSome = true
  remembered : ∀ partition offset, (view.get (.record partition offset)).isSome = true →
    offset < (view.retentionOf partition).logicalFloor → view.Reclaimable partition offset

def protectedFamilies : List StateFamily :=
  [.record, .nextOffset, .retention, .reclaimHint, .lease, .fence]

theorem leased_congr {other : GroupView} {partition : PartitionKey} {offset : Nat}
    (same : ∀ id : ReplayLeaseId, other.get (.leaseId id) = view.get (.leaseId id)) :
    other.Leased partition offset ↔ view.Leased partition offset := by
  simp only [Leased, same]

theorem exportFenced_congr {other : GroupView}
    (same : other.get .mutationFence = view.get .mutationFence) :
    other.exportFenced = view.exportFenced := by
  rw [exportFenced, exportFenced, mutationFenceState, mutationFenceState, same]

theorem Protected.frame {other : GroupView} (kept : view.Protected)
    (same : ∀ key : StateKey, key.family ∈ protectedFamilies → other.get key = view.get key) :
    other.Protected := by
  have record (partition : PartitionKey) (offset : Nat) :
      other.get (.record partition offset) = view.get (.record partition offset) :=
    same _ (by simp [StateKey.family, protectedFamilies])
  have next (partition : PartitionKey) : other.nextOffsetOf partition = view.nextOffsetOf partition := by
    rw [nextOffsetOf, nextOffsetOf, same _ (by simp [StateKey.family, protectedFamilies])]
  have retention (partition : PartitionKey) : other.retentionOf partition = view.retentionOf partition := by
    rw [retentionOf, retentionOf, same _ (by simp [StateKey.family, protectedFamilies])]
  have lease (id : ReplayLeaseId) : other.get (.leaseId id) = view.get (.leaseId id) :=
    same _ (by simp [StateKey.family, protectedFamilies])
  have hint (partition : PartitionKey) :
      other.get (.reclaimHint partition) = view.get (.reclaimHint partition) :=
    same _ (by simp [StateKey.family, protectedFamilies])
  have fenced : other.exportFenced = view.exportFenced :=
    exportFenced_congr (same _ (by simp [StateKey.family, protectedFamilies]))
  have leased (partition : PartitionKey) (offset : Nat) :
      other.Leased partition offset ↔ view.Leased partition offset := leased_congr lease
  constructor
  · simpa only [record, next] using kept.tail
  · simpa only [record, next, retention] using kept.retained
  · simpa only [retention] using kept.cursor
  · simpa only [retention, next] using kept.floor
  · simpa only [next] using kept.bounded
  · simpa only [lease] using kept.keyed
  · simpa only [leased, record] using kept.leased
  · simpa only [Reclaimable, record, retention, leased, hint, fenced] using kept.remembered

theorem Protected.within {families : List StateFamily} {writes : StateBatch} (kept : view.Protected)
    (within : Within families writes) (outside : ∀ family ∈ protectedFamilies, family ∉ families) :
    (view.after writes).Protected :=
  kept.frame fun _ inside => after_get_of_within within (outside _ inside)

theorem protected_empty (empty : ∀ key, view.get key = none) : view.Protected := by
  have retention (partition : PartitionKey) :
      view.retentionOf partition = PartitionRetentionState.default := by
    rw [retentionOf, empty]
    rfl
  have next (partition : PartitionKey) : view.nextOffsetOf partition = 0 := by
    rw [nextOffsetOf, empty]
    rfl
  constructor
  · simp [empty]
  · simp [next]
  · simp [retention, PartitionRetentionState.default]
  · simp [retention, PartitionRetentionState.default]
  · simp [next]
  · simp [empty]
  · rintro partition offset ⟨id, lease, stored, _⟩
    rw [empty] at stored
    simp at stored
  · simp [empty]

theorem Protected.listed {db : GroupDb} (kept : db.view.Protected) : db.view.Listed where
  leases := fun _ => mem_scanLeases
  hints := fun _ _ => mem_scanHints
  keyed := kept.keyed

/-- Lowering cursors and changing leases keeps the protection, if every active lease still has its
records and whatever reached an offset below the floor is replaced. -/
theorem Protected.lower {other : GroupView} (kept : view.Protected)
    (same : ∀ key : StateKey, key.family ∈ [StateFamily.record, .nextOffset] →
      other.get key = view.get key)
    (lowered : ∀ partition, Lowered (view.retentionOf partition) (other.retentionOf partition))
    (keyed : ∀ (id : ReplayLeaseId) (lease : ReplayLease), other.get (.leaseId id) = some lease →
      lease.id = id)
    (leased : ∀ partition offset, other.Leased partition offset →
      (view.get (.record partition offset)).isSome = true)
    (reached : ∀ partition offset, offset < (view.retentionOf partition).logicalFloor →
      view.Reclaimable partition offset → other.Reclaimable partition offset) :
    other.Protected := by
  have record (partition : PartitionKey) (offset : Nat) :
      other.get (.record partition offset) = view.get (.record partition offset) :=
    same _ (by simp [StateKey.family])
  have next (partition : PartitionKey) : other.nextOffsetOf partition = view.nextOffsetOf partition := by
    rw [nextOffsetOf, nextOffsetOf, same _ (by simp [StateKey.family])]
  have floor (partition : PartitionKey) : (other.retentionOf partition).logicalFloor =
      (view.retentionOf partition).logicalFloor := (lowered partition).floor
  constructor
  · simpa only [record, next] using kept.tail
  · simpa only [record, next, floor] using kept.retained
  · intro partition
    rw [floor]
    exact (lowered partition).cursor.trans (kept.cursor partition)
  · simpa only [floor, next] using kept.floor
  · simpa only [next] using kept.bounded
  · exact keyed
  · simpa only [record] using leased
  · intro partition offset present below
    rw [record] at present
    rw [floor] at below
    exact reached partition offset below (kept.remembered partition offset present below)

section Expiry

variable {clock : SafeLeaseClock}

theorem expired_leased (listed : view.Listed) (partition : PartitionKey) (offset : Nat) :
    (view.expired clock).Leased partition offset ↔
      ∃ (id : ReplayLeaseId) (lease : ReplayLease), view.get (.leaseId id) = some lease ∧
        leaseIsEffectivelyActive lease clock = true ∧ lease.range.partition = partition ∧
        lease.range.contains offset = true := by
  constructor
  · rintro ⟨id, lease, stored, active, own, inside⟩
    rw [expired_lease listed, Option.map_eq_some_iff] at stored
    obtain ⟨before, found, rfl⟩ := stored
    by_cases due : isDue clock before = true
    · rw [if_pos due] at active
      simp [ReplayLease.expired] at active
    · rw [if_neg due] at active own inside
      refine ⟨id, before, found, ?_, own, inside⟩
      simpa [isDue, active] using due
  · rintro ⟨id, lease, stored, effective, own, inside⟩
    have active : lease.lifecycle = .active := by
      simp only [leaseIsEffectivelyActive, Bool.and_eq_true, decide_eq_true_eq] at effective
      exact effective.1.1
    refine ⟨id, lease, ?_, active, own, inside⟩
    rw [expired_lease listed, stored]
    simp [isDue, effective]

theorem leased_or_due {partition : PartitionKey} {offset : Nat} (listed : view.Listed)
    (leased : view.Leased partition offset) :
    (view.expired clock).Leased partition offset ∨
      ∃ (id : ReplayLeaseId) (lease : ReplayLease), view.get (.leaseId id) = some lease ∧
        isDue clock lease = true ∧ lease.range.partition = partition ∧
        lease.range.contains offset = true := by
  obtain ⟨id, lease, stored, active, own, inside⟩ := leased
  by_cases effective : leaseIsEffectivelyActive lease clock = true
  · exact .inl ((expired_leased listed _ _).mpr ⟨id, lease, stored, effective, own, inside⟩)
  · exact .inr ⟨id, lease, stored, by simp [isDue, active, effective], own, inside⟩

theorem expired_fenced : (view.expired clock).exportFenced = view.exportFenced :=
  exportFenced_congr (expired_get_other (by simp [StateKey.family]))

theorem Protected.expired (kept : view.Protected) (listed : view.Listed) :
    (view.expired clock).Protected := by
  refine kept.lower (fun key inside => expired_get_other ?_) expired_lowered ?_ ?_ ?_
  · intro outside
    simp only [List.mem_cons, List.not_mem_nil, or_false] at inside outside
    rcases inside with record | next <;> simp_all
  · intro id lease stored
    rw [expired_lease listed, Option.map_eq_some_iff] at stored
    obtain ⟨before, found, rfl⟩ := stored
    split <;> exact kept.keyed id before found
  · intro partition offset leased
    obtain ⟨id, lease, stored, effective, own, inside⟩ := (expired_leased listed _ _).mp leased
    simp only [leaseIsEffectivelyActive, Bool.and_eq_true, decide_eq_true_eq] at effective
    exact kept.leased partition offset ⟨id, lease, stored, effective.1.1, own, inside⟩
  · intro partition offset below reachable
    rcases reachable with reached | leased | ⟨held, hint, stored, low⟩
    · exact .inl ((expired_lowered partition).cursor.trans reached)
    · rcases @leased_or_due view clock _ _ listed leased with still | ended
      · exact .inr (.inl still)
      obtain ⟨id, lease, stored, due, rfl, inside⟩ := ended
      have bounds := ReplayRange.contains_iff.mp inside
      have start : lease.range.start <
          (view.retentionOf lease.range.partition).logicalFloor := by omega
      cases held : view.exportFenced with
      | false => exact .inl ((expired_cursor listed held stored due start).trans bounds.1)
      | true =>
          obtain ⟨hint, low, hinted⟩ := expired_hinted listed held stored due start
          exact .inr (.inr ⟨expired_fenced.trans held, hint, hinted, low.trans bounds.1⟩)
    · obtain ⟨lower, lowest, hinted⟩ := @expired_hint_kept view clock _ _ stored
      exact .inr (.inr ⟨expired_fenced.trans held, lower, hinted, lowest.trans low⟩)

end Expiry

section Publish

variable {logId : GroupLogId} {slot : Nat} {batch : PublishBatch} {write : WriteBatch}

theorem Protected.appended (kept : view.Protected) {range : CommittedRecordRange}
    (allocated : CommittedRecordRange.new batch.partition (view.nextOffsetOf batch.partition)
      batch.records.length = .ok range) :
    (view.after (view.placeWrites logId slot batch range)).Protected := by
  obtain ⟨first, next, fits⟩ := committedRecordRange_ok allocated
  have within := @placeWrites_within view logId slot batch range
  have nextOffset (partition : PartitionKey) :=
    @place_nextOffset view logId slot batch range partition
  have retention (partition : PartitionKey) :
      ((view.after (view.placeWrites logId slot batch range)).retentionOf partition).logicalFloor =
          (view.retentionOf partition).logicalFloor ∧
        ((view.after (view.placeWrites logId slot batch range)).retentionOf
          partition).reclaimCursor = (view.retentionOf partition).reclaimCursor := by
    rw [place_retention]
    split <;> exact ⟨rfl, rfl⟩
  have leased (partition : PartitionKey) (offset : Nat) :
      (view.after (view.placeWrites logId slot batch range)).Leased partition offset ↔
        view.Leased partition offset :=
    leased_congr fun _ => after_get_of_within within (by simp [StateKey.family])
  constructor
  · intro partition offset present
    rw [nextOffset]
    by_cases same : partition = batch.partition
    · subst same
      rw [if_pos rfl, next]
      have placed := @place_record view logId slot batch range offset
      split at placed
      · omega
      · rw [placed] at present
        have old := kept.tail _ _ present
        omega
    · rw [if_neg same]
      rw [place_record_other same] at present
      exact kept.tail _ _ present
  · intro partition offset above below
    rw [(retention partition).1] at above
    rw [nextOffset] at below
    by_cases same : partition = batch.partition
    · subst same
      rw [if_pos rfl, next] at below
      have placed := @place_record view logId slot batch range offset
      split at placed
      · obtain ⟨record, written, _⟩ := placed
        rw [written]
        rfl
      · rw [placed]
        exact kept.retained _ _ above (by omega)
    · rw [if_neg same] at below
      rw [place_record_other same]
      exact kept.retained _ _ above below
  · intro partition
    rw [(retention partition).1, (retention partition).2]
    exact kept.cursor partition
  · intro partition
    rw [(retention partition).1, nextOffset]
    have old := kept.floor partition
    split
    · rename_i same
      subst same
      omega
    · exact old
  · intro partition
    rw [nextOffset]
    split
    · omega
    · exact kept.bounded partition
  · intro id lease stored
    rw [after_get_of_within within (by simp [StateKey.family])] at stored
    exact kept.keyed id lease stored
  · intro partition offset active
    exact place_record_kept (kept.leased partition offset ((leased partition offset).mp active))
  · intro partition offset present below
    rw [(retention partition).1] at below
    have old : (view.get (.record partition offset)).isSome = true := by
      by_cases same : partition = batch.partition
      · subst same
        have floor := kept.floor batch.partition
        have placed := @place_record view logId slot batch range offset
        rw [if_neg (by omega)] at placed
        rwa [placed] at present
      · rwa [place_record_other same] at present
    rcases kept.remembered partition offset old below with reached | active | hinted
    · exact .inl (by rw [(retention partition).2]; exact reached)
    · exact .inr (.inl ((leased partition offset).mpr active))
    · refine .inr (.inr ?_)
      rwa [exportFenced_congr (after_get_of_within within (by simp [StateKey.family])),
        after_get_of_within within (by simp [StateKey.family])]

theorem Protected.placed (kept : view.Protected) (placed : view.Placement logId slot batch write) :
    (view.after write.state).Protected := by
  cases placed with
  | quiet writes within => exact kept.within within (by decide)
  | appended range allocated owned before rest beforeWithin afterWithin =>
      refine (kept.appended allocated).frame fun key inside =>
        place_between beforeWithin afterWithin ?_
      intro outside
      simp only [protectedFamilies, List.mem_cons, List.not_mem_nil, or_false] at inside outside
      rcases outside with family | family | family <;> rw [family] at inside <;> simp at inside

end Publish

end GroupView

end LightStream
