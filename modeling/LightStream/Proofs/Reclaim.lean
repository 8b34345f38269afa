import LightStream.Kv.Listing
import LightStream.Proofs.Expiry

/-!
The reclaim loop of retention maintenance: it moves the cursor toward the floor, deletes every
record that it passes outside the active leases, and no other.
-/

namespace LightStream

structure Reclaimed where
  offset : Nat
  record : StoredRecord
  owners : PayloadOwners

def Reclaimed.logged (reclaimed : Reclaimed) : Nat :=
  if reclaimed.owners.reachable = true ∧ reclaimed.owners.raftLog = true then
    reclaimed.record.payloadBytes
  else 0

namespace GroupView

variable {view : GroupView} {partition : PartitionKey} {ranges : List ReplayRange}

structure Reclaims (view : GroupView) (partition : PartitionKey) (ranges : List ReplayRange)
    (before after : ReclaimState) (reclaimed : List Reclaimed) : Prop where
  floor : after.retention.logicalFloor = before.retention.logicalFloor
  forward : before.retention.reclaimCursor ≤ after.retention.reclaimCursor
  bounded : after.retention.reclaimCursor ≤
    max before.retention.reclaimCursor before.retention.logicalFloor
  state : after.write.state = before.write.state ++
    reclaimed.map fun record => .delete (.record partition record.offset)
  payload : after.write.payload = before.write.payload ++
    reclaimed.flatMap fun record => releasePayload record.record.payloadKey record.owners
  stored : ∀ record ∈ reclaimed, view.get (.record partition record.offset) = some record.record
  owned : ∀ record ∈ reclaimed, ∃ owners, view.owners record.record.payloadKey = some owners ∧
    record.owners = owners.setAppliedIn view.activeBank false
  offsets : ∀ record ∈ reclaimed, before.retention.reclaimCursor ≤ record.offset ∧
    record.offset < after.retention.reclaimCursor
  unleased : ∀ record ∈ reclaimed, ∀ range ∈ ranges, range.contains record.offset = false
  complete : ∀ offset, before.retention.reclaimCursor ≤ offset →
    offset < after.retention.reclaimCursor →
      (∃ range ∈ ranges, range.contains offset = true) ∨
        view.get (.record partition offset) = none ∨
        ∃ record ∈ reclaimed, record.offset = offset
  distinct : (reclaimed.map Reclaimed.offset).Nodup
  counted : before.retention.raftOnlyBytes ≤ u64Max → after.retention.raftOnlyBytes =
    min (before.retention.raftOnlyBytes + Kv.weigh Reclaimed.logged reclaimed) u64Max

theorem Reclaims.refl (reclaim : ReclaimState) : Reclaims view partition ranges reclaim reclaim [] where
  floor := rfl
  forward := le_rfl
  bounded := le_max_left ..
  state := by simp
  payload := by simp
  stored := by simp
  owned := by simp
  offsets := by simp
  unleased := by simp
  complete := fun offset low high => by omega
  distinct := List.nodup_nil
  counted := fun fits => by
    rw [Kv.weigh_nil]
    omega

theorem Reclaims.trans {first second third : ReclaimState} {before after : List Reclaimed}
    (one : Reclaims view partition ranges first second before)
    (two : Reclaims view partition ranges second third after) :
    Reclaims view partition ranges first third (before ++ after) where
  floor := two.floor.trans one.floor
  forward := one.forward.trans two.forward
  bounded := by
    have firstBound := one.bounded
    have secondBound := two.bounded
    rw [one.floor] at secondBound
    omega
  state := by rw [two.state, one.state, List.map_append, List.append_assoc]
  payload := by rw [two.payload, one.payload, List.flatMap_append, List.append_assoc]
  stored := by
    intro record member
    exact (List.mem_append.mp member).elim (one.stored record) (two.stored record)
  owned := by
    intro record member
    exact (List.mem_append.mp member).elim (one.owned record) (two.owned record)
  offsets := by
    intro record member
    have firstForward := one.forward
    have secondForward := two.forward
    rcases List.mem_append.mp member with inFirst | inSecond
    · have inside := one.offsets record inFirst
      omega
    · have inside := two.offsets record inSecond
      omega
  unleased := by
    intro record member
    exact (List.mem_append.mp member).elim (one.unleased record) (two.unleased record)
  complete := by
    intro offset low high
    by_cases early : offset < second.retention.reclaimCursor
    · rcases one.complete offset low early with leased | absent | ⟨record, member, same⟩
      · exact .inl leased
      · exact .inr (.inl absent)
      · exact .inr (.inr ⟨record, List.mem_append_left _ member, same⟩)
    · rcases two.complete offset (by omega) high with leased | absent | ⟨record, member, same⟩
      · exact .inl leased
      · exact .inr (.inl absent)
      · exact .inr (.inr ⟨record, List.mem_append_right _ member, same⟩)
  distinct := by
    rw [List.map_append, List.nodup_append]
    refine ⟨one.distinct, two.distinct, ?_⟩
    intro early inFirst late inSecond same
    obtain ⟨first, firstMember, rfl⟩ := List.mem_map.mp inFirst
    obtain ⟨second, secondMember, rfl⟩ := List.mem_map.mp inSecond
    have behind := one.offsets first firstMember
    have ahead := two.offsets second secondMember
    omega
  counted := by
    intro fits
    have middle := one.counted fits
    have last := two.counted (by omega)
    rw [Kv.weigh_append, last, middle]
    omega

theorem reclaimStep_reclaims {maxPayloadBytes : Nat} {before after : ReclaimState}
    (below : before.retention.reclaimCursor < before.retention.logicalFloor)
    (fits : before.retention.logicalFloor ≤ u64Max)
    (stepped : view.reclaimStep partition ranges maxPayloadBytes before = .ok (some after)) :
    before.retention.reclaimCursor < after.retention.reclaimCursor ∧
      ∃ reclaimed, Reclaims view partition ranges before after reclaimed := by
  have next : saturatingAdd before.retention.reclaimCursor 1 =
      before.retention.reclaimCursor + 1 := by
    unfold saturatingAdd
    omega
  unfold reclaimStep at stepped
  dsimp only at stepped
  split at stepped
  · rename_i range found
    cases stepped
    have inside := List.find?_some found
    have member := List.mem_of_find?_eq_some found
    have bounds := ReplayRange.contains_iff.mp inside
    refine ⟨by dsimp only; omega, [], ?_⟩
    constructor
    · rfl
    · dsimp only
      omega
    · dsimp only
      omega
    · simp
    · simp
    · simp
    · simp
    · simp
    · simp
    · intro offset low high
      dsimp only at high
      exact .inl ⟨range, member, ReplayRange.contains_iff.mpr ⟨by omega, by omega⟩⟩
    · exact List.nodup_nil
    · intro bounded
      dsimp only
      rw [Kv.weigh_nil]
      omega
  rename_i free
  have unleased : ∀ range ∈ ranges, range.contains before.retention.reclaimCursor = false := by
    intro range member
    simpa using List.find?_eq_none.mp free range member
  split at stepped
  · rename_i absent
    cases stepped
    refine ⟨by dsimp only; omega, [], ?_⟩
    constructor
    · rfl
    · dsimp only
      omega
    · dsimp only
      omega
    · simp
    · simp
    · simp
    · simp
    · simp
    · simp
    · intro offset low high
      dsimp only at high
      rw [show offset = before.retention.reclaimCursor by omega]
      exact .inr (.inl absent)
    · exact List.nodup_nil
    · intro bounded
      dsimp only
      rw [Kv.weigh_nil]
      omega
  · rename_i record present
    split at stepped
    · simp at stepped
    split at stepped
    · simp at stepped
    rename_i owners found
    cases stepped
    refine ⟨by simp only [ReclaimState.reclaim]; omega,
      [⟨before.retention.reclaimCursor, record, owners.setAppliedIn view.activeBank false⟩], ?_⟩
    constructor
    · rfl
    · simp only [ReclaimState.reclaim]
      omega
    · simp only [ReclaimState.reclaim]
      omega
    · rfl
    · simp [ReclaimState.reclaim]
    · simpa using present
    · simpa using ⟨owners, found, rfl⟩
    · simp only [List.mem_singleton, forall_eq, ReclaimState.reclaim]
      omega
    · simpa using unleased
    · intro offset low high
      simp only [ReclaimState.reclaim] at high
      exact .inr (.inr ⟨_, List.mem_singleton_self _, by dsimp only; omega⟩)
    · exact List.nodup_singleton _
    · intro bounded
      rw [Kv.weigh_cons, Kv.weigh_nil, Reclaimed.logged]
      dsimp only [ReclaimState.reclaim]
      unfold saturatingAdd
      split <;> omega

theorem reclaimLoop_reclaims {maxRecords maxPayloadBytes : Nat} : ∀ {fuel : Nat}
    {before after : ReclaimState}, before.retention.logicalFloor ≤ u64Max →
    view.reclaimLoop partition ranges maxRecords maxPayloadBytes fuel before = .ok after →
    ∃ reclaimed, Reclaims view partition ranges before after reclaimed := by
  intro fuel
  induction fuel with
  | zero =>
      intro before after fits done
      cases done
      exact ⟨[], .refl before⟩
  | succ fuel ih =>
      intro before after fits done
      rw [reclaimLoop] at done
      split at done
      · rename_i guard
        split at done
        · simp at done
        · cases done
          exact ⟨[], .refl before⟩
        · rename_i next stepped
          obtain ⟨_, first, one⟩ := reclaimStep_reclaims guard.1 fits stepped
          obtain ⟨second, two⟩ := ih (by rw [one.floor]; exact fits) done
          exact ⟨first ++ second, one.trans two⟩
      · cases done
        exact ⟨[], .refl before⟩

theorem reclaimLoop_progress {maxRecords maxPayloadBytes fuel : Nat} {before after : ReclaimState}
    (fits : before.retention.logicalFloor ≤ u64Max)
    (below : before.retention.reclaimCursor < before.retention.logicalFloor)
    (fresh : before.examined = 0) (records : maxRecords ≠ 0)
    (done : view.reclaimLoop partition ranges maxRecords maxPayloadBytes (fuel + 1) before =
      .ok after) : before.retention.reclaimCursor < after.retention.reclaimCursor := by
  rw [reclaimLoop, if_pos ⟨below, by omega⟩] at done
  split at done
  · simp at done
  · rename_i stopped
    unfold reclaimStep at stopped
    dsimp only at stopped
    split at stopped
    · simp at stopped
    split at stopped
    · simp at stopped
    split at stopped
    · omega
    split at stopped <;> simp at stopped
  · rename_i next stepped
    obtain ⟨moved, first, one⟩ := reclaimStep_reclaims below fits stepped
    obtain ⟨second, two⟩ := reclaimLoop_reclaims (by rw [one.floor]; exact fits) done
    exact moved.trans_le two.forward

theorem reclaimLoop_error {maxRecords maxPayloadBytes : Nat} {error : IoError} : ∀ {fuel : Nat}
    {before : ReclaimState},
    view.reclaimLoop partition ranges maxRecords maxPayloadBytes fuel before = .error error →
    ∃ offset record, view.get (.record partition offset) = some record ∧
      view.owners record.payloadKey = none := by
  intro fuel
  induction fuel with
  | zero =>
      intro before failed
      simp [reclaimLoop] at failed
  | succ fuel ih =>
      intro before failed
      rw [reclaimLoop] at failed
      split at failed
      · split at failed
        · rename_i stepped
          unfold reclaimStep at stepped
          dsimp only at stepped
          split at stepped
          · simp at stepped
          split at stepped
          · simp at stepped
          rename_i record present
          split at stepped
          · simp at stepped
          split at stepped
          · rename_i missing
            exact ⟨_, record, present, missing⟩
          · simp at stepped
        · simp at failed
        · exact ih failed
      · simp at failed

end GroupView

end LightStream
