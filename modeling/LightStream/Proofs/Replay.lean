import LightStream.Proofs.Maintenance
import LightStream.Proofs.Retries

/-!
What a data group keeps for replay, over whole runs: the records from the floor to the tail and
those of active leases stay, and no record below the floor is forgotten.
-/

namespace LightStream

namespace GroupView

variable {view : GroupView} {logId : GroupLogId}

theorem Placement.keepsRecords {slot : Nat} {batch : PublishBatch} {write : WriteBatch}
    (placed : view.Placement logId slot batch write) {partition : PartitionKey} {offset : Nat}
    (present : (view.get (.record partition offset)).isSome = true) :
    ((view.after write.state).get (.record partition offset)).isSome = true := by
  cases placed with
  | quiet writes within =>
      rwa [after_get_of_within within (by simp [StateKey.family])]
  | appended range allocated owned before rest beforeWithin afterWithin =>
      rw [place_between beforeWithin afterWithin (by simp [StateKey.family])]
      exact place_record_kept present

theorem dispatch_publish_keepsRecords {command : GroupCommand} {result : ApplyResult}
    {write : WriteBatch} (publishes : StateFamily.nextOffset ∈ command.families)
    (done : view.dispatch logId command = .ok (result, write)) {partition : PartitionKey}
    {offset : Nat} (present : (view.get (.record partition offset)).isSome = true) :
    ((view.after write.state).get (.record partition offset)).isSome = true := by
  cases command with
  | publish batch => exact (applyPublish_placement done).keepsRecords present
  | publishMany batch =>
      have carried : ∃ _ : Nat,
          ((view.after write.state).get (.record partition offset)).isSome = true := by
        refine @applyPublishMany_invariant view logId write (fun _ write =>
          ((view.after write.state).get (.record partition offset)).isSome = true) present ?_
          batch result done
        intro slot batch first write held placed
        rw [show (first.append write).state = first.state ++ write.state from rfl, after_append]
        exact placed.keepsRecords held
      exact carried.choose_spec
  | exportProtocol command => cases command <;> simp [GroupCommand.families] at publishes
  | _ =>
    simp [GroupCommand.families, leaseFamilies, decisionFamilies, maintainFamilies] at publishes

theorem applyPayload_lost {payload : EntryPayload} {result : ApplyResult} {write : WriteBatch}
    (done : view.applyPayload logId payload = .ok (result, write)) {partition : PartitionKey}
    {offset : Nat} (present : (view.get (.record partition offset)).isSome = true)
    (lost : (view.after write.state).get (.record partition offset) = none) :
    (view.after write.state).nextOffsetOf partition = view.nextOffsetOf partition := by
  have tail {families : List StateFamily} (within : Within families write.state)
      (outside : StateFamily.nextOffset ∉ families) :
      (view.after write.state).nextOffsetOf partition = view.nextOffsetOf partition := by
    have same : (view.after write.state).get (.nextOffset partition) =
        view.get (.nextOffset partition) := after_get_of_within within outside
    rw [nextOffsetOf, nextOffsetOf, same]
  cases payload with
  | blank =>
      cases done
      rfl
  | membership membership =>
      cases done
      exact tail (show Within [.membership] _ by simp [StateKey.family]) (by decide)
  | normal command =>
      have dispatched : view.dispatch logId command = .ok (result, write) ∨
          write = ⟨[], []⟩ := applyCommand_dispatched done
      rcases dispatched with handled | rfl
      · by_cases publishes : StateFamily.nextOffset ∈ command.families
        · have kept := dispatch_publish_keepsRecords publishes handled present
          rw [lost] at kept
          simp at kept
        · exact tail (dispatch_within command result write handled) publishes
      · rfl

end GroupView

namespace GroupDb

variable {identity : GroupIdentity} {window : Nat} {content : PayloadId → Record}
  {Allowed : GroupDb → GroupEntry → Prop} {history : List GroupEntry} {db : GroupDb}

/-- What a data group keeps for replay.  The records from the floor to the tail exist, and so do
those of every active lease, wherever the floor is; an entry deletes a record only below the floor
and outside every lease that is still active. -/
structure ProtectsReplay (db : GroupDb) : Prop where
  retained : ∀ partition offset, (db.view.retentionOf partition).logicalFloor ≤ offset →
    offset < db.view.nextOffsetOf partition → (db.get (.record partition offset)).isSome = true
  leased : ∀ (id : ReplayLeaseId) (lease : ReplayLease), db.get (.leaseId id) = some lease →
    lease.lifecycle = .active → ∀ offset, lease.range.contains offset = true →
    (db.get (.record lease.range.partition offset)).isSome = true
  reclaimed : ∀ (entry : GroupEntry) (result : ApplyResult) (next : GroupDb),
    db.applyEntry entry = .ok (result, next) → ∀ partition offset,
    (db.get (.record partition offset)).isSome = true →
    next.get (.record partition offset) = none →
    offset < (next.view.retentionOf partition).logicalFloor ∧
      ∀ (id : ReplayLeaseId) (lease : ReplayLease), next.get (.leaseId id) = some lease →
        lease.lifecycle = .active → lease.range.partition = partition →
        lease.range.contains offset = false

/-- Every reachable state of a data group protects replay. -/
theorem replay_protected (data : identity.kind = .data)
    (ran : Ran identity window content Allowed history db) : db.ProtectsReplay := by
  have guarded := ran.guarded data
  refine ⟨guarded.records.retained, ?_, ?_⟩
  · intro id lease stored active offset inside
    exact guarded.records.leased _ offset ⟨id, lease, stored, active, rfl, inside⟩
  · intro entry result next done partition offset present lost
    have kind : db.identity.kind = .data := by rw [ran.settings.1, data]
    have after := applyEntry_guarded kind guarded done
    have tail : next.view.nextOffsetOf partition = db.view.nextOffsetOf partition := by
      unfold applyEntry at done
      split at done
      · simp at done
      rename_i answer write handled
      cases done
      have reads {key : StateKey} (other : key.family ≠ .applied) :
          (db.commit ⟨write.state ++ [.put .applied entry.logId], write.payload⟩).get key =
            (db.view.after write.state).get key := commit_applied_get other
      rw [reads (by simp [StateKey.family])] at lost
      rw [← GroupView.applyPayload_lost handled present lost, GroupView.nextOffsetOf,
        GroupView.nextOffsetOf, view_get, reads (by simp [StateKey.family])]
    have below : offset < next.view.nextOffsetOf partition := by
      rw [tail]
      exact guarded.records.tail partition offset present
    have absent : (next.view.get (.record partition offset)).isSome = false := by
      rw [view_get, lost]
      rfl
    constructor
    · by_contra above
      have kept := after.records.retained partition offset (by omega) below
      rw [absent] at kept
      simp at kept
    · intro id lease stored active own
      cases inside : lease.range.contains offset with
      | false => rfl
      | true =>
          have kept := after.records.leased partition offset ⟨id, lease, stored, active, own, inside⟩
          rw [absent] at kept
          simp at kept

def freshData : GroupDb :=
  create ⟨storageFormatVersion, sampleCluster, dataGroupId, .data⟩ 2

def samplePartition : PartitionKey := ⟨⟨1⟩, 0⟩

theorem sampleClock_ordered : 0 ≤ 0 := le_rfl

def sampleClock : ClockObservation := ⟨0, 0, sampleClock_ordered⟩

def sampleRequest (sequence : Nat) : MutationRequestId := ⟨⟨"reader"⟩, ⟨1⟩, sequence⟩

def replayEntries : List GroupEntry :=
  [⟨⟨1, 1, 1⟩, .normal (.bootstrapData sampleSpec)⟩,
    ⟨⟨1, 1, 2⟩, .normal (.publish (samplePublish sampleCluster 0 none))⟩,
    ⟨⟨1, 1, 3⟩, .normal (.publish (samplePublish sampleCluster 1 none))⟩,
    ⟨⟨1, 1, 4⟩, .normal (.admitReplayLease
      ⟨sampleRequest 0, sampleCluster, ⟨samplePartition, 0, 1, Nat.one_pos⟩, 1, 1, Nat.one_ne_zero,
        Nat.one_ne_zero⟩ sampleClock)⟩,
    ⟨⟨1, 1, 5⟩, .normal (.advanceRetention ⟨sampleRequest 1, samplePartition, 2⟩ sampleClock)⟩,
    ⟨⟨1, 1, 6⟩, .normal (.maintainRetention samplePartition 0 9 9 sampleClock)⟩]

theorem replay_protected_sample : ∃ db,
    Ran freshData.identity 2 (fun _ => [7]) (fun _ _ => True) replayEntries db ∧
    (db.get (.record samplePartition 0)).isSome = true ∧
    db.get (.record samplePartition 1) = none ∧ db.ProtectsReplay := by
  have reclaimed : freshData.leaves replayEntries (fun db =>
      (db.get (.record samplePartition 0)).isSome &&
          decide (db.get (.record samplePartition 1) = none)) = true := by decide
  obtain ⟨results, db, submitted, reclaimed⟩ := leaves_iff.mp reclaimed
  simp only [Bool.and_eq_true, decide_eq_true_eq] at reclaimed
  have ran : Ran freshData.identity 2 (fun _ => [7]) (fun _ _ => True) replayEntries db :=
    Ran.submitAll .created (create_usedBelow _ _) (by decide) (by decide)
      (fun _ _ _ => trivial) submitted
  exact ⟨db, ran, reclaimed.1, reclaimed.2, replay_protected rfl ran⟩

end GroupDb

end LightStream
