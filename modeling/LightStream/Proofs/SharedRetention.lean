import LightStream.Proofs.SharedState
import LightStream.Proofs.Expiry

/-!
Retention, leases and reclaim on the shared state: each handler does to the shared retention
states what it does to those of the replica.
-/

namespace LightStream

variable {count : LogCount}

namespace GroupView

variable {view : GroupView} {logId : GroupLogId}

theorem advanceLeaseClock_shared (observation : ClockObservation) :
    (view.shared count).advanceLeaseClock observation = view.advanceLeaseClock observation := rfl

theorem applyAdvanceRetention_shared (request : RetentionRequest) (clock : ClockObservation) :
    Refines count (view.applyAdvanceRetention request clock)
      ((view.shared count).applyAdvanceRetention request clock) := by
  have prior : (view.shared count).priorMutationResult request.request (.retention request) =
      view.priorMutationResult request.request (.retention request) := rfl
  have tail : (view.shared count).nextOffsetOf request.partition =
      view.nextOffsetOf request.partition :=
    rfl
  have position (floor : Nat) : (view.shared count).floorBytePosition request.partition
      ((view.retentionOf request.partition).shared count) floor =
        view.floorBytePosition request.partition (view.retentionOf request.partition) floor := rfl
  have kind : (view.shared count).identity = view.identity := rfl
  have lower : ((view.retentionOf request.partition).shared count).logicalFloor =
      (view.retentionOf request.partition).logicalFloor := rfl
  unfold applyAdvanceRetention
  dsimp only
  simp only [shared_retentionOf, prior, tail, position, kind, lower, advanceLeaseClock_shared,
    ← storeMutationResult_shared]
  split
  · exact refines_reject _
  split
  · exact refines_reply _ []
  split
  · exact refines_reply _ _
  split
  · exact refines_reply _ _
  split
  · exact refines_reject _
  · rename_i floorBytePosition _
    refine Eq.subst ?_ (refines_reply _ _)
    rw [sharedOps_append]
    rfl

def LeaseExpiryState.shared (count : LogCount) (expiry : LeaseExpiryState) : LeaseExpiryState :=
  { expiry with retentions := expiry.retentions.map fun entry => (entry.1, entry.2.shared count) }

theorem lowerCursor_shared (start : Nat) (retention : PartitionRetentionState) :
    lowerCursor start (retention.shared count) = (lowerCursor start retention).shared count := by
  by_cases below : start < retention.logicalFloor
  · simp only [lowerCursor, PartitionRetentionState.shared, below, if_true]
  · simp only [lowerCursor, PartitionRetentionState.shared, below, if_false]

theorem expireRetention_shared (range : ReplayRange)
    (retentions : List (PartitionKey × PartitionRetentionState)) :
    (view.shared count).expireRetention range
        (retentions.map fun entry => (entry.1, entry.2.shared count)) =
      (view.expireRetention range retentions).map fun entry => (entry.1, entry.2.shared count) := by
  induction retentions with
  | nil =>
      simp only [List.map_nil, expireRetention, shared_retentionOf, lowerCursor_shared,
        List.map_cons]
  | cons entry rest ih =>
      simp only [List.map_cons, expireRetention, ih, lowerCursor_shared]
      split <;> rfl

theorem expireLease_shared (clock : SafeLeaseClock) (expiry : LeaseExpiryState)
    (lease : ReplayLease) : (view.shared count).expireLease clock (expiry.shared count) lease =
      (view.expireLease clock expiry lease).shared count := by
  have fenced : (view.shared count).exportFenced = view.exportFenced := rfl
  simp only [expireLease, shared_retentionOf, fenced]
  split
  · rfl
  split
  · rfl
  · simp only [LeaseExpiryState.shared, expireRetention_shared]
    split <;> rfl

theorem expireDueLeases_shared (clock : SafeLeaseClock) :
    (view.shared count).expireDueLeases clock = (view.expireDueLeases clock).shared count := by
  have loop (leases : List ReplayLease) (expiry : LeaseExpiryState) :
      leases.foldl ((view.shared count).expireLease clock) (expiry.shared count) =
        (leases.foldl (view.expireLease clock) expiry).shared count := by
    induction leases generalizing expiry with
    | nil => rfl
    | cons lease rest ih => rw [List.foldl_cons, expireLease_shared, ih, List.foldl_cons]
  exact loop view.leases ⟨(view.get .leaseBudget).getD LeaseBudget.default, [], [], [], []⟩

theorem expiryWrites_shared (expiry : LeaseExpiryState) :
    sharedOps count (view.expiryWrites expiry) =
      (view.shared count).expiryWrites (expiry.shared count) := by
  have leases : sharedOps count (expiry.expired.map fun lease => .put (.leaseId lease.id) lease) =
      expiry.expired.map fun lease => .put (.leaseId lease.id) lease := by
    simp only [sharedOps, List.map_map]
    rfl
  simp only [expiryWrites, sharedOps_append, leases, LeaseExpiryState.shared]
  congr 1
  by_cases idle : expiry.expired = []
  · simp only [idle, if_true, sharedOps_nil]
  · simp only [idle, if_false, sharedOps_cons, sharedOps_append]
    simp only [sharedOps, List.map_map]
    rfl

theorem retentionFor_shared (expiry : LeaseExpiryState) (partition : PartitionKey) :
    (expiry.shared count).retentionFor (view.shared count) partition =
      (expiry.retentionFor view partition).shared count := by
  let named : PartitionKey × PartitionRetentionState → Bool := fun entry =>
    decide (entry.1 = partition)
  have same : named ∘ (fun entry => (entry.1, (entry.2.shared count))) = named := rfl
  simp only [LeaseExpiryState.retentionFor, LeaseExpiryState.shared, List.find?_map,
    shared_retentionOf]
  rw [same]
  cases expiry.retentions.find? named <;> rfl

theorem leaseCommand_shared (request : MutationRequestId) (fingerprint : MutationFingerprint)
    (observation : ClockObservation)
    {decision abstract : SafeLeaseClock → LeaseExpiryState → LeaseDecision}
    (same : ∀ clock expiry, abstract clock ((LeaseExpiryState.shared count) expiry) =
      ((decision clock expiry).1, sharedOps count (decision clock expiry).2)) :
    Refines count (view.leaseCommand request fingerprint observation decision)
      ((view.shared count).leaseCommand request fingerprint observation abstract) := by
  have prior : (view.shared count).priorMutationResult request fingerprint =
      view.priorMutationResult request fingerprint := rfl
  unfold leaseCommand
  simp only [prior, advanceLeaseClock_shared, expireDueLeases_shared, same,
    ← storeMutationResult_shared, ← expiryWrites_shared, ← sharedOps_append]
  split
  · exact refines_reply _ []
  split
  · exact refines_reply _ _
  · exact refines_reply _ _

theorem admitDecision_shared (request : ReplayLeaseRequest) (clock : SafeLeaseClock)
    (expiry : LeaseExpiryState) :
    (view.shared count).admitDecision request clock (expiry.shared count) =
      ((view.admitDecision request clock expiry).1,
        sharedOps count (view.admitDecision request clock expiry).2) := by
  have bytes : (view.shared count).replayRangeBytes request
      ((view.retentionOf request.range.partition).shared count) =
        view.replayRangeBytes request (view.retentionOf request.range.partition) := rfl
  have tail : (view.shared count).nextOffsetOf request.range.partition =
      view.nextOffsetOf request.range.partition := rfl
  simp only [admitDecision, shared_retentionOf, bytes, tail]
  simp only [PartitionRetentionState.shared, LeaseExpiryState.shared]
  by_cases below : request.range.start <
      (view.retentionOf request.range.partition).logicalFloor
  · simp only [below, if_true]
    rfl
  simp only [below, if_false]
  cases view.replayRangeBytes request (view.retentionOf request.range.partition) with
  | error => rfl
  | ok bytes =>
      dsimp only
      cases admitLease (.derived request.request) request bytes
        ⟨(view.retentionOf request.range.partition).logicalFloor,
          view.nextOffsetOf request.range.partition, clock, RetentionLimits.default,
          expiry.budget⟩ <;> rfl

theorem renewDecision_shared (request : LeaseRenewal) (clock : SafeLeaseClock) :
    (view.shared count).renewDecision request clock =
      ((view.renewDecision request clock).1,
        sharedOps count (view.renewDecision request clock).2) := by
  have found : (view.shared count).get (.leaseId request.lease) =
      view.get (.leaseId request.lease) := rfl
  have leases : Within [.lease, .leaseClock] (view.renewDecision request clock).2 := by
    unfold renewDecision
    repeat' split
    all_goals simp [StateKey.family]
  rw [sharedOps_same leases (by decide)]
  simp only [renewDecision, found]

theorem releaseReclaim_shared (expiry : LeaseExpiryState) (range : ReplayRange) :
    (view.shared count).releaseReclaim (expiry.shared count) range =
      sharedOps count (view.releaseReclaim expiry range) := by
  have fenced : (view.shared count).exportFenced = view.exportFenced := rfl
  simp only [releaseReclaim, retentionFor_shared, fenced]
  simp only [PartitionRetentionState.shared, LeaseExpiryState.shared]
  by_cases below : range.start < (expiry.retentionFor view range.partition).logicalFloor
  · by_cases held : view.exportFenced = true
    · simp only [below, held, if_true]
      rfl
    · simp only [below, held, if_true]
      rfl
  · simp only [below, if_false, sharedOps_nil]

theorem releaseDecision_shared (request : LeaseRelease) (clock : SafeLeaseClock)
    (expiry : LeaseExpiryState) :
    (view.shared count).releaseDecision request clock (expiry.shared count) =
      ((view.releaseDecision request clock expiry).1,
        sharedOps count (view.releaseDecision request clock expiry).2) := by
  have found : (view.shared count).get (.leaseId request.lease) =
      view.get (.leaseId request.lease) := rfl
  simp only [releaseDecision, found, releaseReclaim_shared]
  cases view.get (.leaseId request.lease) with
  | none => rfl
  | some lease =>
      dsimp only
      by_cases elsewhere : lease.range.partition ≠ request.partition
      · rw [if_pos elsewhere, if_pos elsewhere]
        rfl
      rw [if_neg elsewhere, if_neg elsewhere]
      by_cases active : leaseIsEffectivelyActive lease clock = true
      · rw [if_pos active, if_pos active, sharedOps_cons, sharedOps_append]
        rfl
      · rw [if_neg active, if_neg active]
        rfl

theorem resumeDeferredReclaim_shared :
    sharedOps count view.resumeDeferredReclaim = (view.shared count).resumeDeferredReclaim := by
  simp only [resumeDeferredReclaim, shared_retentionOf, sharedOps, List.map_flatMap]
  rfl

theorem applyReleaseExportFence_shared (token : ExportFenceToken) :
    Refines count (view.applyReleaseExportFence token)
      ((view.shared count).applyReleaseExportFence token) := by
  have kind : (view.shared count).identity = view.identity := rfl
  have fence : (view.shared count).mutationFenceState = view.mutationFenceState := rfl
  simp only [applyReleaseExportFence, kind, fence, ← resumeDeferredReclaim_shared]
  split
  · exact refines_reject _
  split
  · exact refines_reject _
  · exact refines_reply _ _

/-! ### Maintenance -/

def ReclaimState.sharedWith (count : LogCount) (reclaim : ReclaimState) (payload : PayloadBatch) :
    ReclaimState :=
  { reclaim with
    retention := reclaim.retention.shared count
    write := ⟨sharedOps count reclaim.write.state, payload⟩ }

def Tallied (count : LogCount) (view : GroupView) (partition : PartitionKey) : Prop :=
  ∀ offset record owners, offset < (view.retentionOf partition).logicalFloor →
    view.get (.record partition offset) = some record →
    view.owners record.payloadKey = some owners → count.Fits record.payloadKey owners

theorem reclaim_counted {id : PayloadId} {owners : PayloadOwners} (fits : count.Fits id owners)
    (bank : StateBank) (raftOnlyBytes payloadBytes : Nat) :
    (if ((count.owners id).setAppliedIn .a false).reachable = true ∧
        ((count.owners id).setAppliedIn .a false).raftLog = true then
        saturatingAdd (count.bytes raftOnlyBytes) payloadBytes
      else count.bytes raftOnlyBytes) =
      count.bytes (if (owners.setAppliedIn bank false).reachable = true ∧
          (owners.setAppliedIn bank false).raftLog = true then
          saturatingAdd raftOnlyBytes payloadBytes
        else raftOnlyBytes) := by
  have reached (other : PayloadOwners) (logged : other.raftLog = true) :
      other.reachable = true := by
    rw [PayloadOwners.reachable, logged]
    rfl
  cases count with
  | dropped =>
      have zero (bytes : Nat) : LogCount.dropped.bytes bytes = 0 := rfl
      rw [zero, zero]
      rfl
  | kept logged =>
      change owners.raftLog = logged id at fits
      have machine : (((LogCount.kept logged).owners id).setAppliedIn .a false).raftLog =
          logged id := rfl
      have replica : (owners.setAppliedIn bank false).raftLog = logged id := fits
      cases held : logged id with
      | true =>
          rw [held] at machine replica
          rw [if_pos ⟨reached _ machine, machine⟩, if_pos ⟨reached _ replica, replica⟩]
          rfl
      | false =>
          rw [held] at machine replica
          rw [machine, replica]
          simp only [Bool.false_eq_true, and_false, if_false]

theorem reclaim_shared {record : StoredRecord} {owners : PayloadOwners}
    (fits : count.Fits record.payloadKey owners) (bank : StateBank) (reclaim : ReclaimState)
    (payload : PayloadBatch) {partition : PartitionKey} :
    (reclaim.sharedWith count payload).reclaim partition record
        ((count.owners record.payloadKey).setAppliedIn .a false) =
      (reclaim.reclaim partition record (owners.setAppliedIn bank false)).sharedWith count
        (payload ++ releasePayload record.payloadKey
          ((count.owners record.payloadKey).setAppliedIn .a false)) := by
  simp only [ReclaimState.reclaim, ReclaimState.sharedWith, PartitionRetentionState.shared,
    sharedOps_append, reclaim_counted fits bank]
  rfl

theorem reclaimStep_shared {partition : PartitionKey} {ranges : List ReplayRange}
    {maxPayloadBytes : Nat} {reclaim : ReclaimState} {next : Option ReclaimState}
    (tallied : view.Tallied count partition)
    (floor : reclaim.retention.logicalFloor = (view.retentionOf partition).logicalFloor)
    (below : reclaim.retention.reclaimCursor < reclaim.retention.logicalFloor)
    (done : view.reclaimStep partition ranges maxPayloadBytes reclaim = .ok next)
    (payload : PayloadBatch) : ∃ written,
      (view.shared count).reclaimStep partition ranges maxPayloadBytes
          (reclaim.sharedWith count payload) =
        .ok (next.map (ReclaimState.sharedWith count · written)) ∧
      ∀ later, next = some later →
        later.retention.logicalFloor = (view.retentionOf partition).logicalFloor := by
  unfold reclaimStep at done ⊢
  dsimp only at done ⊢
  cases covering : ranges.find? fun range => range.contains reclaim.retention.reclaimCursor with
  | some range =>
      have same : ranges.find? (fun range =>
          range.contains (reclaim.sharedWith count payload).retention.reclaimCursor) =
            some range := covering
      rw [covering] at done
      rw [same]
      cases done
      refine ⟨payload, rfl, ?_⟩
      rintro _ ⟨⟩
      exact floor
  | none =>
      have same : ranges.find? (fun range =>
          range.contains (reclaim.sharedWith count payload).retention.reclaimCursor) = none :=
        covering
      rw [covering] at done
      rw [same]
      dsimp only at done ⊢
      cases stored : view.get (.record partition reclaim.retention.reclaimCursor) with
      | none =>
          have missing : (view.shared count).get (.record partition
              (reclaim.sharedWith count payload).retention.reclaimCursor) = none := stored
          rw [stored] at done
          rw [missing]
          cases done
          refine ⟨payload, rfl, ?_⟩
          rintro _ ⟨⟩
          exact floor
      | some record =>
          have found : (view.shared count).get (.record partition
              (reclaim.sharedWith count payload).retention.reclaimCursor) = some record := stored
          rw [stored] at done
          rw [found]
          dsimp only at done ⊢
          by_cases full : reclaim.examined > 0 ∧
              saturatingAdd reclaim.reclaimedBytes record.payloadBytes > maxPayloadBytes
          · have fullToo : (reclaim.sharedWith count payload).examined > 0 ∧
                saturatingAdd (reclaim.sharedWith count payload).reclaimedBytes
                  record.payloadBytes > maxPayloadBytes := full
            rw [if_pos full] at done
            rw [if_pos fullToo]
            cases done
            exact ⟨payload, rfl, fun _ impossible => by simp at impossible⟩
          · have room : ¬((reclaim.sharedWith count payload).examined > 0 ∧
                saturatingAdd (reclaim.sharedWith count payload).reclaimedBytes
                  record.payloadBytes > maxPayloadBytes) := full
            rw [if_neg full] at done
            rw [if_neg room]
            split at done
            · simp at done
            rename_i owners owned
            cases done
            have fits := tallied _ record owners (floor ▸ below) stored owned
            refine ⟨payload ++ releasePayload record.payloadKey
              ((count.owners record.payloadKey).setAppliedIn .a false), ?_, ?_⟩
            · exact congrArg (fun later => Except.ok (some later))
                (reclaim_shared fits view.activeBank reclaim payload)
            · rintro _ ⟨⟩
              exact floor

theorem reclaimLoop_shared {partition : PartitionKey} {ranges : List ReplayRange}
    {maxRecords maxPayloadBytes fuel : Nat} {reclaim final : ReclaimState}
    (tallied : view.Tallied count partition)
    (floor : reclaim.retention.logicalFloor = (view.retentionOf partition).logicalFloor)
    (done : view.reclaimLoop partition ranges maxRecords maxPayloadBytes fuel reclaim = .ok final)
    (payload : PayloadBatch) : ∃ written,
      (view.shared count).reclaimLoop partition ranges maxRecords maxPayloadBytes fuel
        (reclaim.sharedWith count payload) = .ok (final.sharedWith count written) := by
  induction fuel generalizing reclaim payload with
  | zero =>
      cases done
      exact ⟨payload, rfl⟩
  | succ fuel ih =>
      unfold reclaimLoop at done ⊢
      have guard : ((reclaim.sharedWith count payload).retention.reclaimCursor <
          (reclaim.sharedWith count payload).retention.logicalFloor ∧
          (reclaim.sharedWith count payload).examined < maxRecords) =
            (reclaim.retention.reclaimCursor < reclaim.retention.logicalFloor ∧
              reclaim.examined < maxRecords) := rfl
      simp only [guard]
      by_cases continues : reclaim.retention.reclaimCursor < reclaim.retention.logicalFloor ∧
          reclaim.examined < maxRecords
      · rw [if_pos continues] at done ⊢
        split at done
        · simp at done
        · rename_i stepped
          cases done
          obtain ⟨written, step, _⟩ := reclaimStep_shared tallied floor continues.1 stepped payload
          rw [step]
          exact ⟨payload, rfl⟩
        · rename_i next stepped
          obtain ⟨written, step, kept⟩ :=
            reclaimStep_shared tallied floor continues.1 stepped payload
          rw [step]
          exact ih (kept next rfl) done written
      · rw [if_neg continues] at done ⊢
        cases done
        exact ⟨payload, rfl⟩

theorem retentionStatus_shared (partition : PartitionKey) (retention : PartitionRetentionState) :
    retentionStatus partition (retention.shared count) =
      (retentionStatus partition retention).shared count := rfl

theorem shared_twice (result : ApplyResult) :
    (result.shared count).shared count = result.shared count := by
  cases result with
  | retentionStatus => cases count <;> rfl
  | _ => rfl

theorem expireDueLeases_floor (clock : SafeLeaseClock) (partition : PartitionKey) :
    ((view.expireDueLeases clock).retentionFor view partition).logicalFloor =
      (view.retentionOf partition).logicalFloor := by
  rw [← expired_retentionOf]
  exact (expired_lowered partition).floor

theorem applyMaintainRetention_shared {partition : PartitionKey}
    (tallied : view.Tallied count partition)
    (expectedCursor maxRecords maxPayloadBytes : Nat) (observation : ClockObservation) :
    Refines count
      (view.applyMaintainRetention partition expectedCursor maxRecords maxPayloadBytes observation)
      ((view.shared count).applyMaintainRetention partition expectedCursor maxRecords
        maxPayloadBytes observation) := by
  unfold applyMaintainRetention
  simp only [shared_retentionOf, advanceLeaseClock_shared, expireDueLeases_shared,
    retentionFor_shared]
  split
  · exact refines_reject _
  have cursor : ((view.retentionOf partition).shared count).reclaimCursor =
      (view.retentionOf partition).reclaimCursor := rfl
  simp only [cursor]
  split
  · rintro _ _ ⟨⟩
    exact ⟨_, [], rfl, shared_twice (retentionStatus partition _)⟩
  split
  · exact refines_reject _
  rename_i clock _
  split
  · exact refines_error _ _
  rename_i reclaim looped
  rintro _ _ ⟨⟩
  obtain ⟨written, shared⟩ :=
    reclaimLoop_shared tallied (expireDueLeases_floor clock partition) looped []
  have start : (⟨((view.expireDueLeases clock).retentionFor view partition).shared count, 0, 0,
      ⟨(view.shared count).expiryWrites ((view.expireDueLeases clock).shared count), []⟩⟩ :
        ReclaimState) =
        ReclaimState.sharedWith count
          ⟨(view.expireDueLeases clock).retentionFor view partition, 0, 0,
            ⟨view.expiryWrites (view.expireDueLeases clock), []⟩⟩ [] := by
    rw [← expiryWrites_shared]
    rfl
  have ranges : activeRanges ((view.expireDueLeases clock).shared count) partition =
      activeRanges (view.expireDueLeases clock) partition := rfl
  have room :
      (((view.expireDueLeases clock).retentionFor view partition).shared count).logicalFloor -
      (((view.expireDueLeases clock).retentionFor view partition).shared count).reclaimCursor =
        ((view.expireDueLeases clock).retentionFor view partition).logicalFloor -
          ((view.expireDueLeases clock).retentionFor view partition).reclaimCursor := rfl
  rw [start, ranges, room, shared]
  refine ⟨_, written, ?_, shared_twice (retentionStatus partition reclaim.retention)⟩
  rw [sharedOps_append]
  rfl

end GroupView

end LightStream
