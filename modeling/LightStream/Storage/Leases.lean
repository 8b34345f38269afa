import LightStream.Storage.Catalog

/-!
Mutation receipts, retention, replay leases and consumer checkpoints.
-/

namespace LightStream

namespace GroupView

def priorMutationResult (view : GroupView) (request : MutationRequestId)
    (fingerprint : MutationFingerprint) : Option ApplyResult :=
  match view.get (.mutationReceipt request) with
  | some existing =>
      if existing.fingerprint = fingerprint then some existing.result
      else some (.rejected .mutationConflict)
  | none =>
      if ((view.get (mutationSessionKey request)).getD SessionState.default).covers
          request.sequence then some (.rejected .mutationReceiptExpired)
      else none

def storeMutationResult (view : GroupView) (request : MutationRequestId)
    (fingerprint : MutationFingerprint) (result : ApplyResult) : StateBatch :=
  let session := (view.get (mutationSessionKey request)).getD SessionState.default
  let advanced := session.advance view.receiptWindow request.sequence
  .put (.mutationReceipt request) ⟨fingerprint, result⟩ ::
    match advanced.2 with
    | none => [.put (mutationSessionKey request) advanced.1]
    | some expired =>
        [.delete (.mutationReceipt { request with sequence := expired }),
          .put (mutationSessionKey request) advanced.1]

def advanceLeaseClock (view : GroupView) (observation : ClockObservation) :
    Except DomainError SafeLeaseClock :=
  match view.get .leaseClock with
  | some clock => clock.advance observation
  | none => SafeLeaseClock.new observation

def retentionOf (view : GroupView) (partition : PartitionKey) : PartitionRetentionState :=
  (view.get (.retention partition)).getD PartitionRetentionState.default

def nextOffsetOf (view : GroupView) (partition : PartitionKey) : Nat :=
  (view.get (.nextOffset partition)).getD 0

/-- The byte position of a floor, or nothing when its boundary record is gone. -/
def floorBytePosition (view : GroupView) (partition : PartitionKey)
    (previous : PartitionRetentionState) (floor : Nat) : Option Nat :=
  if floor = 0 then some 0
  else
    match view.get (.record partition (floor - 1)) with
    | some record => some record.cumulativeEndBytes
    | none => if floor = previous.logicalFloor then some previous.floorBytePosition else none

/-- `apply_advance_retention`.  The source writes the receipt lookup and the session update
out in place; they are the ones of `priorMutationResult` and `storeMutationResult`. -/
def applyAdvanceRetention (view : GroupView) (request : RetentionRequest)
    (observation : ClockObservation) : Applied :=
  if view.identity.kind ≠ .data then
    reject (.identityMismatch "retention command reached the control group")
  else
    match view.priorMutationResult request.request (.retention request) with
    | some result => reply result []
    | none =>
        let previous := view.retentionOf request.partition
        let finish (result : ApplyResult) (writes : StateBatch) : Applied :=
          reply result
            (writes ++ view.storeMutationResult request.request (.retention request) result)
        match advanceFloor previous.logicalFloor request.targetFloor
            (view.nextOffsetOf request.partition) with
        | .error error => finish (.rejected error) []
        | .ok floor =>
            match view.advanceLeaseClock observation with
            | .error error => finish (.rejected error) []
            | .ok clock =>
                match view.floorBytePosition request.partition previous floor with
                | none => reject (.storage "retention floor byte boundary is unavailable")
                | some floorBytePosition =>
                    finish
                      (.retention ⟨request.request, request.partition, previous.logicalFloor, floor⟩)
                      [.put (.retention request.partition)
                          { previous with logicalFloor := floor, floorBytePosition },
                        .put .leaseClock clock]

structure LeaseExpiryState where
  budget : LeaseBudget
  active : List ReplayLease
  expired : List ReplayLease
  retentions : List (PartitionKey × PartitionRetentionState)
  reclaimHints : List (PartitionKey × Nat)

def lowerCursor (start : Nat) (retention : PartitionRetentionState) : PartitionRetentionState :=
  if start < retention.logicalFloor then
    { retention with reclaimCursor := min retention.reclaimCursor start }
  else retention

/-- Lowers the cursor of one partition in the retentions already loaded, loading it first
when it is not there. -/
def expireRetention (view : GroupView) (range : ReplayRange) :
    List (PartitionKey × PartitionRetentionState) → List (PartitionKey × PartitionRetentionState)
  | [] => [(range.partition, lowerCursor range.start (view.retentionOf range.partition))]
  | (partition, retention) :: rest =>
      if partition = range.partition then (partition, lowerCursor range.start retention) :: rest
      else (partition, retention) :: expireRetention view range rest

def addHint (partition : PartitionKey) (start : Nat) :
    List (PartitionKey × Nat) → List (PartitionKey × Nat)
  | [] => [(partition, start)]
  | (hinted, cursor) :: rest =>
      if hinted = partition then (hinted, min cursor start) :: rest
      else (hinted, cursor) :: addHint partition start rest

def exportFenced (view : GroupView) : Bool := view.mutationFenceState.held.isSome

def expireLease (view : GroupView) (clock : SafeLeaseClock) (expiry : LeaseExpiryState)
    (lease : ReplayLease) : LeaseExpiryState :=
  if leaseIsEffectivelyActive lease clock then { expiry with active := expiry.active ++ [lease] }
  else if lease.lifecycle ≠ .active then expiry
  else
    { expiry with
      budget := ⟨expiry.budget.activeLeases - 1, expiry.budget.reservedBytes - lease.protectedBytes⟩
      expired := expiry.expired ++ [lease.expired]
      reclaimHints :=
        if view.exportFenced = true ∧
            lease.range.start < (view.retentionOf lease.range.partition).logicalFloor then
          addHint lease.range.partition lease.range.start expiry.reclaimHints
        else expiry.reclaimHints
      retentions :=
        if view.exportFenced = true then expiry.retentions
        else expireRetention view lease.range expiry.retentions }

def expireDueLeases (view : GroupView) (clock : SafeLeaseClock) : LeaseExpiryState :=
  view.leases.foldl (view.expireLease clock)
    ⟨(view.get .leaseBudget).getD LeaseBudget.default, [], [], [], []⟩

def mergedHint (view : GroupView) (partition : PartitionKey) (cursor : Nat) : Nat :=
  match view.get (.reclaimHint partition) with
  | none => cursor
  | some existing => min existing cursor

def expiryWrites (view : GroupView) (expiry : LeaseExpiryState) : StateBatch :=
  expiry.expired.map (fun lease => .put (.leaseId lease.id) lease) ++
    if expiry.expired = [] then []
    else
      .put .leaseBudget expiry.budget ::
        (expiry.retentions.map (fun entry => .put (.retention entry.1) entry.2) ++
          expiry.reclaimHints.map
            (fun entry => .put (.reclaimHint entry.1) (view.mergedHint entry.1 entry.2)))

def LeaseExpiryState.retentionFor (expiry : LeaseExpiryState) (view : GroupView)
    (partition : PartitionKey) : PartitionRetentionState :=
  match expiry.retentions.find? (fun entry => entry.1 = partition) with
  | some entry => entry.2
  | none => view.retentionOf partition

def replayRangeBytes (view : GroupView) (request : ReplayLeaseRequest)
    (retention : PartitionRetentionState) : Except DomainError Nat :=
  let startBytes : Except DomainError Nat :=
    if request.range.start = retention.logicalFloor then .ok retention.floorBytePosition
    else
      match view.get (.record request.range.partition (request.range.start - 1)) with
      | none => .error (.invalidRange "replay lease start boundary is unavailable")
      | some record => .ok record.cumulativeEndBytes
  match startBytes with
  | .error error => .error error
  | .ok startBytes =>
      match view.get (.record request.range.partition (request.range.stop - 1)) with
      | none => .error (.invalidRange "replay lease end boundary is unavailable")
      | some last =>
          if startBytes ≤ last.cumulativeEndBytes then .ok (last.cumulativeEndBytes - startBytes)
          else .error (.storage "replay lease byte index is not monotonic")

/-- A lease decision and its writes, before the mutation receipt. -/
abbrev LeaseDecision := ApplyResult × StateBatch

def admitDecision (view : GroupView) (request : ReplayLeaseRequest) (clock : SafeLeaseClock)
    (expiry : LeaseExpiryState) : LeaseDecision :=
  let retention := view.retentionOf request.range.partition
  if request.range.start < retention.logicalFloor then
    (.rejected (.cursorExpired request.range.start retention.logicalFloor), [])
  else
    match view.replayRangeBytes request retention with
    | .error error => (.rejected error, [])
    | .ok bytes =>
        match admitLease (.derived request.request) request bytes
            ⟨retention.logicalFloor, view.nextOffsetOf request.range.partition, clock,
              RetentionLimits.default, expiry.budget⟩ with
        | .error error => (.rejected error, [])
        | .ok lease =>
            (.replayLease lease,
              [.put (.leaseId lease.id) lease, .put (.leaseRequest request.request) lease.id,
                .put .leaseBudget ⟨expiry.budget.activeLeases + 1,
                  saturatingAdd expiry.budget.reservedBytes bytes⟩,
                .put .leaseClock clock])

/-- What a renewal or a release answers for a lease that is not effectively active. -/
def inactiveLease (lease : ReplayLease) : ApplyResult :=
  .rejected (.replayLeaseInactive lease.id
    (if lease.lifecycle = .active then .expired else lease.lifecycle))

def renewDecision (view : GroupView) (request : LeaseRenewal) (clock : SafeLeaseClock) :
    LeaseDecision :=
  match view.get (.leaseId request.lease) with
  | none => (.rejected (.replayLeaseNotFound request.lease), [])
  | some lease =>
      if lease.range.partition ≠ request.partition then
        (.rejected .replayLeaseRangeViolation, [])
      else if leaseIsEffectivelyActive lease clock then
        match checkedAdd clock.upperBound request.duration with
        | none => (.rejected .leaseClockUnavailable, [])
        | some expiresAt =>
            match lease.renewed expiresAt lease.hardExpiresAt with
            | .error error => (.rejected error, [])
            | .ok renewed =>
                (.replayLease renewed,
                  [.put (.leaseId request.lease) renewed, .put .leaseClock clock])
      else (inactiveLease lease, [])

/-- The reclaim bookkeeping of a release below the floor. -/
def releaseReclaim (view : GroupView) (expiry : LeaseExpiryState) (range : ReplayRange) :
    StateBatch :=
  let retention := expiry.retentionFor view range.partition
  if range.start < retention.logicalFloor then
    if view.exportFenced then
      let hinted :=
        match expiry.reclaimHints.find? (fun entry => entry.1 = range.partition) with
        | some entry => min entry.2 range.start
        | none => range.start
      [.put (.reclaimHint range.partition) (view.mergedHint range.partition hinted)]
    else
      [.put (.retention range.partition)
        { retention with reclaimCursor := min retention.reclaimCursor range.start }]
  else []

def releaseDecision (view : GroupView) (request : LeaseRelease) (clock : SafeLeaseClock)
    (expiry : LeaseExpiryState) : LeaseDecision :=
  match view.get (.leaseId request.lease) with
  | none => (.rejected (.replayLeaseNotFound request.lease), [])
  | some lease =>
      if lease.range.partition ≠ request.partition then
        (.rejected .replayLeaseRangeViolation, [])
      else if leaseIsEffectivelyActive lease clock then
        (.replayLease lease.released,
          .put (.leaseId request.lease) lease.released ::
            (view.releaseReclaim expiry lease.range ++
              [.put .leaseBudget ⟨expiry.budget.activeLeases - 1,
                  expiry.budget.reservedBytes - lease.protectedBytes⟩,
                .put .leaseClock clock]))
      else (inactiveLease lease, [])

/-- The frame shared by the three lease commands: the receipt lookup, the clock, the expiry of
due leases, the decision, and the receipt of its result. -/
def leaseCommand (view : GroupView) (request : MutationRequestId)
    (fingerprint : MutationFingerprint) (observation : ClockObservation)
    (decide : SafeLeaseClock → LeaseExpiryState → LeaseDecision) : Applied :=
  match view.priorMutationResult request fingerprint with
  | some result => reply result []
  | none =>
      match view.advanceLeaseClock observation with
      | .error error =>
          reply (.rejected error)
            (view.storeMutationResult request fingerprint (.rejected error))
      | .ok clock =>
          let expiry := view.expireDueLeases clock
          let decision := decide clock expiry
          reply decision.1
            (view.expiryWrites expiry ++ decision.2 ++
              view.storeMutationResult request fingerprint decision.1)

def applyAdmitReplayLease (view : GroupView) (request : ReplayLeaseRequest)
    (observation : ClockObservation) : Applied :=
  view.leaseCommand request.request (.admitLease request) observation (view.admitDecision request)

def applyRenewReplayLease (view : GroupView) (request : LeaseRenewal)
    (observation : ClockObservation) : Applied :=
  view.leaseCommand request.request (.renew request) observation
    fun clock _ => view.renewDecision request clock

def applyReleaseReplayLease (view : GroupView) (request : LeaseRelease)
    (observation : ClockObservation) : Applied :=
  view.leaseCommand request.request (.release request) observation (view.releaseDecision request)

def retentionStatus (partition : PartitionKey) (retention : PartitionRetentionState) :
    ApplyResult :=
  .retentionStatus ⟨partition, retention.logicalFloor, retention.reclaimCursor,
    retention.logicallyExpiredBytes, retention.raftOnlyBytes⟩

structure ReclaimState where
  retention : PartitionRetentionState
  examined : Nat
  reclaimedBytes : Nat
  write : WriteBatch

/-- The owners after the record of a payload is reclaimed, and the payload writes. -/
def releasePayload (id : PayloadId) (owners : PayloadOwners) : PayloadBatch :=
  if owners.reachable then [.put (.owners id) owners]
  else [.delete (.owners id), .delete (.bytes id)]

def ReclaimState.reclaim (reclaim : ReclaimState) (partition : PartitionKey)
    (record : StoredRecord) (owners : PayloadOwners) : ReclaimState where
  retention :=
    { reclaim.retention with
      raftOnlyBytes :=
        if owners.reachable = true ∧ owners.raftLog = true then
          saturatingAdd reclaim.retention.raftOnlyBytes record.payloadBytes
        else reclaim.retention.raftOnlyBytes
      logicallyExpiredBytes :=
        saturatingAdd reclaim.retention.logicallyExpiredBytes record.payloadBytes
      reclaimCursor := saturatingAdd reclaim.retention.reclaimCursor 1 }
  examined := reclaim.examined + 1
  reclaimedBytes := saturatingAdd reclaim.reclaimedBytes record.payloadBytes
  write :=
    ⟨reclaim.write.state ++ [.delete (.record partition reclaim.retention.reclaimCursor)],
      reclaim.write.payload ++ releasePayload record.payloadKey owners⟩

def reclaimStep (view : GroupView) (partition : PartitionKey) (activeRanges : List ReplayRange)
    (maxPayloadBytes : Nat) (reclaim : ReclaimState) : Except IoError (Option ReclaimState) :=
  let retention := reclaim.retention
  match activeRanges.find? (fun range => range.contains retention.reclaimCursor) with
  | some range =>
      .ok (some { reclaim with
        retention := { retention with reclaimCursor := min range.stop retention.logicalFloor } })
  | none =>
      match view.get (.record partition retention.reclaimCursor) with
      | none =>
          .ok (some { reclaim with
            retention :=
              { retention with reclaimCursor := saturatingAdd retention.reclaimCursor 1 }
            examined := reclaim.examined + 1 })
      | some record =>
          if reclaim.examined > 0 ∧
              saturatingAdd reclaim.reclaimedBytes record.payloadBytes > maxPayloadBytes then
            .ok none
          else
            match view.owners record.payloadKey with
            | none => .error (.other "retained record payload is missing ownership")
            | some owners =>
                .ok (some (reclaim.reclaim partition record
                  (owners.setAppliedIn view.activeBank false)))

/-- The reclaim loop.  Every iteration moves the cursor toward the floor, so the distance
between them bounds the number of iterations. -/
def reclaimLoop (view : GroupView) (partition : PartitionKey) (activeRanges : List ReplayRange)
    (maxRecords maxPayloadBytes : Nat) : Nat → ReclaimState → Except IoError ReclaimState
  | 0, reclaim => .ok reclaim
  | fuel + 1, reclaim =>
      if reclaim.retention.reclaimCursor < reclaim.retention.logicalFloor ∧
          reclaim.examined < maxRecords then
        match view.reclaimStep partition activeRanges maxPayloadBytes reclaim with
        | .error error => .error error
        | .ok none => .ok reclaim
        | .ok (some next) =>
            reclaimLoop view partition activeRanges maxRecords maxPayloadBytes fuel next
      else .ok reclaim

def activeRanges (expiry : LeaseExpiryState) (partition : PartitionKey) : List ReplayRange :=
  (expiry.active.map ReplayLease.range).filter fun range => range.partition = partition

def applyMaintainRetention (view : GroupView) (partition : PartitionKey)
    (expectedCursor maxRecords maxPayloadBytes : Nat) (observation : ClockObservation) : Applied :=
  if maxRecords = 0 ∨ maxPayloadBytes = 0 then
    reject (.invalidRange "retention maintenance limits must be greater than zero")
  else
    let stored := view.retentionOf partition
    if stored.reclaimCursor ≠ expectedCursor then reply (retentionStatus partition stored) []
    else
      match view.advanceLeaseClock observation with
      | .error error => reject error
      | .ok clock =>
          let expiry := view.expireDueLeases clock
          let retention := expiry.retentionFor view partition
          match view.reclaimLoop partition (activeRanges expiry partition) maxRecords
              maxPayloadBytes (retention.logicalFloor - retention.reclaimCursor)
              ⟨retention, 0, 0, ⟨view.expiryWrites expiry, []⟩⟩ with
          | .error error => .error error
          | .ok reclaim =>
              .ok (retentionStatus partition reclaim.retention,
                ⟨reclaim.write.state ++
                    [.put (.retention partition) reclaim.retention, .put .leaseClock clock],
                  reclaim.write.payload⟩)

def expectationMatches (expected : CheckpointExpectation) (current : Option CommittedCheckpoint) :
    Bool :=
  match expected, current with
  | .missing, none => true
  | .revision expected, some current => decide (expected = current.revision)
  | _, _ => false

def nextCheckpointRevision (current : Option CommittedCheckpoint) :
    Except DomainError CheckpointRevision :=
  match current with
  | some current => current.revision.checkedNext
  | none => .ok CheckpointRevision.initial

def regresses (current : Option CommittedCheckpoint) (candidate : Nat) : Option Nat :=
  match current with
  | none => none
  | some current =>
      if candidate < current.cursor.nextOffset then some current.cursor.nextOffset else none

def applyCheckpointMutation (view : GroupView) (mutation : CheckpointMutation) : Applied :=
  if view.identity.kind ≠ .data then
    reject (.identityMismatch "checkpoint mutation reached the control group")
  else
    match view.get .bootstrap with
    | none => reject .notBootstrapped
    | some spec =>
        match view.priorMutationResult mutation.request (.checkpoint mutation) with
        | some result => reply result []
        | none =>
            if mutation.key.cluster ≠ view.identity.clusterId ∨
                mutation.key.cluster ≠ spec.cluster then
              reject (.identityMismatch "checkpoint cluster does not match the data group")
            else
              let finish (result : ApplyResult) (writes : StateBatch) : Applied :=
                reply result
                  (writes ++
                    view.storeMutationResult mutation.request (.checkpoint mutation) result)
              let current := view.get (.checkpoint mutation.key.partition mutation.key.consumer)
              let tail := view.nextOffsetOf mutation.key.partition
              let candidate := mutation.candidate.nextOffset
              if expectationMatches mutation.expected current = false then
                finish (.checkpoint (.conflict mutation.request current)) []
              else if candidate > tail then
                finish (.rejected (.checkpointAheadOfTail candidate tail)) []
              else
                match regresses current candidate with
                | some offset => finish (.rejected (.checkpointRegression offset candidate)) []
                | none =>
                    match nextCheckpointRevision current with
                    | .error error => .error (.domain error)
                    | .ok revision =>
                        let checkpoint : CommittedCheckpoint :=
                          ⟨mutation.key, mutation.candidate, revision⟩
                        finish
                          (.checkpoint (.advanced mutation.request current checkpoint))
                          [.put (.checkpoint mutation.key.partition mutation.key.consumer)
                            checkpoint]

end GroupView

end LightStream
