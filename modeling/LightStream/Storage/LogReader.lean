import LightStream.Storage.Log

/-!
Reading the Raft log back: `try_get_log_entries` and `limited_get_log_entries` of
`light-stream-storage`.  A stored entry names each variant of a command anew, so the reader rebuilds
every variant; a publish gets its records from the payload column family.
-/

namespace LightStream

def validateEachRecord : List Record → Except DomainError Unit
  | [] => .ok ()
  | record :: rest =>
      if record = [] then .error (.invalidPayload "records cannot be empty")
      else if record.length > maxRecordBytes then
        .error (.invalidPayload "record exceeds 1048576 bytes")
      else validateEachRecord rest

theorem validateEachRecord_ok {records : List Record} (done : validateEachRecord records = .ok ()) :
    ∀ record ∈ records, record ≠ [] ∧ record.length ≤ maxRecordBytes := by
  induction records with
  | nil => simp
  | cons record rest ih =>
      rw [validateEachRecord] at done
      split at done
      · simp at done
      rename_i nonempty
      split at done
      · simp at done
      rename_i short
      intro other member
      rcases List.mem_cons.mp member with rfl | later
      · exact ⟨nonempty, by omega⟩
      · exact ih done other later

def PublishBatch.new (cluster : ClusterId) (partition : PartitionKey) (request : ProducerRequestId)
    (records : List Record) : Except DomainError PublishBatch :=
  if nonempty : records = [] then .error (.invalidPayload "at least one record is required")
  else if count : records.length > maxRecordsPerPublish then
    .error (.invalidPayload "record count exceeds 128")
  else
    match sizes : validateEachRecord records with
    | .error error => .error error
    | .ok () =>
        if total : payloadTotal records > maxPublishBytes then
          .error (.invalidPayload "publish payload exceeds 8388608 bytes")
        else
          .ok ⟨cluster, partition, request, records, none,
            ⟨nonempty, Nat.le_of_not_lt count, validateEachRecord_ok sizes,
              Nat.le_of_not_lt total⟩⟩

def PublishBatch.withBookmark (batch : PublishBatch) (bookmark : BookmarkName) : PublishBatch :=
  { batch with bookmark := some bookmark }

/-- The command of a stored entry, variant by variant. -/
inductive StoredCommand where
  | bootstrapControl (spec : BootstrapSpec) (topology : Option ClusterTopology)
      (security : Option SecurityPolicy) (dataGroups : List GroupId) (maxStreams : Nat)
      (maxPartitionsPerStream : Nat)
  | bootstrapData (spec : BootstrapSpec)
  | createStreamIntent (spec : CreateStreamSpec) (streamId : StreamId)
  | replicaReady (streamId : StreamId) (groupId : GroupId)
  | activateStream (streamId : StreamId)
  | beginDeleteStream (streamId : StreamId)
  | finishDeleteStream (streamId : StreamId)
  | publish (request : ThinPublish)
  | publishMany (requests : List ThinPublish)
  | compareAndSetCheckpoint (mutation : CheckpointMutation)
  | createBookmark (id : BookmarkId) (partition : PartitionKey) (name : BookmarkName)
      (offset : Nat)
  | deleteBookmark (partition : PartitionKey) (id : BookmarkId)
  | createStreamBookmark (id : BookmarkId) (name : BookmarkName) (vector : StreamCursorVector)
  | deleteStreamBookmark (streamId : StreamId) (id : BookmarkId)
  | advanceRetention (request : RetentionRequest) (clock : ClockObservation)
  | admitReplayLease (request : ReplayLeaseRequest) (clock : ClockObservation)
  | renewReplayLease (request : LeaseRenewal) (clock : ClockObservation)
  | releaseReplayLease (request : LeaseRelease) (clock : ClockObservation)
  | maintainRetention (partition : PartitionKey) (expectedCursor : Nat) (maxRecords : Nat)
      (maxPayloadBytes : Nat) (clock : ClockObservation)
  | operationalProbe (group : GroupId)
  | beginAdministration (intent : AdministrationIntent)
  | completeAdministration (request : AdministrationRequestId)
  | abortAdministration (request : AdministrationRequestId)
  | finishAdministrationAbort (request : AdministrationRequestId)
  | initializeClusterTopology (topology : ClusterTopology)
  | initializeSecurityPolicy (policy : SecurityPolicy)
  | applySecurityMutation (mutation : SecurityMutation)
  | activateSecuredTransport (request : MutationRequestId) (topology : ClusterTopology)
      (policy : SecurityPolicy)
  | exportProtocol (command : ExportCommand)

def storedCommand (logId : GroupLogId) : GroupCommand → StoredCommand
  | .bootstrapControl spec topology security dataGroups maxStreams maxPartitionsPerStream =>
      .bootstrapControl spec topology security dataGroups maxStreams maxPartitionsPerStream
  | .bootstrapData spec => .bootstrapData spec
  | .createStreamIntent spec streamId => .createStreamIntent spec streamId
  | .replicaReady streamId groupId => .replicaReady streamId groupId
  | .activateStream streamId => .activateStream streamId
  | .beginDeleteStream streamId => .beginDeleteStream streamId
  | .finishDeleteStream streamId => .finishDeleteStream streamId
  | .publish batch => .publish (thinPublish logId 0 (legacyFingerprint batch) batch)
  | .publishMany batch =>
      .publishMany ((slottedRequests 0 batch.requests).map fun entry =>
        thinPublish logId entry.1 (fingerprint entry.2) entry.2)
  | .compareAndSetCheckpoint mutation => .compareAndSetCheckpoint mutation
  | .createBookmark id partition name offset => .createBookmark id partition name offset
  | .deleteBookmark partition id => .deleteBookmark partition id
  | .createStreamBookmark id name vector => .createStreamBookmark id name vector
  | .deleteStreamBookmark streamId id => .deleteStreamBookmark streamId id
  | .advanceRetention request clock => .advanceRetention request clock
  | .admitReplayLease request clock => .admitReplayLease request clock
  | .renewReplayLease request clock => .renewReplayLease request clock
  | .releaseReplayLease request clock => .releaseReplayLease request clock
  | .maintainRetention partition expectedCursor maxRecords maxPayloadBytes clock =>
      .maintainRetention partition expectedCursor maxRecords maxPayloadBytes clock
  | .operationalProbe group => .operationalProbe group
  | .beginAdministration intent => .beginAdministration intent
  | .completeAdministration request => .completeAdministration request
  | .abortAdministration request => .abortAdministration request
  | .finishAdministrationAbort request => .finishAdministrationAbort request
  | .initializeClusterTopology topology => .initializeClusterTopology topology
  | .initializeSecurityPolicy policy => .initializeSecurityPolicy policy
  | .applySecurityMutation mutation => .applySecurityMutation mutation
  | .activateSecuredTransport request topology policy =>
      .activateSecuredTransport request topology policy
  | .exportProtocol command => .exportProtocol command

def ThinCommand.stored (logId : GroupLogId) : ThinCommand → StoredCommand
  | .publish request => .publish request
  | .publishMany requests => .publishMany requests
  | .other command => storedCommand logId command

theorem thinCommand_stored (logId : GroupLogId) (command : GroupCommand) :
    (thinCommand logId command).1.stored logId = storedCommand logId command := by
  cases command <;> rfl

namespace GroupDb

def readPayloads (db : GroupDb) : List PayloadId → Except IoError (List Record)
  | [] => .ok []
  | id :: rest =>
      match db.payload.get (.bytes id) with
      | none => .error (.other "log entry references a missing payload")
      | some record =>
          match db.readPayloads rest with
          | .error error => .error error
          | .ok records => .ok (record :: records)

def hydratePublish (db : GroupDb) (thin : ThinPublish) : Except IoError PublishBatch :=
  match db.readPayloads thin.payloadKeys with
  | .error error => .error error
  | .ok records =>
      match PublishBatch.new thin.cluster thin.partition thin.request records with
      | .error error => .error (.domain error)
      | .ok batch =>
          match thin.bookmark with
          | none => .ok batch
          | some bookmark => .ok (batch.withBookmark bookmark)

/-- The publishes of a stored batch, each checked against its fingerprint. -/
def hydrateRequests (db : GroupDb) : List ThinPublish → Except IoError (List PublishBatch)
  | [] => .ok []
  | thin :: rest =>
      match db.hydratePublish thin with
      | .error error => .error error
      | .ok batch =>
          if fingerprint batch ≠ thin.fingerprint then
            .error (.other "publish log fingerprint does not match payload")
          else
            match db.hydrateRequests rest with
            | .error error => .error error
            | .ok publishes => .ok (batch :: publishes)

/-- The match of `try_get_log_entries` over the stored commands. -/
def hydrateCommand (db : GroupDb) : StoredCommand → Except IoError GroupCommand
  | .bootstrapControl spec topology security dataGroups maxStreams maxPartitionsPerStream =>
      .ok (.bootstrapControl spec topology security dataGroups maxStreams maxPartitionsPerStream)
  | .bootstrapData spec => .ok (.bootstrapData spec)
  | .createStreamIntent spec streamId => .ok (.createStreamIntent spec streamId)
  | .replicaReady streamId groupId => .ok (.replicaReady streamId groupId)
  | .activateStream streamId => .ok (.activateStream streamId)
  | .beginDeleteStream streamId => .ok (.beginDeleteStream streamId)
  | .finishDeleteStream streamId => .ok (.finishDeleteStream streamId)
  | .publish request =>
      -- The stored fingerprint of a single publish is not checked.
      match db.hydratePublish request with
      | .error error => .error error
      | .ok batch => .ok (.publish batch)
  | .publishMany requests =>
      match db.hydrateRequests requests with
      | .error error => .error error
      | .ok publishes =>
          match ReplicatedPublishBatch.new publishes with
          | .error error => .error (.domain error)
          | .ok batch => .ok (.publishMany batch)
  | .compareAndSetCheckpoint mutation => .ok (.compareAndSetCheckpoint mutation)
  | .createBookmark id partition name offset => .ok (.createBookmark id partition name offset)
  | .deleteBookmark partition id => .ok (.deleteBookmark partition id)
  | .createStreamBookmark id name vector => .ok (.createStreamBookmark id name vector)
  | .deleteStreamBookmark streamId id => .ok (.deleteStreamBookmark streamId id)
  | .advanceRetention request clock => .ok (.advanceRetention request clock)
  | .admitReplayLease request clock => .ok (.admitReplayLease request clock)
  | .renewReplayLease request clock => .ok (.renewReplayLease request clock)
  | .releaseReplayLease request clock => .ok (.releaseReplayLease request clock)
  | .maintainRetention partition expectedCursor maxRecords maxPayloadBytes clock =>
      .ok (.maintainRetention partition expectedCursor maxRecords maxPayloadBytes clock)
  | .operationalProbe group => .ok (.operationalProbe group)
  | .beginAdministration intent => .ok (.beginAdministration intent)
  | .completeAdministration request => .ok (.completeAdministration request)
  | .abortAdministration request => .ok (.abortAdministration request)
  | .finishAdministrationAbort request => .ok (.finishAdministrationAbort request)
  | .initializeClusterTopology topology => .ok (.initializeClusterTopology topology)
  | .initializeSecurityPolicy policy => .ok (.initializeSecurityPolicy policy)
  | .applySecurityMutation mutation => .ok (.applySecurityMutation mutation)
  | .activateSecuredTransport request topology policy =>
      .ok (.activateSecuredTransport request topology policy)
  | .exportProtocol command => .ok (.exportProtocol command)

def hydrateEntry (db : GroupDb) (thin : ThinEntry) : Except IoError GroupEntry :=
  match thin.payload with
  | .blank => .ok ⟨thin.logId, .blank⟩
  | .membership membership => .ok ⟨thin.logId, .membership membership⟩
  | .normal command =>
      match db.hydrateCommand (command.stored thin.logId) with
      | .error error => .error error
      | .ok hydrated => .ok ⟨thin.logId, .normal hydrated⟩

end GroupDb

inductive IndexBound where
  | included (value : Nat)
  | excluded (value : Nat)
  | unbounded
deriving DecidableEq

structure IndexRange where
  startBound : IndexBound
  endBound : IndexBound
deriving DecidableEq

def IndexRange.contains (range : IndexRange) (index : Nat) : Bool :=
  (match range.startBound with
    | .included value => decide (value ≤ index)
    | .excluded value => decide (value < index)
    | .unbounded => true) &&
  match range.endBound with
  | .included value => decide (index ≤ value)
  | .excluded value => decide (index < value)
  | .unbounded => true

def rangeStart (range : IndexRange) : Nat :=
  match range.startBound with
  | .included value => value
  | .excluded value => saturatingAdd value 1
  | .unbounded => 0

def rangeEnd (range : IndexRange) : Option Nat :=
  match range.endBound with
  | .included value => checkedAdd value 1
  | .excluded value => some value
  | .unbounded => none

namespace GroupDb

def logRows (db : GroupDb) (start : Nat) : List (Nat × ThinEntry) :=
  (db.raftLog.scan fun index => if start ≤ index then some index else none).filterMap fun index =>
    (db.raftLog.get index).map fun thin => (index, thin)

def readRows (db : GroupDb) (stop : Option Nat) :
    List (Nat × ThinEntry) → Except IoError (List GroupEntry)
  | [] => .ok []
  | (index, thin) :: rest =>
      if stop.any (fun bound => decide (index ≥ bound)) then .ok []
      else
        match db.hydrateEntry thin with
        | .error error => .error error
        | .ok entry =>
            match db.readRows stop rest with
            | .error error => .error error
            | .ok entries => .ok (entry :: entries)

def tryGetLogEntries (db : GroupDb) (range : IndexRange) : Except IoError (List GroupEntry) :=
  db.readRows (rangeEnd range) (db.logRows (rangeStart range))

end GroupDb

def limitedBytes : Nat := 8 * 1024 * 1024

/-- The loop of `limited_get_log_entries`; `size` is the length of an entry as JSON. -/
def limitEntries (size : GroupEntry → Nat) : List GroupEntry → List GroupEntry → Nat →
    List GroupEntry
  | [], limited, _ => limited
  | entry :: rest, limited, bytes =>
      if limited ≠ [] ∧ saturatingAdd bytes (size entry) > limitedBytes then limited
      else limitEntries size rest (limited ++ [entry]) (saturatingAdd bytes (size entry))

def GroupDb.limitedGetLogEntries (db : GroupDb) (size : GroupEntry → Nat) (start stop : Nat) :
    Except IoError (List GroupEntry) :=
  match db.tryGetLogEntries ⟨.included start, .excluded stop⟩ with
  | .error error => .error error
  | .ok entries => .ok (limitEntries size entries [] 0)

end LightStream
