import LightStream.Core.Identity

/-!
Commands and results of the data plane in `light-stream-core`: publish batches, bookmarks,
checkpoints, replay leases, retention requests, the stream catalog and bootstrap.
A constructor of the source that validates its arguments is a structure whose fields carry
the validated facts.
-/

namespace LightStream

def maxRecordsPerPublish : Nat := 128
def maxRecordBytes : Nat := 1024 * 1024
def maxPublishBytes : Nat := 8 * 1024 * 1024
def maxRequestsPerReplicatedPublish : Nat := 128
def maxRecordsPerReplicatedPublish : Nat := 1024
def maxReplicatedPublishBytes : Nat := 8 * 1024 * 1024

abbrev Record := List UInt8

def payloadTotal (records : List Record) : Nat := (records.map List.length).sum

structure RecordsValid (records : List Record) : Prop where
  nonempty : records ≠ []
  count : records.length ≤ maxRecordsPerPublish
  sizes : ∀ record ∈ records, record ≠ [] ∧ record.length ≤ maxRecordBytes
  total : payloadTotal records ≤ maxPublishBytes

instance (records : List Record) : Decidable (RecordsValid records) :=
  decidable_of_iff (records ≠ [] ∧ records.length ≤ maxRecordsPerPublish ∧
      (∀ record ∈ records, record ≠ [] ∧ record.length ≤ maxRecordBytes) ∧
      payloadTotal records ≤ maxPublishBytes)
    ⟨fun ⟨nonempty, count, sizes, total⟩ => ⟨nonempty, count, sizes, total⟩,
      fun valid => ⟨valid.nonempty, valid.count, valid.sizes, valid.total⟩⟩

theorem sampleRecords_valid : RecordsValid [[7]] := by decide

structure CommittedRecord where
  offset : Nat
  payload : Record
deriving DecidableEq

structure PublishBatch where
  cluster : ClusterId
  partition : PartitionKey
  request : ProducerRequestId
  records : List Record
  bookmark : Option BookmarkName
  valid : RecordsValid records
deriving DecidableEq

structure ReplicatedPublishBatch where
  requests : List PublishBatch
  nonempty : requests ≠ []
  requestCount : requests.length ≤ maxRequestsPerReplicatedPublish
  recordCount : (requests.map fun request => request.records.length).sum ≤
    maxRecordsPerReplicatedPublish
  payloadBytes : (requests.map fun request => payloadTotal request.records).sum ≤
    maxReplicatedPublishBytes
deriving DecidableEq

def ReplicatedPublishBatch.new (requests : List PublishBatch) :
    Except DomainError ReplicatedPublishBatch :=
  if nonempty : requests = [] then
    .error (.invalidPayload "at least one publish request is required")
  else if requestCount : requests.length ≤ maxRequestsPerReplicatedPublish then
    if recordCount : (requests.map fun request => request.records.length).sum ≤
        maxRecordsPerReplicatedPublish then
      if payloadBytes : (requests.map fun request => payloadTotal request.records).sum ≤
          maxReplicatedPublishBytes then
        .ok ⟨requests, nonempty, requestCount, recordCount, payloadBytes⟩
      else .error (.invalidPayload "replicated publish payload exceeds 8388608 bytes")
    else .error (.invalidPayload "replicated publish record count exceeds 1024")
  else .error (.invalidPayload "publish request count exceeds 128")

inductive BookmarkLifecycle where
  | available
  | deleted
deriving DecidableEq

structure CommittedBookmark where
  id : BookmarkId
  name : BookmarkName
  cursor : CommittedCursor
  publication : Nat
  lifecycle : BookmarkLifecycle
deriving DecidableEq

def CommittedBookmark.published (id : BookmarkId) (name : BookmarkName) (cursor : CommittedCursor)
    (publication : Nat) : CommittedBookmark :=
  { id, name, cursor, publication, lifecycle := .available }

def CommittedBookmark.markDeleted (bookmark : CommittedBookmark) : CommittedBookmark :=
  { bookmark with lifecycle := .deleted }

structure PublishReceipt where
  request : ProducerRequestId
  range : CommittedRecordRange
  bookmark : Option CommittedBookmark
deriving DecidableEq

structure StreamCursorVector where
  cluster : ClusterId
  stream : StreamId
  positions : List CommittedCursor
  nonempty : positions ≠ []
  sameCluster : ∀ cursor ∈ positions, cursor.cluster = cluster
  sameStream : ∀ cursor ∈ positions, cursor.partition.stream = stream
  distinct : (positions.map fun cursor => cursor.partition.partition).Nodup
deriving DecidableEq

structure CommittedStreamBookmark where
  id : BookmarkId
  name : BookmarkName
  vector : StreamCursorVector
  publication : Nat
  lifecycle : BookmarkLifecycle
deriving DecidableEq

def CommittedStreamBookmark.published (id : BookmarkId) (name : BookmarkName)
    (vector : StreamCursorVector) (publication : Nat) : CommittedStreamBookmark :=
  { id, name, vector, publication, lifecycle := .available }

def CommittedStreamBookmark.markDeleted (bookmark : CommittedStreamBookmark) :
    CommittedStreamBookmark :=
  { bookmark with lifecycle := .deleted }

structure CheckpointKey where
  cluster : ClusterId
  partition : PartitionKey
  consumer : ConsumerId
deriving DecidableEq

@[ext]
structure CheckpointRevision where
  value : Nat
  nonzero : value ≠ 0

instance : DecidableEq CheckpointRevision := fun _ _ => decidable_of_iff _ CheckpointRevision.ext_iff.symm

def CheckpointRevision.initial : CheckpointRevision := ⟨1, Nat.one_ne_zero⟩

def CheckpointRevision.checkedNext (revision : CheckpointRevision) :
    Except DomainError CheckpointRevision :=
  if revision.value + 1 ≤ u64Max then .ok ⟨revision.value + 1, by omega⟩
  else .error (.invalidRange "checkpoint revision overflow")

inductive CheckpointExpectation where
  | missing
  | revision (expected : CheckpointRevision)
deriving DecidableEq

structure CheckpointMutation where
  request : MutationRequestId
  key : CheckpointKey
  expected : CheckpointExpectation
  candidate : CommittedCursor
  sameIdentity : candidate.cluster = key.cluster ∧ candidate.partition = key.partition
deriving DecidableEq

structure CommittedCheckpoint where
  key : CheckpointKey
  cursor : CommittedCursor
  revision : CheckpointRevision
deriving DecidableEq

inductive CheckpointCasResult where
  | advanced (request : MutationRequestId) (previous : Option CommittedCheckpoint)
      (checkpoint : CommittedCheckpoint)
  | conflict (request : MutationRequestId) (current : Option CommittedCheckpoint)
deriving DecidableEq

structure ReplayRange where
  partition : PartitionKey
  start : Nat
  stop : Nat
  ordered : start < stop
deriving DecidableEq

def ReplayRange.contains (range : ReplayRange) (offset : Nat) : Bool :=
  decide (range.start ≤ offset) && decide (offset < range.stop)

theorem ReplayRange.contains_iff {range : ReplayRange} {offset : Nat} :
    range.contains offset = true ↔ range.start ≤ offset ∧ offset < range.stop := by
  simp [ReplayRange.contains]

@[ext]
structure ReplayLeaseRequest where
  request : MutationRequestId
  cluster : ClusterId
  range : ReplayRange
  duration : Nat
  maxBytes : Nat
  durationNonzero : duration ≠ 0
  maxBytesNonzero : maxBytes ≠ 0

instance : DecidableEq ReplayLeaseRequest := fun _ _ => decidable_of_iff _ ReplayLeaseRequest.ext_iff.symm

structure ReplayLease where
  id : ReplayLeaseId
  request : ReplayLeaseRequest
  protectedBytes : Nat
  generation : Nat
  expiresAt : Nat
  hardExpiresAt : Nat
  lifecycle : ReplayLeaseLifecycle
deriving DecidableEq

def ReplayLease.range (lease : ReplayLease) : ReplayRange := lease.request.range

def ReplayLease.admitted (id : ReplayLeaseId) (request : ReplayLeaseRequest)
    (protectedBytes expiresAt hardExpiresAt : Nat) : ReplayLease :=
  { id, request, protectedBytes, generation := 1, expiresAt, hardExpiresAt, lifecycle := .active }

def ReplayLease.renewed (lease : ReplayLease) (expiresAt hardExpiresAt : Nat) :
    Except DomainError ReplayLease :=
  if lease.lifecycle ≠ .active then
    .error (.invalidRange "a terminal replay lease cannot be renewed")
  else if expiresAt ≤ lease.expiresAt ∨ expiresAt > hardExpiresAt then
    .error (.invalidRange "renewal must extend the lease without exceeding its hard expiry")
  else
    .ok { lease with
      expiresAt, hardExpiresAt, generation := saturatingAdd lease.generation 1 }

def ReplayLease.released (lease : ReplayLease) : ReplayLease :=
  { lease with lifecycle := .released, generation := saturatingAdd lease.generation 1 }

def ReplayLease.expired (lease : ReplayLease) : ReplayLease :=
  { lease with lifecycle := .expired, generation := saturatingAdd lease.generation 1 }

@[ext]
structure LeaseRenewal where
  request : MutationRequestId
  partition : PartitionKey
  lease : ReplayLeaseId
  duration : Nat
  durationNonzero : duration ≠ 0

instance : DecidableEq LeaseRenewal := fun _ _ => decidable_of_iff _ LeaseRenewal.ext_iff.symm

structure LeaseRelease where
  request : MutationRequestId
  partition : PartitionKey
  lease : ReplayLeaseId
deriving DecidableEq

structure RetentionRequest where
  request : MutationRequestId
  partition : PartitionKey
  targetFloor : Nat
deriving DecidableEq

structure RetentionResult where
  request : MutationRequestId
  partition : PartitionKey
  previousFloor : Nat
  floor : Nat
deriving DecidableEq

structure RetentionStatus where
  partition : PartitionKey
  logicalFloor : Nat
  reclaimCursor : Nat
  logicallyExpiredBytes : Nat
  raftOnlyBytes : Nat
deriving DecidableEq

@[ext]
structure CreateStreamSpec where
  requestId : CatalogRequestId
  name : StreamName
  partitionCount : Nat
  nonempty : partitionCount ≠ 0

instance : DecidableEq CreateStreamSpec := fun _ _ => decidable_of_iff _ CreateStreamSpec.ext_iff.symm

inductive StreamLifecycle where
  | preparing
  | active
  | deleting
  | deleted
deriving DecidableEq

structure PartitionPlacement where
  partition : Nat
  group : GroupId
deriving DecidableEq

structure StreamDescriptor where
  cluster : ClusterId
  stream : StreamId
  name : StreamName
  lifecycle : StreamLifecycle
  placements : List PartitionPlacement
  readyGroups : List GroupId
  revision : Nat
deriving DecidableEq

def StreamDescriptor.placement (descriptor : StreamDescriptor) (partition : Nat) :
    Option PartitionPlacement :=
  descriptor.placements.find? fun value => value.partition = partition

structure PartitionRoute where
  cluster : ClusterId
  stream : StreamId
  name : StreamName
  partition : Nat
  group : GroupId
  routeRevision : Nat
deriving DecidableEq

structure BootstrapSpec where
  cluster : ClusterId
  stream : StreamId
  streamName : StreamName
deriving DecidableEq

structure BootstrapResult where
  cluster : ClusterId
  stream : StreamId
  streamName : StreamName
  controlGroup : GroupId
  dataGroup : GroupId
deriving DecidableEq

end LightStream
