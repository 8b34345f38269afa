import LightStream.Kv.Store
import LightStream.Core.Operations
import LightStream.Core.Recovery
import LightStream.Core.Security
import LightStream.Storage.Retention

/-!
The stored formats of `light-stream-storage`: replicated commands and their results, the keys
of the state column family with the type of the value under each key, and the payload column
family.  A key built from a digest is the constructor applied to what the digest covers.
-/

namespace LightStream

def storageFormatVersion : Nat := 1
def controlGroupId : GroupId := ⟨1, Nat.one_ne_zero⟩
def dataGroupId : GroupId := ⟨2, two_nonzero⟩

inductive GroupKind where
  | control
  | data
deriving DecidableEq

def GroupKind.display : GroupKind → String
  | .control => "control"
  | .data => "data"

structure GroupIdentity where
  formatVersion : Nat
  clusterId : ClusterId
  groupId : GroupId
  kind : GroupKind
deriving DecidableEq

structure Membership where
  configs : List (List Nat)
  nodes : List (Nat × String)
deriving DecidableEq

structure GroupMembership where
  logId : Option GroupLogId
  membership : Membership
deriving DecidableEq

def GroupMembership.default : GroupMembership := ⟨none, ⟨[], []⟩⟩

inductive ExportCommand where
  | begin (intent : ExportIntent) (deadline : ExportDeadline)
  | acquireFence (token : ExportFenceToken)
  | recordFence (token : ExportFenceToken) (observation : ExportFenceObservation)
  | beginMaterialization (token : ExportFenceToken)
  | publishArtifact (token : ExportFenceToken) (artifact : ArtifactIdentity) (cut : QuiescentCut)
  | requestCompletion (request : MutationRequestId) (exportId : ExportId)
      (artifact : ArtifactIdentity)
  | requestAbort (request : MutationRequestId) (reason : ExportAbortReason)
      (observedClock : ExportDeadline)
  | releaseFence (token : ExportFenceToken)
  | recordRelease (token : ExportFenceToken) (observation : ExportFenceObservation)
  | finish (token : ExportFenceToken)
deriving DecidableEq

inductive GroupCommand where
  | bootstrapControl (spec : BootstrapSpec) (topology : Option ClusterTopology)
      (security : Option SecurityPolicy) (dataGroups : List GroupId) (maxStreams : Nat)
      (maxPartitionsPerStream : Nat)
  | bootstrapData (spec : BootstrapSpec)
  | createStreamIntent (spec : CreateStreamSpec) (streamId : StreamId)
  | replicaReady (streamId : StreamId) (groupId : GroupId)
  | activateStream (streamId : StreamId)
  | beginDeleteStream (streamId : StreamId)
  | finishDeleteStream (streamId : StreamId)
  | publish (batch : PublishBatch)
  | publishMany (batch : ReplicatedPublishBatch)
  | compareAndSetCheckpoint (mutation : CheckpointMutation)
  | createBookmark (id : BookmarkId) (partition : PartitionKey) (name : BookmarkName)
      (offset : Nat)
  | deleteBookmark (partition : PartitionKey) (id : BookmarkId)
  | createStreamBookmark (id : BookmarkId) (name : BookmarkName) (vector : StreamCursorVector)
  | deleteStreamBookmark (streamId : StreamId) (id : BookmarkId)
  | advanceRetention (request : RetentionRequest) (clock : ClockObservation)
  | admitReplayLease (request : ReplayLeaseRequest) (clock : ClockObservation)
  | renewReplayLease (request : LeaseRenewal) (clock : ClockObservation)
  | releaseReplayLease (request : LeaseRelease) (clock : ClockObservation)
  | maintainRetention (partition : PartitionKey) (expectedCursor : Nat) (maxRecords : Nat)
      (maxPayloadBytes : Nat) (clock : ClockObservation)
  | operationalProbe (group : GroupId)
  | beginAdministration (intent : AdministrationIntent)
  | completeAdministration (request : AdministrationRequestId)
  | abortAdministration (request : AdministrationRequestId)
  | finishAdministrationAbort (request : AdministrationRequestId)
  | initializeClusterTopology (topology : ClusterTopology)
  | initializeSecurityPolicy (policy : SecurityPolicy)
  | applySecurityMutation (mutation : SecurityMutation)
  | activateSecuredTransport (request : MutationRequestId) (topology : ClusterTopology)
      (policy : SecurityPolicy)
  | exportProtocol (command : ExportCommand)

inductive CommandFenceClass where
  | includedMutation
  | excludedMutation
  | exportProtocol
deriving DecidableEq

def GroupCommand.fenceClass : GroupCommand → CommandFenceClass
  | .bootstrapControl .. => .includedMutation
  | .bootstrapData .. => .includedMutation
  | .createStreamIntent .. => .includedMutation
  | .replicaReady .. => .includedMutation
  | .activateStream .. => .includedMutation
  | .beginDeleteStream .. => .includedMutation
  | .finishDeleteStream .. => .includedMutation
  | .publish .. => .includedMutation
  | .publishMany .. => .includedMutation
  | .createBookmark .. => .includedMutation
  | .deleteBookmark .. => .includedMutation
  | .createStreamBookmark .. => .includedMutation
  | .deleteStreamBookmark .. => .includedMutation
  | .advanceRetention .. => .includedMutation
  | .maintainRetention .. => .includedMutation
  | .beginAdministration (.replaceVoter ..) => .includedMutation
  | .compareAndSetCheckpoint .. => .excludedMutation
  | .admitReplayLease .. => .excludedMutation
  | .renewReplayLease .. => .excludedMutation
  | .releaseReplayLease .. => .excludedMutation
  | .operationalProbe .. => .excludedMutation
  | .beginAdministration (.transferLeader ..) => .excludedMutation
  | .completeAdministration .. => .excludedMutation
  | .abortAdministration .. => .excludedMutation
  | .finishAdministrationAbort .. => .excludedMutation
  | .initializeClusterTopology .. => .excludedMutation
  | .initializeSecurityPolicy .. => .excludedMutation
  | .applySecurityMutation .. => .excludedMutation
  | .activateSecuredTransport .. => .excludedMutation
  | .exportProtocol .. => .exportProtocol

structure PublishItemOutcome where
  request : ProducerRequestId
  result : Except DomainError PublishReceipt
deriving DecidableEq

inductive ExportApplyResult where
  | status (status : ExportStatus)
  | fence (observation : ExportFenceObservation)
deriving DecidableEq

inductive ApplyResult where
  | bootstrapped (result : BootstrapResult)
  | stream (descriptor : StreamDescriptor)
  | published (receipt : PublishReceipt)
  | publishedMany (outcomes : List PublishItemOutcome)
  | checkpoint (result : CheckpointCasResult)
  | bookmark (bookmark : CommittedBookmark)
  | streamBookmark (bookmark : CommittedStreamBookmark)
  | retention (result : RetentionResult)
  | replayLease (lease : ReplayLease)
  | retentionStatus (status : RetentionStatus)
  | operationalProof (proof : OperationalProof)
  | administration (operation : AdministrationOperation)
  | securityPolicy (policy : SecurityPolicy)
  | exportResult (result : ExportApplyResult)
  | rejected (error : DomainError)
  | noop
deriving DecidableEq

def ApplyResult.isRejected : ApplyResult → Bool
  | .rejected _ => true
  | _ => false

/-- The digest of a publish body: `legacy_fingerprint` and `fingerprint`. -/
inductive PublishFingerprint where
  | legacy (cluster : ClusterId) (partition : PartitionKey) (request : ProducerRequestId)
      (records : List Record)
  | v2 (cluster : ClusterId) (partition : PartitionKey) (request : ProducerRequestId)
      (records : List Record) (bookmark : Option BookmarkName)
deriving DecidableEq

def legacyFingerprint (batch : PublishBatch) : PublishFingerprint :=
  .legacy batch.cluster batch.partition batch.request batch.records

def fingerprint (batch : PublishBatch) : PublishFingerprint :=
  .v2 batch.cluster batch.partition batch.request batch.records batch.bookmark

/-- The digest of a mutation body: `retention_fingerprint` and `mutation_fingerprint`. -/
inductive MutationFingerprint where
  | retention (request : RetentionRequest)
  | checkpoint (mutation : CheckpointMutation)
  | admitLease (request : ReplayLeaseRequest)
  | renew (request : LeaseRenewal)
  | release (request : LeaseRelease)
  | security (mutation : SecurityMutation)
  | transport (request : MutationRequestId) (topology : ClusterTopology) (policy : SecurityPolicy)
deriving DecidableEq

structure PayloadId where
  logId : GroupLogId
  slot : Nat
deriving DecidableEq

structure StoredRecord where
  payloadKey : PayloadId
  payloadBytes : Nat
  cumulativeEndBytes : Nat
deriving DecidableEq

structure StoredReceipt where
  fingerprint : PublishFingerprint
  receipt : PublishReceipt
deriving DecidableEq

inductive StoredPublishRejection where
  | bookmarkNameConflict
  | invalidRange (reason : String)
deriving DecidableEq

inductive StoredPublishResult where
  | published (receipt : PublishReceipt)
  | rejected (rejection : StoredPublishRejection)
deriving DecidableEq

def StoredPublishResult.asResult : StoredPublishResult → Except DomainError PublishReceipt
  | .published receipt => .ok receipt
  | .rejected .bookmarkNameConflict => .error .bookmarkNameConflict
  | .rejected (.invalidRange reason) => .error (.invalidRange reason)

structure VersionedStoredPublishOutcome where
  fingerprint : PublishFingerprint
  result : StoredPublishResult
deriving DecidableEq

inductive StoredPublishOutcome where
  | legacy (stored : StoredReceipt)
  | versioned (stored : VersionedStoredPublishOutcome)
deriving DecidableEq

structure StoredMutationReceipt where
  fingerprint : MutationFingerprint
  result : ApplyResult
deriving DecidableEq

/-- The retry window of a session: `ProducerSessionState` and `MutationSessionState`. -/
structure SessionState where
  highestSequence : Option Nat
  retainedSequences : List Nat
deriving DecidableEq

def SessionState.default : SessionState := ⟨none, []⟩

def SessionState.covers (session : SessionState) (sequence : Nat) : Bool :=
  match session.highestSequence with
  | none => false
  | some highest => decide (sequence ≤ highest)

/-- Records a sequence in the window and gives the sequence it pushes out. -/
def SessionState.advance (session : SessionState) (window sequence : Nat) :
    SessionState × Option Nat :=
  let retained := session.retainedSequences ++ [sequence]
  if retained.length > window then
    (⟨some sequence, retained.tail⟩, retained.head?)
  else (⟨some sequence, retained⟩, none)

structure ExportSessionState where
  highestSequence : Option Nat
deriving DecidableEq

structure StoredCreateIntent where
  spec : CreateStreamSpec
  streamId : StreamId
deriving DecidableEq

inductive StateKey where
  | applied
  | membership
  | bootstrap
  | dataGroupPool
  | maxStreams
  | maxPartitions
  | assignmentCursor
  | catalogRevision
  | stream (stream : StreamId)
  | streamName (name : StreamName)
  | createIntent (request : CatalogRequestId)
  | nextOffset (partition : PartitionKey)
  | record (partition : PartitionKey) (offset : Nat)
  | receipt (partition : PartitionKey) (request : ProducerRequestId)
  | session (partition : PartitionKey) (principal : PrincipalId) (session : ProducerSessionId)
  | mutationReceipt (request : MutationRequestId)
  | mutationSession (principal : PrincipalId) (session : MutationSessionId)
  | checkpoint (partition : PartitionKey) (consumer : ConsumerId)
  | bookmarkId (id : BookmarkId)
  | bookmarkName (partition : PartitionKey) (name : BookmarkName)
  | bookmarkOrder (partition : PartitionKey) (publication : Nat)
  | bookmarkPublication (partition : PartitionKey)
  | streamBookmarkId (id : BookmarkId)
  | streamBookmarkName (stream : StreamId) (name : BookmarkName)
  | streamBookmarkOrder (stream : StreamId) (publication : Nat)
  | streamBookmarkPublication (stream : StreamId)
  | retention (partition : PartitionKey)
  | reclaimHint (partition : PartitionKey)
  | leaseClock
  | leaseBudget
  | operationalProof
  | clusterTopology
  | securityPolicy
  | activeAdministration
  | administrationRequest (request : AdministrationRequestId)
  | activeExport
  | exportEpoch
  | exportReceipt (request : MutationRequestId)
  | exportSession (principal : PrincipalId) (session : MutationSessionId)
  | mutationFence
  | leaseId (id : ReplayLeaseId)
  | leaseRequest (request : MutationRequestId)
deriving DecidableEq

@[reducible] def StateVal : StateKey → Type
  | .applied => GroupLogId
  | .membership => GroupMembership
  | .bootstrap => BootstrapSpec
  | .dataGroupPool => List GroupId
  | .maxStreams => Nat
  | .maxPartitions => Nat
  | .assignmentCursor => Nat
  | .catalogRevision => Nat
  | .stream _ => StreamDescriptor
  | .streamName _ => StreamId
  | .createIntent _ => StoredCreateIntent
  | .nextOffset _ => Nat
  | .record _ _ => StoredRecord
  | .receipt _ _ => StoredPublishOutcome
  | .session _ _ _ => SessionState
  | .mutationReceipt _ => StoredMutationReceipt
  | .mutationSession _ _ => SessionState
  | .checkpoint _ _ => CommittedCheckpoint
  | .bookmarkId _ => CommittedBookmark
  | .bookmarkName _ _ => BookmarkId
  | .bookmarkOrder _ _ => CommittedBookmark
  | .bookmarkPublication _ => Nat
  | .streamBookmarkId _ => CommittedStreamBookmark
  | .streamBookmarkName _ _ => BookmarkId
  | .streamBookmarkOrder _ _ => CommittedStreamBookmark
  | .streamBookmarkPublication _ => Nat
  | .retention _ => PartitionRetentionState
  | .reclaimHint _ => Nat
  | .leaseClock => SafeLeaseClock
  | .leaseBudget => LeaseBudget
  | .operationalProof => OperationalProof
  | .clusterTopology => ClusterTopology
  | .securityPolicy => SecurityPolicy
  | .activeAdministration => AdministrationOperation
  | .administrationRequest _ => AdministrationOperation
  | .activeExport => ActiveExport
  | .exportEpoch => Nat
  | .exportReceipt _ => ExportReceipt
  | .exportSession _ _ => ExportSessionState
  | .mutationFence => MutationFenceState
  | .leaseId _ => ReplayLease
  | .leaseRequest _ => ReplayLeaseId

abbrev sessionKey (partition : PartitionKey) (request : ProducerRequestId) : StateKey :=
  .session partition request.principal request.session

abbrev mutationSessionKey (request : MutationRequestId) : StateKey :=
  .mutationSession request.principal request.session

abbrev exportSessionKey (request : MutationRequestId) : StateKey :=
  .exportSession request.principal request.session

inductive StateBank where
  | a
  | b
deriving DecidableEq

def StateBank.inactive : StateBank → StateBank
  | .a => .b
  | .b => .a

/-- Who keeps a payload alive.  The bank bits of the source are one flag for each bank. -/
structure PayloadOwners where
  raftLog : Bool
  appliedState : Bool
  appliedBanks : StateBank → Bool

def PayloadOwners.default : PayloadOwners := ⟨false, false, fun _ => false⟩

def PayloadOwners.reachable (owners : PayloadOwners) : Bool :=
  owners.raftLog || owners.appliedState || owners.appliedBanks .a || owners.appliedBanks .b

def PayloadOwners.appliedIn (owners : PayloadOwners) (bank : StateBank) : Bool :=
  owners.appliedBanks bank

def PayloadOwners.setAppliedIn (owners : PayloadOwners) (bank : StateBank) (applied : Bool) :
    PayloadOwners :=
  { owners with appliedState := false, appliedBanks := Function.update owners.appliedBanks bank applied }

inductive PayloadKey where
  | bytes (id : PayloadId)
  | owners (id : PayloadId)
deriving DecidableEq

@[reducible] def PayloadVal : PayloadKey → Type
  | .bytes _ => Record
  | .owners _ => PayloadOwners

end LightStream
