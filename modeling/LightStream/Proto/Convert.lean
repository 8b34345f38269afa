import LightStream.Hash.Sha256
import LightStream.Proto.Errors
import LightStream.Storage.LogReader

/-!
The conversions of `convert.rs` between domain values and messages: publish requests, bookmarks,
replay leases, streams, routes and checkpoints.  The text forms of identities, and the octets of a
request digest, are parameters; numbers are those of the message's own fields.
-/

namespace LightStream

open Sha256 (Octets)

/-- How a value is written as a text, and how a text is read: what it names or why it does not. -/
structure TextForm (α : Type) where
  write : α → String
  read : String → Except String α

structure IdTexts where
  cluster : TextForm ClusterId
  stream : TextForm StreamId
  producerSession : TextForm ProducerSessionId
  mutationSession : TextForm MutationSessionId
  bookmark : TextForm BookmarkId
  lease : TextForm ReplayLeaseId
  exportId : TextForm ExportId
  digestBytes : ExportRequestDigest → Octets
  digestFromBytes : Octets → ExportRequestDigest

def TextForm.parse {α : Type} (form : TextForm α) (kind value : String) : Except DomainError α :=
  match form.read value with
  | .ok id => .ok id
  | .error reason => .error (.invalidIdentity kind reason)

section Parsing

variable (texts : IdTexts)

def ClusterId.parse (value : String) : Except DomainError ClusterId :=
  texts.cluster.parse "cluster ID" value

def StreamId.parse (value : String) : Except DomainError StreamId :=
  texts.stream.parse "stream ID" value

def ProducerSessionId.parse (value : String) : Except DomainError ProducerSessionId :=
  texts.producerSession.parse "producer session ID" value

def MutationSessionId.parse (value : String) : Except DomainError MutationSessionId :=
  texts.mutationSession.parse "mutation session ID" value

def BookmarkId.parse (value : String) : Except DomainError BookmarkId :=
  texts.bookmark.parse "bookmark ID" value

def ReplayLeaseId.parse (value : String) : Except DomainError ReplayLeaseId :=
  texts.lease.parse "replay lease ID" value

end Parsing

def boundedText (kind : String) (max : Nat) (value : String) : Except DomainError String :=
  if value = "" then .error (.invalidName kind "value is empty")
  else if value.utf8ByteSize > max then
    .error (.invalidName kind s!"value exceeds {max} UTF-8 bytes")
  else if value.toList.any isControl then
    .error (.invalidName kind "control characters are not allowed")
  else .ok value

def ConsumerId.parse (value : String) : Except DomainError ConsumerId :=
  (boundedText "consumer ID" 128 value).map ConsumerId.mk

def StreamName.parse (value : String) : Except DomainError StreamName :=
  (boundedText "stream name" 255 value).map StreamName.mk

def BookmarkName.parse (value : String) : Except DomainError BookmarkName :=
  (boundedText "bookmark name" 255 value).map BookmarkName.mk

def GroupId.new (value : Nat) : Except DomainError GroupId :=
  if nonzero : value = 0 then .error (.invalidIdentity "group ID" "zero is reserved")
  else .ok ⟨value, nonzero⟩

def CheckpointRevision.new (value : Nat) : Except DomainError CheckpointRevision :=
  if nonzero : value = 0 then
    .error (.invalidRange "checkpoint revision must be greater than zero")
  else .ok ⟨value, nonzero⟩

def ReplayRange.new (partition : PartitionKey) (start stop : Nat) :
    Except DomainError ReplayRange :=
  if ordered : start < stop then .ok ⟨partition, start, stop, ordered⟩
  else .error (.invalidRange "replay range must be nonempty and ordered")

abbrev Positive := { value : Nat // value ≠ 0 }

def leaseDurationFromMillis (value : Nat) : Except DomainError Positive :=
  if nonzero : value = 0 then .error (.invalidRange "lease duration must be greater than zero")
  else .ok ⟨value, nonzero⟩

def byteLimitNew (value : Nat) : Except DomainError Positive :=
  if nonzero : value = 0 then .error (.invalidRange "byte limit must be greater than zero")
  else .ok ⟨value, nonzero⟩

def cursorFault (cluster : ClusterId) (stream : StreamId) (partitions : List Nat) :
    List CommittedCursor → Option String
  | [] => none
  | cursor :: rest =>
      if cursor.cluster ≠ cluster then some "every cursor must belong to the vector cluster"
      else if cursor.partition.stream ≠ stream then
        some "every cursor must belong to the vector stream"
      else if cursor.partition.partition ∈ partitions then
        some "a stream cursor vector cannot repeat a partition"
      else cursorFault cluster stream (cursor.partition.partition :: partitions) rest

theorem cursorFault_none {cluster : ClusterId} {stream : StreamId}
    {positions : List CommittedCursor} :
    ∀ {partitions : List Nat}, cursorFault cluster stream partitions positions = none ↔
      (∀ cursor ∈ positions, cursor.cluster = cluster) ∧
      (∀ cursor ∈ positions, cursor.partition.stream = stream) ∧
      (positions.map fun cursor => cursor.partition.partition).Nodup ∧
      ∀ cursor ∈ positions, cursor.partition.partition ∉ partitions := by
  induction positions with
  | nil => simp [cursorFault]
  | cons cursor rest ih =>
      intro partitions
      rw [cursorFault, List.forall_mem_cons, List.forall_mem_cons, List.forall_mem_cons,
        List.map_cons, List.nodup_cons]
      by_cases sameCluster : cursor.cluster = cluster
      · by_cases sameStream : cursor.partition.stream = stream
        · by_cases repeated : cursor.partition.partition ∈ partitions
          · simp [sameCluster, sameStream, repeated]
          · rw [if_neg (not_not.mpr sameCluster), if_neg (not_not.mpr sameStream),
              if_neg repeated, ih]
            constructor
            · rintro ⟨clusters, streams, distinct, fresh⟩
              refine ⟨⟨sameCluster, clusters⟩, ⟨sameStream, streams⟩, ⟨?_, distinct⟩, repeated, ?_⟩
              · intro member
                obtain ⟨other, listed, same⟩ := List.mem_map.mp member
                exact fresh other listed (same ▸ List.mem_cons_self)
              · intro other listed member
                exact fresh other listed (List.mem_cons_of_mem _ member)
            · rintro ⟨⟨_, clusters⟩, ⟨_, streams⟩, ⟨apart, distinct⟩, _, fresh⟩
              refine ⟨clusters, streams, distinct, ?_⟩
              intro other listed member
              rcases List.mem_cons.mp member with same | earlier
              · exact apart (List.mem_map.mpr ⟨other, listed, same⟩)
              · exact fresh other listed earlier
        · simp [sameCluster, sameStream]
      · simp [sameCluster]

def StreamCursorVector.new (stream : StreamId) (positions : List CommittedCursor) :
    Except DomainError StreamCursorVector :=
  match found : positions with
  | [] => .error (.invalidRange "a stream cursor vector needs at least one partition")
  | first :: _ =>
      match fault : cursorFault first.cluster stream [] positions with
      | some reason => .error (.invalidRange reason)
      | none =>
          .ok ⟨first.cluster, stream, positions, by rw [found]; exact List.cons_ne_nil _ _,
            (cursorFault_none.mp fault).1, (cursorFault_none.mp fault).2.1,
            (cursorFault_none.mp fault).2.2.1⟩

/-- What `PublishProbe::new` accepts: the same records as a batch, and no bookmark. -/
structure PublishProbe where
  cluster : ClusterId
  partition : PartitionKey
  request : ProducerRequestId
  records : List Record
deriving DecidableEq

/-- `PublishProbe::new` makes the checks of `PublishBatch::new`. -/
def PublishProbe.new (cluster : ClusterId) (partition : PartitionKey) (request : ProducerRequestId)
    (records : List Record) : Except DomainError PublishProbe := do
  let batch ← PublishBatch.new cluster partition request records
  .ok ⟨batch.cluster, batch.partition, batch.request, batch.records⟩

/-! ### The messages -/

structure PublishRequestWire where
  clusterId : String
  streamId : String
  partitionId : Nat
  requestId : Option ProducerRequestWire
  records : List Record
  routeGroupId : Nat
  routeRevision : Nat
  bookmarkName : String
deriving DecidableEq

structure BookmarkWire where
  bookmarkId : String
  name : String
  clusterId : String
  streamId : String
  partitionId : Nat
  nextOffset : Nat
  publicationSequence : Nat
  lifecycle : String
deriving DecidableEq

structure StreamBookmarkPositionWire where
  partitionId : Nat
  nextOffset : Nat
deriving DecidableEq

structure StreamBookmarkWire where
  bookmarkId : String
  name : String
  clusterId : String
  streamId : String
  positions : List StreamBookmarkPositionWire
  publicationSequence : Nat
  lifecycle : String
deriving DecidableEq

structure MutationRequestWire where
  principalId : String
  mutationSessionId : String
  sequence : Nat
deriving DecidableEq

structure ReplayRangeWire where
  streamId : String
  partitionId : Nat
  startOffset : Nat
  endOffset : Nat
deriving DecidableEq

structure ReplayLeaseWire where
  leaseId : String
  admissionRequest : Option MutationRequestWire
  clusterId : String
  range : Option ReplayRangeWire
  protectedBytes : Nat
  generation : Nat
  expiresAtUnixMs : Nat
  hardExpiresAtUnixMs : Nat
  lifecycle : String
  requestedDurationMs : Nat
  requestedMaxBytes : Nat
deriving DecidableEq

structure PartitionPlacementWire where
  partitionId : Nat
  groupId : Nat
deriving DecidableEq

structure StreamDescriptionWire where
  clusterId : String
  streamId : String
  streamName : String
  lifecycle : String
  placements : List PartitionPlacementWire
  readyGroupIds : List Nat
  revision : Nat
deriving DecidableEq

structure PartitionRouteWire where
  clusterId : String
  streamId : String
  streamName : String
  partitionId : Nat
  groupId : Nat
  routeRevision : Nat
  leader : Option LeaderHintWire
deriving DecidableEq

structure CheckpointKeyWire where
  clusterId : String
  streamId : String
  partitionId : Nat
  consumerId : String
deriving DecidableEq

structure ConsumerCheckpointWire where
  key : Option CheckpointKeyWire
  nextOffset : Nat
  revision : Nat
deriving DecidableEq

structure CheckpointAdvancedWire where
  requestId : Option MutationRequestWire
  previous : Option ConsumerCheckpointWire
  checkpoint : Option ConsumerCheckpointWire
deriving DecidableEq

structure CheckpointConflictWire where
  requestId : Option MutationRequestWire
  current : Option ConsumerCheckpointWire
deriving DecidableEq

/-- The result of a checkpoint response; an error carries what it decodes to. -/
inductive CheckpointCasWire where
  | advanced (value : CheckpointAdvancedWire)
  | conflict (value : CheckpointConflictWire)
  | error (value : Except DomainError DomainError)

namespace Convert

variable (texts : IdTexts)

def required {α : Type} (error : DomainError) : Option α → Except DomainError α
  | some value => .ok value
  | none => .error error

def requestIdRequired : DomainError := .invalidIdentity "mutation request ID" "request_id is required"

/-! ### Requests -/

def requestIdToWire (request : ProducerRequestId) : ProducerRequestWire :=
  ⟨request.principal.text, texts.producerSession.write request.session, request.sequence⟩

def mutationRequestIdToWire (value : MutationRequestId) : MutationRequestWire :=
  ⟨value.principal.text, texts.mutationSession.write value.session, value.sequence⟩

def mutationRequestIdFromWire (value : MutationRequestWire) :
    Except DomainError MutationRequestId := do
  let principal ← PrincipalId.parse value.principalId
  let session ← MutationSessionId.parse texts value.mutationSessionId
  .ok ⟨principal, session, value.sequence⟩

def publishRequestToWire (batch : PublishBatch) (route : PartitionRoute) : PublishRequestWire where
  clusterId := texts.cluster.write batch.cluster
  streamId := texts.stream.write batch.partition.stream
  partitionId := batch.partition.partition
  requestId := some (requestIdToWire texts batch.request)
  records := batch.records
  routeGroupId := route.group.value
  routeRevision := route.routeRevision
  bookmarkName := (batch.bookmark.map BookmarkName.text).getD ""

def publishProbeFromWire (request : PublishRequestWire) : Except DomainError PublishProbe := do
  let cluster ← ClusterId.parse texts request.clusterId
  let stream ← StreamId.parse texts request.streamId
  let requestId ← required (.invalidIdentity "producer request ID" "request_id is required")
    request.requestId
  let principal ← PrincipalId.parse requestId.principalId
  let session ← ProducerSessionId.parse texts requestId.producerSessionId
  PublishProbe.new cluster ⟨stream, request.partitionId⟩ ⟨principal, session, requestId.sequence⟩
    request.records

def publishBatchFromWire (request : PublishRequestWire) : Except DomainError PublishBatch := do
  let bookmark ← if request.bookmarkName ≠ "" then
      (BookmarkName.parse request.bookmarkName).map some
    else .ok none
  let probe ← publishProbeFromWire texts request
  let batch ← PublishBatch.new probe.cluster probe.partition probe.request probe.records
  match bookmark with
  | some bookmark => .ok (batch.withBookmark bookmark)
  | none => .ok batch

def publishBatchAndRouteFromWire (request : PublishRequestWire) :
    Except DomainError (PublishBatch × Option GroupId × Option Nat) := do
  let group ← if request.routeGroupId ≠ 0 then (GroupId.new request.routeGroupId).map some
    else .ok none
  let revision := if request.routeRevision ≠ 0 then some request.routeRevision else none
  let batch ← publishBatchFromWire texts request
  .ok (batch, group, revision)

/-! ### Bookmarks -/

def lifecycleToWire : BookmarkLifecycle → String
  | .available => "available"
  | .deleted => "deleted"

def lifecycleFromWire (kind value : String) : Except DomainError BookmarkLifecycle :=
  match value with
  | "available" => .ok .available
  | "deleted" => .ok .deleted
  | other => .error (.invalidName kind s!"unknown lifecycle {reprStr other}")

def bookmarkToWire (bookmark : CommittedBookmark) : BookmarkWire where
  bookmarkId := texts.bookmark.write bookmark.id
  name := bookmark.name.text
  clusterId := texts.cluster.write bookmark.cursor.cluster
  streamId := texts.stream.write bookmark.cursor.partition.stream
  partitionId := bookmark.cursor.partition.partition
  nextOffset := bookmark.cursor.nextOffset
  publicationSequence := bookmark.publication
  lifecycle := lifecycleToWire bookmark.lifecycle

def bookmarkFromWire (value : BookmarkWire) : Except DomainError CommittedBookmark := do
  let lifecycle ← lifecycleFromWire "bookmark lifecycle" value.lifecycle
  let id ← BookmarkId.parse texts value.bookmarkId
  let name ← BookmarkName.parse value.name
  let cluster ← ClusterId.parse texts value.clusterId
  let stream ← StreamId.parse texts value.streamId
  let bookmark := CommittedBookmark.published id name
    ⟨cluster, ⟨stream, value.partitionId⟩, value.nextOffset⟩ value.publicationSequence
  if lifecycle = .deleted then .ok bookmark.markDeleted else .ok bookmark

def streamBookmarkToWire (bookmark : CommittedStreamBookmark) : StreamBookmarkWire where
  bookmarkId := texts.bookmark.write bookmark.id
  name := bookmark.name.text
  clusterId := texts.cluster.write bookmark.vector.cluster
  streamId := texts.stream.write bookmark.vector.stream
  positions := bookmark.vector.positions.map fun cursor =>
    ⟨cursor.partition.partition, cursor.nextOffset⟩
  publicationSequence := bookmark.publication
  lifecycle := lifecycleToWire bookmark.lifecycle

def streamBookmarkFromWire (value : StreamBookmarkWire) :
    Except DomainError CommittedStreamBookmark := do
  let cluster ← ClusterId.parse texts value.clusterId
  let stream ← StreamId.parse texts value.streamId
  let vector ← StreamCursorVector.new stream (value.positions.map fun position =>
    ⟨cluster, ⟨stream, position.partitionId⟩, position.nextOffset⟩)
  let id ← BookmarkId.parse texts value.bookmarkId
  let name ← BookmarkName.parse value.name
  let bookmark := CommittedStreamBookmark.published id name vector value.publicationSequence
  match ← lifecycleFromWire "stream bookmark lifecycle" value.lifecycle with
  | .available => .ok bookmark
  | .deleted => .ok bookmark.markDeleted

/-! ### Replay leases -/

def replayRangeFromWire (value : ReplayRangeWire) : Except DomainError ReplayRange := do
  let stream ← StreamId.parse texts value.streamId
  ReplayRange.new ⟨stream, value.partitionId⟩ value.startOffset value.endOffset

def replayRangeToWire (value : ReplayRange) : ReplayRangeWire :=
  ⟨texts.stream.write value.partition.stream, value.partition.partition, value.start, value.stop⟩

def leaseLifecycleToWire : ReplayLeaseLifecycle → String
  | .active => "active"
  | .released => "released"
  | .expired => "expired"

def leaseLifecycleFromWire (value : String) : Except DomainError ReplayLeaseLifecycle :=
  match value with
  | "active" => .ok .active
  | "released" => .ok .released
  | "expired" => .ok .expired
  | other => .error (.invalidName "replay lease lifecycle" s!"unknown lifecycle {reprStr other}")

def replayLeaseToWire (value : ReplayLease) : ReplayLeaseWire where
  leaseId := texts.lease.write value.id
  admissionRequest := some (mutationRequestIdToWire texts value.request.request)
  clusterId := texts.cluster.write value.request.cluster
  range := some (replayRangeToWire texts value.range)
  protectedBytes := value.protectedBytes
  generation := value.generation
  expiresAtUnixMs := value.expiresAt
  hardExpiresAtUnixMs := value.hardExpiresAt
  lifecycle := leaseLifecycleToWire value.lifecycle
  requestedDurationMs := value.request.duration
  requestedMaxBytes := value.request.maxBytes

def replayLeaseFromWire (value : ReplayLeaseWire) : Except DomainError ReplayLease := do
  let admission ← required (.invalidIdentity "mutation request ID" "admission_request is required")
    value.admissionRequest
  let request ← mutationRequestIdFromWire texts admission
  let cluster ← ClusterId.parse texts value.clusterId
  let range ← required (.invalidRange "replay range is required") value.range
  let range ← replayRangeFromWire texts range
  let duration ← leaseDurationFromMillis value.requestedDurationMs
  let maxBytes ← byteLimitNew value.requestedMaxBytes
  let lifecycle ← leaseLifecycleFromWire value.lifecycle
  let id ← ReplayLeaseId.parse texts value.leaseId
  .ok {
    id
    request := ⟨request, cluster, range, duration.1, maxBytes.1, duration.2, maxBytes.2⟩
    protectedBytes := value.protectedBytes
    generation := value.generation
    expiresAt := value.expiresAtUnixMs
    hardExpiresAt := value.hardExpiresAtUnixMs
    lifecycle }

/-! ### Streams and routes -/

def streamLifecycleToWire : StreamLifecycle → String
  | .preparing => "preparing"
  | .active => "active"
  | .deleting => "deleting"
  | .deleted => "deleted"

def streamLifecycleFromWire (value : String) : Except DomainError StreamLifecycle :=
  match value with
  | "preparing" => .ok .preparing
  | "active" => .ok .active
  | "deleting" => .ok .deleting
  | "deleted" => .ok .deleted
  | other => .error (.invalidName "stream lifecycle" s!"unknown lifecycle {reprStr other}")

def streamToWire (stream : StreamDescriptor) : StreamDescriptionWire where
  clusterId := texts.cluster.write stream.cluster
  streamId := texts.stream.write stream.stream
  streamName := stream.name.text
  lifecycle := streamLifecycleToWire stream.lifecycle
  placements := stream.placements.map fun value => ⟨value.partition, value.group.value⟩
  readyGroupIds := stream.readyGroups.map GroupId.value
  revision := stream.revision

def placementFromWire (item : PartitionPlacementWire) : Except DomainError PartitionPlacement := do
  let group ← GroupId.new item.groupId
  .ok ⟨item.partitionId, group⟩

def streamFromWire (value : StreamDescriptionWire) : Except DomainError StreamDescriptor := do
  let lifecycle ← streamLifecycleFromWire value.lifecycle
  let cluster ← ClusterId.parse texts value.clusterId
  let stream ← StreamId.parse texts value.streamId
  let name ← StreamName.parse value.streamName
  let placements ← value.placements.mapM placementFromWire
  let readyGroups ← value.readyGroupIds.mapM GroupId.new
  .ok ⟨cluster, stream, name, lifecycle, placements, readyGroups, value.revision⟩

def routeToWire (route : PartitionRoute) (leader : Option LeaderHint) : PartitionRouteWire where
  clusterId := texts.cluster.write route.cluster
  streamId := texts.stream.write route.stream
  streamName := route.name.text
  partitionId := route.partition
  groupId := route.group.value
  routeRevision := route.routeRevision
  leader := leader.map leaderHintToWire

def routeFromWire (value : PartitionRouteWire) : Except DomainError PartitionRoute := do
  let cluster ← ClusterId.parse texts value.clusterId
  let stream ← StreamId.parse texts value.streamId
  let name ← StreamName.parse value.streamName
  let group ← GroupId.new value.groupId
  .ok ⟨cluster, stream, name, value.partitionId, group, value.routeRevision⟩

/-! ### Checkpoints -/

def checkpointKeyToWire (key : CheckpointKey) : CheckpointKeyWire :=
  ⟨texts.cluster.write key.cluster, texts.stream.write key.partition.stream,
    key.partition.partition, key.consumer.text⟩

def checkpointKeyFromWire (value : CheckpointKeyWire) : Except DomainError CheckpointKey := do
  let cluster ← ClusterId.parse texts value.clusterId
  let stream ← StreamId.parse texts value.streamId
  let consumer ← ConsumerId.parse value.consumerId
  .ok ⟨cluster, ⟨stream, value.partitionId⟩, consumer⟩

def checkpointToWire (value : CommittedCheckpoint) : ConsumerCheckpointWire :=
  ⟨some (checkpointKeyToWire texts value.key), value.cursor.nextOffset, value.revision.value⟩

def checkpointFromWire (value : ConsumerCheckpointWire) : Except DomainError CommittedCheckpoint := do
  let key ← required (.invalidIdentity "checkpoint key" "key is required") value.key
  let key ← checkpointKeyFromWire texts key
  let revision ← CheckpointRevision.new value.revision
  .ok ⟨key, ⟨key.cluster, key.partition, value.nextOffset⟩, revision⟩

/-- `value.map(checkpoint_from_wire).transpose()`. -/
def optionalCheckpointFromWire :
    Option ConsumerCheckpointWire → Except DomainError (Option CommittedCheckpoint)
  | none => .ok none
  | some value => (checkpointFromWire texts value).map some

def checkpointCasToWire : CheckpointCasResult → CheckpointCasWire
  | .advanced request previous checkpoint =>
      .advanced ⟨some (mutationRequestIdToWire texts request),
        previous.map (checkpointToWire texts), some (checkpointToWire texts checkpoint)⟩
  | .conflict request current =>
      .conflict ⟨some (mutationRequestIdToWire texts request), current.map (checkpointToWire texts)⟩

def checkpointCasFromWire : CheckpointCasWire → Except DomainError CheckpointCasResult
  | .advanced value => do
      let request ← required requestIdRequired value.requestId
      let request ← mutationRequestIdFromWire texts request
      let previous ← optionalCheckpointFromWire texts value.previous
      let checkpoint ← required
        (.invalidIdentity "consumer checkpoint" "checkpoint is required") value.checkpoint
      let checkpoint ← checkpointFromWire texts checkpoint
      .ok (.advanced request previous checkpoint)
  | .conflict value => do
      let request ← required requestIdRequired value.requestId
      let request ← mutationRequestIdFromWire texts request
      let current ← optionalCheckpointFromWire texts value.current
      .ok (.conflict request current)
  | .error value => do
      let error ← value
      .error error

end Convert

end LightStream
