import LightStream.Storage.GroupDb

/-!
Bootstrap, the stream catalog and the bookmark commands.
-/

namespace LightStream

namespace GroupView

def mutationFenceState (view : GroupView) : MutationFenceState :=
  (view.get .mutationFence).getD MutationFenceState.default

def bootstrapResult (spec : BootstrapSpec) : ApplyResult :=
  .bootstrapped ⟨spec.cluster, spec.stream, spec.streamName, controlGroupId, dataGroupId⟩

def wrongKind (expected actual : GroupKind) : DomainError :=
  .identityMismatch (expected.display ++ " command reached " ++ actual.display ++ " group")

def applyBootstrap (view : GroupView) (spec : BootstrapSpec) (expectedKind : GroupKind) :
    Applied :=
  if view.identity.kind ≠ expectedKind then reject (wrongKind expectedKind view.identity.kind)
  else if spec.cluster ≠ view.identity.clusterId then
    reject (.identityMismatch "bootstrap cluster does not match the group manifest")
  else
    let fence : StateBatch :=
      match view.get .mutationFence with
      | none => [.put .mutationFence MutationFenceState.default]
      | some _ => []
    match view.get .bootstrap with
    | some existing =>
        if existing ≠ spec then
          reject (.bootstrapConflict "bootstrap stream identity differs")
        else reply (bootstrapResult spec) fence
    | none => reply (bootstrapResult spec) (.put .bootstrap spec :: fence)

/-- Whether a stored control configuration is the one a bootstrap command carries. -/
def SameConfiguration (view : GroupView) (topology : Option ClusterTopology)
    (security : Option SecurityPolicy) (dataGroups : List GroupId)
    (maxStreams maxPartitions : Nat) : Prop :=
  view.get .dataGroupPool = some dataGroups ∧
    (topology.isNone = true ∨ view.get .clusterTopology = topology) ∧
    (security.isNone = true ∨ view.get .securityPolicy = security) ∧
    view.get .maxStreams = some maxStreams ∧ view.get .maxPartitions = some maxPartitions

instance (view : GroupView) (topology : Option ClusterTopology) (security : Option SecurityPolicy)
    (dataGroups : List GroupId) (maxStreams maxPartitions : Nat) :
    Decidable (view.SameConfiguration topology security dataGroups maxStreams maxPartitions) :=
  inferInstanceAs (Decidable (_ ∧ _ ∧ _ ∧ _ ∧ _))

def configurationDiffers : DomainError :=
  .bootstrapConflict "bounded group pool or catalog limits differ"

def bootstrapDescriptor (spec : BootstrapSpec) (group : GroupId) : StreamDescriptor where
  cluster := spec.cluster
  stream := spec.stream
  name := spec.streamName
  lifecycle := .active
  placements := [⟨0, group⟩]
  readyGroups := [group]
  revision := 1

/-- The configuration writes of a first bootstrap, up to the security policy. -/
def bootstrapConfiguration (topology : Option ClusterTopology) (dataGroups : List GroupId) :
    StateBatch :=
  .put .dataGroupPool dataGroups ::
    match topology with
    | none => []
    | some topology => [.put .clusterTopology topology]

def bootstrapCatalog (spec : BootstrapSpec) (group : GroupId) (maxStreams maxPartitions : Nat) :
    StateBatch :=
  [.put .maxStreams maxStreams, .put .maxPartitions maxPartitions, .put .assignmentCursor 1,
    .put .catalogRevision 1, .put (.stream spec.stream) (bootstrapDescriptor spec group),
    .put (.streamName spec.streamName) spec.stream]

def applyBootstrapControl (view : GroupView) (spec : BootstrapSpec)
    (topology : Option ClusterTopology) (security : Option SecurityPolicy)
    (dataGroups : List GroupId) (maxStreams maxPartitions : Nat) : Applied :=
  match dataGroups with
  | [] => reject (.invalidRange "invalid bounded catalog configuration")
  | group :: _ =>
      if maxStreams = 0 ∨ maxPartitions = 0 ∨ controlGroupId ∈ dataGroups then
        reject (.invalidRange "invalid bounded catalog configuration")
      else
        match view.applyBootstrap spec .control with
        | .error error => .error error
        | .ok (.rejected error, write) => .ok (.rejected error, write)
        | .ok (result, write) =>
            -- The puts made so far stay in the batch on every path below.
            match view.get .dataGroupPool with
            | some _ =>
                if view.SameConfiguration topology security dataGroups maxStreams maxPartitions then
                  .ok (result, write)
                else .ok (.rejected configurationDiffers, write)
            | none =>
                let configured := write.state ++ bootstrapConfiguration topology dataGroups
                let catalog := bootstrapCatalog spec group maxStreams maxPartitions
                match security with
                | none => .ok (result, ⟨configured ++ catalog, write.payload⟩)
                | some policy =>
                    if policy.cluster ≠ spec.cluster then
                      .ok (.rejected (.identityMismatch
                        "bootstrap security policy cluster differs"), ⟨configured, write.payload⟩)
                    else
                      .ok (result, ⟨configured ++ .put .securityPolicy policy :: catalog,
                        write.payload⟩)

def nextCatalogRevision (view : GroupView) : Nat :=
  saturatingAdd ((view.get .catalogRevision).getD 0) 1

def assignPlacements (groups : List GroupId) (first : GroupId) (cursor count : Nat) :
    List PartitionPlacement :=
  (List.range count).map fun partition =>
    ⟨partition, groups.getD ((cursor + partition) % groups.length) first⟩

def applyCreateStream (view : GroupView) (spec : CreateStreamSpec) (streamId : StreamId) :
    Applied :=
  if view.identity.kind ≠ .control then
    reject (.identityMismatch "create stream intent reached a data group")
  else
    match view.get .bootstrap with
    | none => reject .notBootstrapped
    | some bootstrap =>
        match view.get (.createIntent spec.requestId) with
        | some existing =>
            if existing.spec ≠ spec then
              reject (.bootstrapConflict
                "catalog request identity was reused with different intent")
            else
              match view.get (.stream existing.streamId) with
              | none => .error (.other "catalog intent references a missing stream")
              | some descriptor => reply (.stream descriptor) []
        | none =>
            if (view.get (.streamName spec.name)).isSome = true then reject .streamNameConflict
            else
              match view.get .maxStreams with
              | none => .error (.other "catalog stream limit is missing")
              | some maxStreams =>
                  match view.get .maxPartitions with
                  | none => .error (.other "catalog partition limit is missing")
                  | some maxPartitions =>
                      if spec.partitionCount > maxPartitions then
                        reject (.resourceLimit "partitions_per_stream" maxPartitions)
                      else if (view.streams.filter
                          fun descriptor => descriptor.lifecycle ≠ .deleted).length ≥ maxStreams then
                        reject (.resourceLimit "streams" maxStreams)
                      else if (view.get (.stream streamId)).isSome = true then
                        reject (.identityMismatch "new stream ID already exists")
                      else
                        match view.get .dataGroupPool with
                        | none => .error (.other "data group pool is missing")
                        | some [] => .error (.other "attempt to calculate a remainder by zero")
                        | some (first :: others) =>
                            let cursor := (view.get .assignmentCursor).getD 0
                            let revision := view.nextCatalogRevision
                            let descriptor : StreamDescriptor :=
                              { cluster := bootstrap.cluster
                                stream := streamId
                                name := spec.name
                                lifecycle := .preparing
                                placements := assignPlacements (first :: others) first cursor
                                  spec.partitionCount
                                readyGroups := []
                                revision := revision }
                            reply (.stream descriptor)
                              [.put .catalogRevision revision,
                                .put (.createIntent spec.requestId) ⟨spec, streamId⟩,
                                .put (.stream streamId) descriptor,
                                .put (.streamName spec.name) streamId,
                                .put .assignmentCursor (cursor + spec.partitionCount)]

def applyReplicaReady (view : GroupView) (streamId : StreamId) (groupId : GroupId) : Applied :=
  match view.get (.stream streamId) with
  | none => reject .streamNotFound
  | some descriptor =>
      if descriptor.lifecycle ≠ .preparing then reply (.stream descriptor) []
      else if ¬∃ placement ∈ descriptor.placements, placement.group = groupId then
        reject .staleRoute
      else if groupId ∈ descriptor.readyGroups then reply (.stream descriptor) []
      else
        let ready := (descriptor.readyGroups ++ [groupId]).insertionSort (· ≤ ·)
        let revision := view.nextCatalogRevision
        let updated := { descriptor with readyGroups := ready, revision }
        reply (.stream updated) [.put .catalogRevision revision, .put (.stream streamId) updated]

def moveStream (view : GroupView) (streamId : StreamId) (descriptor : StreamDescriptor)
    (lifecycle : StreamLifecycle) (more : StateBatch) : Applied :=
  let revision := view.nextCatalogRevision
  let updated := { descriptor with lifecycle, revision }
  reply (.stream updated)
    (.put .catalogRevision revision :: .put (.stream streamId) updated :: more)

def applyActivateStream (view : GroupView) (streamId : StreamId) : Applied :=
  match view.get (.stream streamId) with
  | none => reject .streamNotFound
  | some descriptor =>
      if descriptor.lifecycle = .active then reply (.stream descriptor) []
      else if descriptor.lifecycle ≠ .preparing then reject .streamNotActive
      else if (descriptor.placements.map PartitionPlacement.group).toFinset ≠
          descriptor.readyGroups.toFinset then reject .clusterForming
      else view.moveStream streamId descriptor .active []

def applyBeginDelete (view : GroupView) (streamId : StreamId) : Applied :=
  match view.get (.stream streamId) with
  | none => reject .streamNotFound
  | some descriptor =>
      if descriptor.lifecycle = .deleting ∨ descriptor.lifecycle = .deleted then
        reply (.stream descriptor) []
      else if descriptor.lifecycle ≠ .active then reject .streamNotActive
      else view.moveStream streamId descriptor .deleting []

def applyFinishDelete (view : GroupView) (streamId : StreamId) : Applied :=
  match view.get (.stream streamId) with
  | none => reject .streamNotFound
  | some descriptor =>
      if descriptor.lifecycle = .deleted then reply (.stream descriptor) []
      else if descriptor.lifecycle ≠ .deleting then reject .streamNotActive
      else view.moveStream streamId descriptor .deleted [.delete (.streamName descriptor.name)]

def createBookmarkRecord (view : GroupView) (id : BookmarkId) (partition : PartitionKey)
    (name : BookmarkName) (offset maximumOffset : Nat) : Applied :=
  if view.identity.kind ≠ .data then
    reject (.identityMismatch "bookmark command reached the control group")
  else if offset > maximumOffset then
    reject (.invalidRange ("bookmark offset " ++ toString offset ++ " exceeds committed tail " ++
      toString maximumOffset))
  else
    match view.get (.bookmarkId id) with
    | some existing =>
        if existing.name = name ∧ existing.cursor.partition = partition ∧
            existing.cursor.nextOffset = offset then reply (.bookmark existing) []
        else reject .bookmarkNameConflict
    | none =>
        if (view.get (.bookmarkName partition name)).isSome = true then
          reject .bookmarkNameConflict
        else
          let publication :=
            saturatingAdd ((view.get (.bookmarkPublication partition)).getD 0) 1
          let bookmark := CommittedBookmark.published id name
            ⟨view.identity.clusterId, partition, offset⟩ publication
          reply (.bookmark bookmark)
            [.put (.bookmarkId id) bookmark, .put (.bookmarkName partition name) id,
              .put (.bookmarkOrder partition publication) bookmark,
              .put (.bookmarkPublication partition) publication]

def applyCreateBookmark (view : GroupView) (id : BookmarkId) (partition : PartitionKey)
    (name : BookmarkName) (offset : Nat) : Applied :=
  view.createBookmarkRecord id partition name offset
    ((view.get (.nextOffset partition)).getD 0)

def applyDeleteBookmark (view : GroupView) (partition : PartitionKey) (id : BookmarkId) :
    Applied :=
  match view.get (.bookmarkId id) with
  | none => reject .bookmarkNotFound
  | some bookmark =>
      if bookmark.cursor.partition ≠ partition then
        reject (.identityMismatch "bookmark belongs to another partition")
      else if bookmark.lifecycle = .deleted then reply (.bookmark bookmark) []
      else
        reply (.bookmark bookmark.markDeleted)
          [.delete (.bookmarkName partition bookmark.name),
            .delete (.bookmarkOrder partition bookmark.publication),
            .put (.bookmarkId id) bookmark.markDeleted]

def coversPartitions (stream : StreamDescriptor) (vector : StreamCursorVector) : Bool :=
  let wanted := (stream.placements.map PartitionPlacement.partition).toFinset
  let actual := (vector.positions.map fun cursor => cursor.partition.partition).toFinset
  decide (wanted = actual ∧ actual.card = vector.positions.length)

def applyCreateStreamBookmark (view : GroupView) (id : BookmarkId) (name : BookmarkName)
    (vector : StreamCursorVector) : Applied :=
  if view.identity.kind ≠ .control then
    reject (.identityMismatch "stream bookmark reached a data group")
  else if vector.cluster ≠ view.identity.clusterId then
    reject (.identityMismatch "stream bookmark cluster does not match the control group")
  else
    match view.get (.stream vector.stream) with
    | none => reject .streamNotFound
    | some stream =>
        if stream.lifecycle ≠ .active then reject .streamNotActive
        else if coversPartitions stream vector = false then
          reject (.invalidRange
            "stream bookmark must contain one position for every stream partition")
        else
          match view.get (.streamBookmarkId id) with
          | some existing =>
              if existing.name = name ∧ existing.vector = vector then
                reply (.streamBookmark existing) []
              else reject .bookmarkNameConflict
          | none =>
              if (view.get (.streamBookmarkName vector.stream name)).isSome = true then
                reject .bookmarkNameConflict
              else
                let publication :=
                  saturatingAdd ((view.get (.streamBookmarkPublication vector.stream)).getD 0) 1
                let bookmark := CommittedStreamBookmark.published id name vector publication
                reply (.streamBookmark bookmark)
                  [.put (.streamBookmarkId id) bookmark,
                    .put (.streamBookmarkName vector.stream name) id,
                    .put (.streamBookmarkOrder vector.stream publication) bookmark,
                    .put (.streamBookmarkPublication vector.stream) publication]

def applyDeleteStreamBookmark (view : GroupView) (streamId : StreamId) (id : BookmarkId) :
    Applied :=
  match view.get (.streamBookmarkId id) with
  | none => reject .bookmarkNotFound
  | some bookmark =>
      if bookmark.vector.stream ≠ streamId then reject .bookmarkNotFound
      else if bookmark.lifecycle = .deleted then reply (.streamBookmark bookmark) []
      else
        reply (.streamBookmark bookmark.markDeleted)
          [.delete (.streamBookmarkName streamId bookmark.name),
            .delete (.streamBookmarkOrder streamId bookmark.publication),
            .put (.streamBookmarkId id) bookmark.markDeleted]

end GroupView

end LightStream
