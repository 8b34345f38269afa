import LightStream.Storage.Administration
import LightStream.Storage.Exports
import LightStream.Storage.Publish

/-!
Applying one committed log entry: the fence check, the dispatch to the command's handler, and
the commit of its write batch together with the applied position.
-/

namespace LightStream

inductive EntryPayload where
  | blank
  | membership (membership : Membership)
  | normal (command : GroupCommand)

structure GroupEntry where
  logId : GroupLogId
  payload : EntryPayload

namespace GroupView

def priorPublishOutcome (view : GroupView) (batch : PublishBatch) :
    Option (Except DomainError PublishReceipt) :=
  (view.get (.receipt batch.partition batch.request)).map fun stored => stored.answer batch

def publishSessionCovers (view : GroupView) (batch : PublishBatch) : Bool :=
  ((view.get (sessionKey batch.partition batch.request)).getD SessionState.default).covers
    batch.request.sequence

def replayPublish (view : GroupView) (batch : PublishBatch) : Option ApplyResult :=
  match view.priorPublishOutcome batch with
  | some (.ok receipt) => some (.published receipt)
  | some (.error error) => some (.rejected error)
  | none => if view.publishSessionCovers batch then some (.rejected .receiptExpired) else none

def exportInProgress (exportId : ExportId) : DomainError :=
  .exportInProgress exportId .definiteNoCommit

/-- One request of `replay_publish_many`, and whether it was replayed. -/
def replayItem (view : GroupView) (exportId : ExportId) (publish : PublishBatch) :
    PublishItemOutcome × Bool :=
  match view.priorPublishOutcome publish with
  | some result => (⟨publish.request, result⟩, true)
  | none =>
      if view.publishSessionCovers publish then
        (⟨publish.request, .error .receiptExpired⟩, true)
      else (⟨publish.request, .error (exportInProgress exportId)⟩, false)

def replayPublishMany (view : GroupView) (batch : ReplicatedPublishBatch) (exportId : ExportId) :
    ApplyResult :=
  let items := batch.requests.map (view.replayItem exportId)
  if items.any Prod.snd then .publishedMany (items.map Prod.fst)
  else .rejected (exportInProgress exportId)

/-- The bootstrap retries of `replay_included_command`, given the answer to a stored spec. -/
def replayBootstrap (view : GroupView) (spec : BootstrapSpec) (kind : GroupKind)
    (answer : ApplyResult) : Option ApplyResult :=
  if view.identity.kind ≠ kind then some (.rejected (wrongKind kind view.identity.kind))
  else
    match view.get .bootstrap with
    | none => none
    | some existing =>
        if existing ≠ spec then
          some (.rejected (.bootstrapConflict "bootstrap stream identity differs"))
        else some answer

def replayStream (view : GroupView) (streamId : StreamId)
    (settled : StreamDescriptor → Bool) : Option ApplyResult :=
  ((view.get (.stream streamId)).filter settled).map ApplyResult.stream

/-- What an included command answers while a fence is held, without writing anything. -/
def replayIncludedCommand (view : GroupView) (exportId : ExportId) :
    GroupCommand → Except IoError (Option ApplyResult)
  | .bootstrapControl spec topology security dataGroups maxStreams maxPartitions =>
      .ok (view.replayBootstrap spec .control
        (if view.SameConfiguration topology security dataGroups maxStreams maxPartitions then
          bootstrapResult spec
        else .rejected configurationDiffers))
  | .bootstrapData spec => .ok (view.replayBootstrap spec .data (bootstrapResult spec))
  | .createStreamIntent spec _ =>
      match view.get (.createIntent spec.requestId) with
      | none => .ok none
      | some existing =>
          if existing.spec ≠ spec then
            .ok (some (.rejected (.bootstrapConflict
              "catalog request identity was reused with different intent")))
          else
            match view.get (.stream existing.streamId) with
            | none => .error (.other "catalog intent references a missing stream")
            | some descriptor => .ok (some (.stream descriptor))
  | .replicaReady streamId groupId =>
      .ok (view.replayStream streamId fun descriptor =>
        decide (descriptor.lifecycle ≠ .preparing) || decide (groupId ∈ descriptor.readyGroups))
  | .activateStream streamId =>
      .ok (view.replayStream streamId fun descriptor => decide (descriptor.lifecycle = .active))
  | .beginDeleteStream streamId =>
      .ok (view.replayStream streamId fun descriptor =>
        decide (descriptor.lifecycle = .deleting) || decide (descriptor.lifecycle = .deleted))
  | .finishDeleteStream streamId =>
      .ok (view.replayStream streamId fun descriptor => decide (descriptor.lifecycle = .deleted))
  | .publish batch => .ok (view.replayPublish batch)
  | .publishMany batch => .ok (some (view.replayPublishMany batch exportId))
  | .createBookmark id partition name offset =>
      .ok ((view.get (.bookmarkId id)).map fun existing =>
        if existing.name = name ∧ existing.cursor.partition = partition ∧
            existing.cursor.nextOffset = offset then .bookmark existing
        else .rejected .bookmarkNameConflict)
  | .deleteBookmark partition id =>
      .ok (((view.get (.bookmarkId id)).filter fun bookmark =>
        bookmark.cursor.partition = partition ∧ bookmark.lifecycle = .deleted).map .bookmark)
  | .createStreamBookmark id name vector =>
      .ok ((view.get (.streamBookmarkId id)).map fun existing =>
        if existing.name = name ∧ existing.vector = vector then .streamBookmark existing
        else .rejected .bookmarkNameConflict)
  | .deleteStreamBookmark streamId id =>
      .ok (((view.get (.streamBookmarkId id)).filter fun bookmark =>
        bookmark.vector.stream = streamId ∧ bookmark.lifecycle = .deleted).map .streamBookmark)
  | .advanceRetention request _ =>
      .ok (view.priorMutationResult request.request (.retention request))
  | .maintainRetention partition expectedCursor _ _ _ =>
      let retention := view.retentionOf partition
      .ok (if retention.reclaimCursor ≠ expectedCursor then
        some (retentionStatus partition retention) else none)
  | .beginAdministration intent =>
      .ok ((view.get (.administrationRequest intent.request)).map fun existing =>
        if existing.intent = intent then .administration existing
        else .rejected .mutationConflict)
  | _ => .ok none

/-- The handler of each command, as `apply_command` dispatches it once the fence allows. -/
def dispatch (view : GroupView) (logId : GroupLogId) : GroupCommand → Applied
  | .bootstrapControl spec topology security dataGroups maxStreams maxPartitions =>
      view.applyBootstrapControl spec topology security dataGroups maxStreams maxPartitions
  | .bootstrapData spec => view.applyBootstrap spec .data
  | .createStreamIntent spec streamId => view.applyCreateStream spec streamId
  | .replicaReady streamId groupId => view.applyReplicaReady streamId groupId
  | .activateStream streamId => view.applyActivateStream streamId
  | .beginDeleteStream streamId => view.applyBeginDelete streamId
  | .finishDeleteStream streamId => view.applyFinishDelete streamId
  | .publish batch => view.applyPublish logId batch
  | .publishMany batch => view.applyPublishMany logId batch
  | .compareAndSetCheckpoint mutation => view.applyCheckpointMutation mutation
  | .createBookmark id partition name offset => view.applyCreateBookmark id partition name offset
  | .deleteBookmark partition id => view.applyDeleteBookmark partition id
  | .createStreamBookmark id name vector => view.applyCreateStreamBookmark id name vector
  | .deleteStreamBookmark streamId id => view.applyDeleteStreamBookmark streamId id
  | .advanceRetention request clock => view.applyAdvanceRetention request clock
  | .admitReplayLease request clock => view.applyAdmitReplayLease request clock
  | .renewReplayLease request clock => view.applyRenewReplayLease request clock
  | .releaseReplayLease request clock => view.applyReleaseReplayLease request clock
  | .maintainRetention partition expectedCursor maxRecords maxPayloadBytes clock =>
      view.applyMaintainRetention partition expectedCursor maxRecords maxPayloadBytes clock
  | .operationalProbe group => view.applyOperationalProbe logId group
  | .beginAdministration intent => view.applyBeginAdministration intent
  | .completeAdministration request => view.applyCompleteAdministration request
  | .abortAdministration request => view.applyAbortAdministration request
  | .finishAdministrationAbort request => view.applyFinishAdministrationAbort request
  | .initializeClusterTopology topology => view.applyInitializeClusterTopology topology
  | .initializeSecurityPolicy policy => view.applyInitializeSecurityPolicy policy
  | .applySecurityMutation mutation => view.applySecurityMutation mutation
  | .activateSecuredTransport request topology policy =>
      view.applySecuredTransport request topology policy
  | .exportProtocol command => view.applyExport logId command

def applyCommand (view : GroupView) (logId : GroupLogId) (command : GroupCommand) : Applied :=
  if command.fenceClass = .includedMutation then
    match view.mutationFenceState.held with
    | none => view.dispatch logId command
    | some held =>
        match view.replayIncludedCommand held.token.exportId command with
        | .error error => .error error
        | .ok (some result) => reply result []
        | .ok none => reject (exportInProgress held.token.exportId)
  else view.dispatch logId command

def applyPayload (view : GroupView) (logId : GroupLogId) : EntryPayload → Applied
  | .blank => reply .noop []
  | .membership membership => reply .noop [.put .membership ⟨some logId, membership⟩]
  | .normal command => view.applyCommand logId command

end GroupView

namespace GroupDb

/-- `apply_entry`: the command's batch and the applied position are committed together, also
when the result is a rejection. -/
def applyEntry (db : GroupDb) (entry : GroupEntry) : Except IoError (ApplyResult × GroupDb) :=
  match db.view.applyPayload entry.logId entry.payload with
  | .error error => .error error
  | .ok (result, write) =>
      .ok (result, db.commit ⟨write.state ++ [.put .applied entry.logId], write.payload⟩)

end GroupDb

end LightStream
