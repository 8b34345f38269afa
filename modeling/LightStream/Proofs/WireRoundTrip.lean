import LightStream.Codec.Text
import LightStream.Proofs.LogHydration
import LightStream.Proto.Exports

/-!
Domain values over the wire: what decoding gives back for the message of a value, kind by kind,
and the two kinds of values for which it is another value.
-/

namespace LightStream

inductive Identity where
  | cluster (id : ClusterId)
  | stream (id : StreamId)
  | producerSession (id : ProducerSessionId)
  | mutationSession (id : MutationSessionId)
  | bookmark (id : BookmarkId)
  | lease (id : ReplayLeaseId)
  | exportId (id : ExportId)
  | digest (digest : ExportRequestDigest)
deriving DecidableEq

def IdTexts.ReadsBack (texts : IdTexts) : Identity → Prop
  | .cluster id => texts.cluster.read (texts.cluster.write id) = .ok id
  | .stream id => texts.stream.read (texts.stream.write id) = .ok id
  | .producerSession id => texts.producerSession.read (texts.producerSession.write id) = .ok id
  | .mutationSession id => texts.mutationSession.read (texts.mutationSession.write id) = .ok id
  | .bookmark id => texts.bookmark.read (texts.bookmark.write id) = .ok id
  | .lease id => texts.lease.read (texts.lease.write id) = .ok id
  | .exportId id => texts.exportId.read (texts.exportId.write id) = .ok id
  | .digest digest =>
      (texts.digestBytes digest).length = 32 ∧
        texts.digestFromBytes (texts.digestBytes digest) = digest

inductive WireValue where
  | publish (batch : PublishBatch) (route : PartitionRoute)
  | bookmark (bookmark : CommittedBookmark)
  | streamBookmark (bookmark : CommittedStreamBookmark)
  | stream (stream : StreamDescriptor)
  | route (route : PartitionRoute) (leader : Option LeaderHint)
  | lease (lease : ReplayLease)
  | checkpoint (checkpoint : CommittedCheckpoint)
  | cas (result : CheckpointCasResult)
  | status (status : ExportStatus)
deriving DecidableEq

def CommittedCheckpoint.identities (checkpoint : CommittedCheckpoint) : List Identity :=
  [.cluster checkpoint.key.cluster, .stream checkpoint.key.partition.stream]

/-- Its consumer parses, and its cursor is one of its key, as `CheckpointMutation::new` checks. -/
structure CommittedCheckpoint.Producible (checkpoint : CommittedCheckpoint) : Prop where
  consumer : ConsumerId.parse checkpoint.key.consumer.text = .ok checkpoint.key.consumer
  cluster : checkpoint.cursor.cluster = checkpoint.key.cluster
  partition : checkpoint.cursor.partition = checkpoint.key.partition

def PrincipalId.Parses (principal : PrincipalId) : Prop :=
  PrincipalId.parse principal.text = .ok principal

def CheckpointCasResult.identities : CheckpointCasResult → List Identity
  | .advanced request previous checkpoint =>
      .mutationSession request.session ::
        (previous.toList.flatMap CommittedCheckpoint.identities ++ checkpoint.identities)
  | .conflict request current =>
      .mutationSession request.session :: current.toList.flatMap CommittedCheckpoint.identities

def CheckpointCasResult.Producible : CheckpointCasResult → Prop
  | .advanced request previous checkpoint =>
      request.principal.Parses ∧ (∀ before ∈ previous, before.Producible) ∧ checkpoint.Producible
  | .conflict request current => request.principal.Parses ∧ ∀ held ∈ current, held.Producible

def ExportStatus.identities : ExportStatus → List Identity
  | .active exportId _ _ => [.exportId exportId]
  | .terminal receipt =>
      [.mutationSession receipt.request.session, .exportId ⟨receipt.requestDigest⟩,
        .digest receipt.requestDigest]

/-- The principal of a receipt parses, and the SHA-256 of its artifact has 32 octets. -/
def ExportStatus.Producible : ExportStatus → Prop
  | .active _ _ _ => True
  | .terminal receipt =>
      receipt.request.principal.Parses ∧
        ∀ artifact, receipt.outcome = .completed artifact → artifact.sha256 < 256 ^ 32

namespace WireValue

def identities : WireValue → List Identity
  | .publish batch _ =>
      [.cluster batch.cluster, .stream batch.partition.stream,
        .producerSession batch.request.session]
  | .bookmark value =>
      [.bookmark value.id, .cluster value.cursor.cluster,
        .stream value.cursor.partition.stream]
  | .streamBookmark value =>
      [.bookmark value.id, .cluster value.vector.cluster, .stream value.vector.stream]
  | .stream value => [.cluster value.cluster, .stream value.stream]
  | .route value _ => [.cluster value.cluster, .stream value.stream]
  | .lease value =>
      [.lease value.id, .mutationSession value.request.request.session,
        .cluster value.request.cluster, .stream value.range.partition.stream]
  | .checkpoint value => value.identities
  | .cas value => value.identities
  | .status value => value.identities

def Producible : WireValue → Prop
  | .publish batch _ =>
      batch.request.principal.Parses ∧
        ∀ name, batch.bookmark = some name → BookmarkName.parse name.text = .ok name
  | .bookmark value => BookmarkName.parse value.name.text = .ok value.name
  | .streamBookmark value => BookmarkName.parse value.name.text = .ok value.name
  | .stream value => StreamName.parse value.name.text = .ok value.name
  | .route value _ => StreamName.parse value.name.text = .ok value.name
  | .lease value => value.request.request.principal.Parses
  | .checkpoint value => value.Producible
  | .cas value => value.Producible
  | .status value => value.Producible

def RoundTrips (texts : IdTexts) : WireValue → Prop
  | .publish batch target =>
      Convert.publishBatchAndRouteFromWire texts (Convert.publishRequestToWire texts batch target) =
        .ok (batch, some target.group, some target.routeRevision)
  | .bookmark value =>
      Convert.bookmarkFromWire texts (Convert.bookmarkToWire texts value) = .ok value
  | .streamBookmark value =>
      Convert.streamBookmarkFromWire texts (Convert.streamBookmarkToWire texts value) =
        .ok value
  | .stream value =>
      Convert.streamFromWire texts (Convert.streamToWire texts value) = .ok value
  | .route value leader =>
      Convert.routeFromWire texts (Convert.routeToWire texts value leader) = .ok value
  | .lease value =>
      Convert.replayLeaseFromWire texts (Convert.replayLeaseToWire texts value) = .ok value
  | .checkpoint value =>
      Convert.checkpointFromWire texts (Convert.checkpointToWire texts value) = .ok value
  | .cas value =>
      Convert.checkpointCasFromWire texts (Convert.checkpointCasToWire texts value) = .ok value
  | .status value =>
      Convert.exportStatusFromWire texts (Convert.exportStatusToWire texts value) = .ok value

/-- A batch is sent on a route whose revision is not zero; a finished export has a deadline. -/
def Marked : WireValue → Prop
  | .publish _ target => target.routeRevision ≠ 0
  | .status (.terminal receipt) => receipt.deadline ≠ none
  | _ => True

end WireValue

variable {texts : IdTexts}

/-! ### Identities and names -/

theorem TextForm.parse_write {α : Type} {form : TextForm α} {id : α}
    (back : form.read (form.write id) = .ok id) (kind : String) :
    form.parse kind (form.write id) = .ok id := by
  rw [TextForm.parse, back]

theorem ClusterId.parse_write {id : ClusterId} (back : texts.ReadsBack (.cluster id)) :
    ClusterId.parse texts (texts.cluster.write id) = .ok id := TextForm.parse_write back _

theorem StreamId.parse_write {id : StreamId} (back : texts.ReadsBack (.stream id)) :
    StreamId.parse texts (texts.stream.write id) = .ok id := TextForm.parse_write back _

theorem GroupId.new_value (group : GroupId) : GroupId.new group.value = .ok group :=
  dif_neg group.nonzero

theorem CheckpointRevision.new_value (revision : CheckpointRevision) :
    CheckpointRevision.new revision.value = .ok revision := dif_neg revision.nonzero

theorem ReplayRange.new_fields (range : ReplayRange) :
    ReplayRange.new range.partition range.start range.stop = .ok range := dif_pos range.ordered

theorem BookmarkName.parse_nonempty {name : BookmarkName}
    (parsed : BookmarkName.parse name.text = .ok name) : name.text ≠ "" := by
  intro empty
  rw [BookmarkName.parse, boundedText, if_pos empty] at parsed
  cases parsed

theorem Convert.mutationRequestId_written {request : MutationRequestId}
    (principal : request.principal.Parses)
    (session : texts.ReadsBack (.mutationSession request.session)) :
    Convert.mutationRequestIdFromWire texts (Convert.mutationRequestIdToWire texts request) =
      .ok request := by
  have parsed : MutationSessionId.parse texts (texts.mutationSession.write request.session) =
      .ok request.session := TextForm.parse_write session _
  rw [Convert.mutationRequestIdFromWire, Convert.mutationRequestIdToWire, principal]
  simp only [bind, Except.bind, parsed]

theorem mapM_written {α β : Type} {write : α → β} {read : β → Except DomainError α}
    (written : ∀ item, read (write item) = .ok item) (items : List α) :
    (items.map write).mapM read = .ok items := by
  induction items with
  | nil => rfl
  | cons item rest ih =>
      rw [List.map_cons, List.mapM_cons, written, ih]
      rfl

theorem StreamCursorVector.new_positions (vector : StreamCursorVector) :
    StreamCursorVector.new vector.stream (vector.positions.map fun cursor =>
      ⟨vector.cluster, ⟨vector.stream, cursor.partition.partition⟩, cursor.nextOffset⟩) =
      .ok vector := by
  obtain ⟨cluster, stream, positions, nonempty, sameCluster, sameStream, distinct⟩ := vector
  have rebuilt : (positions.map fun cursor => (⟨cluster, ⟨stream, cursor.partition.partition⟩,
      cursor.nextOffset⟩ : CommittedCursor)) = positions := by
    conv_rhs => rw [← List.map_id positions]
    refine List.map_congr_left ?_
    intro cursor listed
    have first := sameCluster cursor listed
    have second := sameStream cursor listed
    obtain ⟨held, ⟨named, partition⟩, offset⟩ := cursor
    subst first
    subst second
    rfl
  simp only [rebuilt]
  cases positions with
  | nil => exact absurd rfl nonempty
  | cons first rest =>
      have named := sameCluster first List.mem_cons_self
      have sound : cursorFault first.cluster stream [] (first :: rest) = none :=
        cursorFault_none.mpr ⟨by rw [named]; exact sameCluster, sameStream, distinct,
          fun _ _ => List.not_mem_nil⟩
      rw [StreamCursorVector.new]
      split
      · rename_i reason fault
        rw [sound] at fault
        cases fault
      · simp only [named]

namespace WireValue

section Kinds

/-! ### Publish requests and bookmarks -/

theorem publishProbe_written {batch : PublishBatch} {target : PartitionRoute}
    (back : ∀ id ∈ (publish batch target).identities, texts.ReadsBack id)
    (principal : batch.request.principal.Parses) :
    Convert.publishProbeFromWire texts (Convert.publishRequestToWire texts batch target) =
      .ok ⟨batch.cluster, batch.partition, batch.request, batch.records⟩ := by
  have cluster := ClusterId.parse_write (back (.cluster batch.cluster) (by simp [identities]))
  have stream := StreamId.parse_write (back (.stream batch.partition.stream) (by simp [identities]))
  have session : ProducerSessionId.parse texts
      (texts.producerSession.write batch.request.session) = .ok batch.request.session :=
    TextForm.parse_write (back (.producerSession _) (by simp [identities])) _
  rw [Convert.publishProbeFromWire]
  simp only [Convert.publishRequestToWire, Convert.requestIdToWire, Convert.required, cluster,
    stream, session, bind, Except.bind]
  rw [show PrincipalId.parse batch.request.principal.text = .ok batch.request.principal
    from principal]
  simp only [PublishProbe.new, bind, Except.bind]
  rw [show PublishBatch.new batch.cluster ⟨batch.partition.stream, batch.partition.partition⟩
    ⟨batch.request.principal, batch.request.session, batch.request.sequence⟩ batch.records =
      .ok { batch with bookmark := none } from GroupDb.new_records batch]

theorem publishBatch_written {batch : PublishBatch} {target : PartitionRoute}
    (producible : (publish batch target).Producible)
    (back : ∀ id ∈ (publish batch target).identities, texts.ReadsBack id) :
    Convert.publishBatchFromWire texts (Convert.publishRequestToWire texts batch target) =
      .ok batch := by
  obtain ⟨principal, named⟩ := producible
  have probe := publishProbe_written back principal
  have records := GroupDb.new_records batch
  rw [Convert.publishBatchFromWire]
  cases marked : batch.bookmark with
  | none =>
      have absent : (Convert.publishRequestToWire texts batch target).bookmarkName = "" := by
        rw [Convert.publishRequestToWire, marked]
        rfl
      simp only [absent, ne_eq, not_true_eq_false, if_false, bind, Except.bind, probe, records]
      rw [← marked]
  | some name =>
      have parsed := named name marked
      have present : (Convert.publishRequestToWire texts batch target).bookmarkName =
          name.text := by
        rw [Convert.publishRequestToWire, marked]
        rfl
      simp only [present, ne_eq, BookmarkName.parse_nonempty parsed, not_false_eq_true, if_true,
        parsed, Except.map, bind, Except.bind, probe, records, PublishBatch.withBookmark]
      rw [← marked]

theorem publish_roundTrips {batch : PublishBatch} {target : PartitionRoute}
    (producible : (publish batch target).Producible)
    (back : ∀ id ∈ (publish batch target).identities, texts.ReadsBack id) :
    (publish batch target).RoundTrips texts ↔ target.routeRevision ≠ 0 := by
  have group : (Convert.publishRequestToWire texts batch target).routeGroupId ≠ 0 :=
    target.group.nonzero
  have revision : (Convert.publishRequestToWire texts batch target).routeRevision =
      target.routeRevision := rfl
  rw [RoundTrips, Convert.publishBatchAndRouteFromWire, if_pos group, revision]
  rw [show GroupId.new (Convert.publishRequestToWire texts batch target).routeGroupId =
    .ok target.group from GroupId.new_value target.group]
  simp only [Except.map, bind, Except.bind, publishBatch_written producible back, Except.ok.injEq,
    Prod.mk.injEq, true_and]
  by_cases zero : target.routeRevision = 0
  · simp [zero]
  · simp [zero]

theorem bookmark_roundTrips {committed : CommittedBookmark}
    (producible : (bookmark committed).Producible)
    (back : ∀ id ∈ (bookmark committed).identities, texts.ReadsBack id) :
    (bookmark committed).RoundTrips texts := by
  have id : BookmarkId.parse texts (texts.bookmark.write committed.id) = .ok committed.id :=
    TextForm.parse_write (back (.bookmark _) (by simp [identities])) _
  have cluster := ClusterId.parse_write
    (back (.cluster committed.cursor.cluster) (by simp [identities]))
  have stream := StreamId.parse_write
    (back (.stream committed.cursor.partition.stream) (by simp [identities]))
  have named : BookmarkName.parse committed.name.text = .ok committed.name := producible
  obtain ⟨own, name, ⟨held, ⟨owner, partition⟩, offset⟩, publication, lifecycle⟩ := committed
  simp only [RoundTrips, Convert.bookmarkFromWire, Convert.bookmarkToWire, bind, Except.bind, id,
    cluster, stream, named]
  cases lifecycle <;> rfl

theorem streamBookmark_roundTrips {committed : CommittedStreamBookmark}
    (producible : (streamBookmark committed).Producible)
    (back : ∀ id ∈ (streamBookmark committed).identities, texts.ReadsBack id) :
    (streamBookmark committed).RoundTrips texts := by
  have id : BookmarkId.parse texts (texts.bookmark.write committed.id) = .ok committed.id :=
    TextForm.parse_write (back (.bookmark _) (by simp [identities])) _
  have cluster := ClusterId.parse_write
    (back (.cluster committed.vector.cluster) (by simp [identities]))
  have stream := StreamId.parse_write
    (back (.stream committed.vector.stream) (by simp [identities]))
  have named : BookmarkName.parse committed.name.text = .ok committed.name := producible
  have vector := StreamCursorVector.new_positions committed.vector
  obtain ⟨own, name, held, publication, lifecycle⟩ := committed
  simp only [RoundTrips, Convert.streamBookmarkFromWire, Convert.streamBookmarkToWire, bind,
    Except.bind, id, cluster, stream, named, List.map_map, Function.comp_def, vector]
  cases lifecycle <;> rfl

/-! ### Leases, streams and routes -/

theorem lease_roundTrips {granted : ReplayLease} (producible : (lease granted).Producible)
    (back : ∀ id ∈ (lease granted).identities, texts.ReadsBack id) :
    (lease granted).RoundTrips texts := by
  have id : ReplayLeaseId.parse texts (texts.lease.write granted.id) = .ok granted.id :=
    TextForm.parse_write (back (.lease _) (by simp [identities])) _
  have cluster := ClusterId.parse_write
    (back (.cluster granted.request.cluster) (by simp [identities]))
  have stream := StreamId.parse_write
    (back (.stream granted.range.partition.stream) (by simp [identities]))
  have request := Convert.mutationRequestId_written producible
    (back (.mutationSession granted.request.request.session) (by simp [identities]))
  have range : Convert.replayRangeFromWire texts (Convert.replayRangeToWire texts granted.range) =
      .ok granted.range := by
    simp only [Convert.replayRangeFromWire, Convert.replayRangeToWire, stream, bind, Except.bind]
    exact ReplayRange.new_fields granted.range
  have duration : leaseDurationFromMillis granted.request.duration =
      .ok ⟨granted.request.duration, granted.request.durationNonzero⟩ :=
    dif_neg granted.request.durationNonzero
  have maxBytes : byteLimitNew granted.request.maxBytes =
      .ok ⟨granted.request.maxBytes, granted.request.maxBytesNonzero⟩ :=
    dif_neg granted.request.maxBytesNonzero
  have lifecycle : Convert.leaseLifecycleFromWire
      (Convert.leaseLifecycleToWire granted.lifecycle) = .ok granted.lifecycle := by
    cases granted.lifecycle <;> rfl
  simp only [RoundTrips, Convert.replayLeaseFromWire, Convert.replayLeaseToWire,
    Convert.required, bind, Except.bind, request, cluster, range, duration, maxBytes, lifecycle,
    id]
  rfl

theorem stream_roundTrips {descriptor : StreamDescriptor}
    (producible : (stream descriptor).Producible)
    (back : ∀ id ∈ (stream descriptor).identities, texts.ReadsBack id) :
    (stream descriptor).RoundTrips texts := by
  have cluster := ClusterId.parse_write (back (.cluster descriptor.cluster) (by simp [identities]))
  have owner := StreamId.parse_write (back (.stream descriptor.stream) (by simp [identities]))
  have named : StreamName.parse descriptor.name.text = .ok descriptor.name := producible
  have lifecycle : Convert.streamLifecycleFromWire
      (Convert.streamLifecycleToWire descriptor.lifecycle) = .ok descriptor.lifecycle := by
    cases descriptor.lifecycle <;> rfl
  have placement : ∀ item : PartitionPlacement,
      Convert.placementFromWire ⟨item.partition, item.group.value⟩ = .ok item := by
    intro item
    simp only [Convert.placementFromWire, GroupId.new_value, bind, Except.bind]
  simp only [RoundTrips, Convert.streamFromWire, Convert.streamToWire, bind, Except.bind,
    lifecycle, cluster, owner, named, mapM_written placement, mapM_written GroupId.new_value]

theorem route_roundTrips {resolved : PartitionRoute} {leader : Option LeaderHint}
    (producible : (route resolved leader).Producible)
    (back : ∀ id ∈ (route resolved leader).identities, texts.ReadsBack id) :
    (route resolved leader).RoundTrips texts := by
  have cluster := ClusterId.parse_write (back (.cluster resolved.cluster) (by simp [identities]))
  have owner := StreamId.parse_write (back (.stream resolved.stream) (by simp [identities]))
  have named : StreamName.parse resolved.name.text = .ok resolved.name := producible
  simp only [RoundTrips, Convert.routeFromWire, Convert.routeToWire, bind, Except.bind, cluster,
    owner, named, GroupId.new_value]

/-! ### Checkpoints -/

theorem checkpoint_written {held : CommittedCheckpoint} (producible : held.Producible)
    (back : ∀ id ∈ held.identities, texts.ReadsBack id) :
    Convert.checkpointFromWire texts (Convert.checkpointToWire texts held) = .ok held := by
  have cluster := ClusterId.parse_write
    (back (.cluster held.key.cluster) (by simp [CommittedCheckpoint.identities]))
  have stream := StreamId.parse_write
    (back (.stream held.key.partition.stream) (by simp [CommittedCheckpoint.identities]))
  obtain ⟨consumer, sameCluster, samePartition⟩ := producible
  obtain ⟨⟨owner, ⟨named, partition⟩, reader⟩, ⟨first, second, offset⟩, revision⟩ := held
  change first = owner at sameCluster
  change second = ⟨named, partition⟩ at samePartition
  subst sameCluster
  subst samePartition
  simp only [Convert.checkpointFromWire, Convert.checkpointToWire, Convert.required,
    Convert.checkpointKeyFromWire, Convert.checkpointKeyToWire, bind, Except.bind, cluster, stream,
    consumer, CheckpointRevision.new_value]

theorem optionalCheckpoint_written {held : Option CommittedCheckpoint}
    (producible : ∀ checkpoint ∈ held, checkpoint.Producible)
    (back : ∀ id ∈ held.toList.flatMap CommittedCheckpoint.identities, texts.ReadsBack id) :
    Convert.optionalCheckpointFromWire texts (held.map (Convert.checkpointToWire texts)) =
      .ok held := by
  cases held with
  | none => rfl
  | some held =>
      have written := checkpoint_written (producible held rfl) fun id listed =>
        back id (by simpa using listed)
      rw [Option.map_some, Convert.optionalCheckpointFromWire, written]
      rfl

theorem cas_roundTrips {result : CheckpointCasResult} (producible : (cas result).Producible)
    (back : ∀ id ∈ (cas result).identities, texts.ReadsBack id) :
    (cas result).RoundTrips texts := by
  cases result with
  | advanced request previous checkpoint =>
      obtain ⟨principal, before, after⟩ := producible
      have named := Convert.mutationRequestId_written principal
        (back (.mutationSession request.session) List.mem_cons_self)
      have earlier := optionalCheckpoint_written before fun id listed =>
        back id (List.mem_cons_of_mem _ (List.mem_append_left _ listed))
      have later := checkpoint_written after fun id listed =>
        back id (List.mem_cons_of_mem _ (List.mem_append_right _ listed))
      simp only [RoundTrips, Convert.checkpointCasFromWire, Convert.checkpointCasToWire,
        Convert.required, bind, Except.bind, named, earlier, later]
  | conflict request current =>
      obtain ⟨principal, held⟩ := producible
      have named := Convert.mutationRequestId_written principal
        (back (.mutationSession request.session) List.mem_cons_self)
      have present := optionalCheckpoint_written held fun id listed =>
        back id (List.mem_cons_of_mem _ listed)
      simp only [RoundTrips, Convert.checkpointCasFromWire, Convert.checkpointCasToWire,
        Convert.required, bind, Except.bind, named, present]

/-! ### Export statuses -/

theorem exportArtifact_written {artifact : ArtifactIdentity} (sized : artifact.sha256 < 256 ^ 32) :
    exportArtifactFromWire (exportArtifactToWire artifact) = .ok artifact := by
  have whole : bytes32 (Codec.toOctets 32 artifact.sha256) "export artifact sha256" =
      .ok (Codec.toOctets 32 artifact.sha256) := if_pos (Codec.toOctets_length 32 _)
  simp only [exportArtifactFromWire, exportArtifactToWire, whole, bind, Except.bind,
    Codec.ofOctets_toOctets sized, ArtifactIdentity.new_fields]

theorem active_roundTrips {exportId : ExportId} {epoch : ExportEpoch} {phase : ExportStatusPhase}
    (back : texts.ReadsBack (.exportId exportId)) :
    (status (.active exportId epoch phase)).RoundTrips texts := by
  have written : texts.exportId.read (texts.exportId.write exportId) = .ok exportId := back
  have named : Convert.exportPhaseFromWire (Convert.exportPhaseToWire phase) = .ok phase := by
    cases phase <;> rfl
  simp only [RoundTrips, Convert.exportStatusFromWire, Convert.exportStatusToWire,
    Convert.required, Convert.activeStatusFromJson, bind, Except.bind, named,
    ExportEpoch.new_value, written]

theorem exportReceipt_written {receipt : ExportReceipt}
    (producible : (ExportStatus.terminal receipt).Producible)
    (back : ∀ id ∈ (ExportStatus.terminal receipt).identities, texts.ReadsBack id) :
    Convert.exportReceiptFromWire texts (Convert.exportReceiptToWire texts receipt) =
      .ok { receipt with deadline := some (receipt.deadline.getD ⟨0, 0, Nat.le_refl 0⟩) } := by
  obtain ⟨principal, sized⟩ := producible
  have request := Convert.mutationRequestId_written principal
    (back (.mutationSession receipt.request.session) (by simp [ExportStatus.identities]))
  have exportId : Convert.parseExportId texts (texts.exportId.write ⟨receipt.requestDigest⟩) =
      .ok ⟨receipt.requestDigest⟩ :=
    TextForm.parse_write (back (.exportId _) (by simp [ExportStatus.identities])) _
  have digest : texts.ReadsBack (.digest receipt.requestDigest) :=
    back _ (by simp [ExportStatus.identities])
  obtain ⟨length, digest⟩ := digest
  have whole : bytes32 (texts.digestBytes receipt.requestDigest) "export request digest" =
      .ok (texts.digestBytes receipt.requestDigest) := if_pos length
  obtain ⟨own, epoch, requestDigest, deadline, outcome⟩ := receipt
  simp only at *
  have bounds : ∀ known : ExportDeadline,
      ExportDeadline.new known.lowerBound known.upperBound = .ok known :=
    ExportDeadline.new_bounds
  have unknown : ExportDeadline.new 0 0 = .ok ⟨0, 0, Nat.le_refl 0⟩ := rfl
  have reasons : ∀ reason, Convert.exportAbortReasonToWire reason ≠ "" ∧
      Convert.exportAbortReasonFromWire (Convert.exportAbortReasonToWire reason) =
        .ok reason := by
    intro reason
    cases reason <;> exact ⟨by decide, rfl⟩
  cases outcome with
  | completed artifact =>
      have delivered := exportArtifact_written (sized artifact rfl)
      cases deadline <;>
        simp only [Convert.exportReceiptFromWire, Convert.exportReceiptToWire, Convert.required,
          bind, Except.bind, request, exportId, ExportEpoch.new_value, whole, digest, bounds,
          unknown, ne_eq, not_true_eq_false, if_false, Convert.disposition,
          Convert.exportDispositionToWire, Convert.exportDispositionFromWire, delivered,
          Except.map, Option.getD]
  | aborted reason =>
      obtain ⟨present, aborted⟩ := reasons reason
      cases deadline <;>
        simp only [Convert.exportReceiptFromWire, Convert.exportReceiptToWire, Convert.required,
          bind, Except.bind, request, exportId, ExportEpoch.new_value, whole, digest, bounds,
          unknown, ne_eq, not_true_eq_false, if_false, Convert.disposition,
          Convert.exportDispositionToWire, Convert.exportDispositionFromWire, present, aborted,
          Except.map, Option.getD]

theorem terminal_roundTrips {receipt : ExportReceipt}
    (producible : (ExportStatus.terminal receipt).Producible)
    (back : ∀ id ∈ (ExportStatus.terminal receipt).identities, texts.ReadsBack id) :
    (status (.terminal receipt)).RoundTrips texts ↔ receipt.deadline ≠ none := by
  simp only [RoundTrips, Convert.exportStatusFromWire, Convert.exportStatusToWire,
    Convert.required, bind, Except.bind, exportReceipt_written producible back, Except.map,
    Except.ok.injEq, ExportStatus.terminal.injEq]
  obtain ⟨own, epoch, requestDigest, deadline, outcome⟩ := receipt
  cases deadline with
  | none => simp
  | some known => simp

end Kinds

/-- A value comes back from its message unless it is a batch on a route of revision zero or a
receipt without a deadline. -/
theorem wire_round_trip (texts : IdTexts) (value : WireValue) (producible : value.Producible)
    (back : ∀ id ∈ value.identities, texts.ReadsBack id) :
    value.RoundTrips texts ↔ value.Marked := by
  cases value with
  | publish batch target => exact publish_roundTrips producible back
  | bookmark committed => exact iff_of_true (bookmark_roundTrips producible back) trivial
  | streamBookmark committed =>
      exact iff_of_true (streamBookmark_roundTrips producible back) trivial
  | stream descriptor => exact iff_of_true (stream_roundTrips producible back) trivial
  | route resolved leader => exact iff_of_true (route_roundTrips producible back) trivial
  | lease granted => exact iff_of_true (lease_roundTrips producible back) trivial
  | checkpoint held => exact iff_of_true (checkpoint_written producible back) trivial
  | cas result => exact iff_of_true (cas_roundTrips producible back) trivial
  | status status =>
      cases status with
      | active exportId epoch phase =>
          exact iff_of_true (active_roundTrips (back _ List.mem_cons_self)) trivial
      | terminal receipt => exact terminal_roundTrips producible back

/-! ### Values on a wire -/

def uuidString (value : Nat) : String := String.ofList ((Codec.uuidText value).map Char.ofNat)

def uuidForm {α : Type} (uuid : α → Nat) (own : α) : TextForm α where
  write := fun id => uuidString (uuid id)
  read := fun text =>
    if text = uuidString (uuid own) then .ok own else .error "unknown identity"

theorem uuidForm_reads {α : Type} (uuid : α → Nat) (own : α) :
    (uuidForm uuid own).read ((uuidForm uuid own).write own) = .ok own := if_pos rfl

def exportIdFromDigest (digest : Codec.Octets) : Nat :=
  Codec.ofOctets (((digest.take 16).modify 6 fun byte => byte &&& 0x0f ||| 0x80).modify 8
    fun byte => byte &&& 0x3f ||| 0x80)

def digestBytes : ExportRequestDigest → Codec.Octets
  | .bytes value => Codec.toOctets 32 value
  | .canonical .. => List.replicate 32 0

theorem digestBytes_reads {value : Nat} (sized : value < 256 ^ 32) :
    (digestBytes (.bytes value)).length = 32 ∧
      ExportRequestDigest.bytes (Codec.ofOctets (digestBytes (.bytes value))) = .bytes value := by
  refine ⟨Codec.toOctets_length 32 value, ?_⟩
  rw [digestBytes, Codec.ofOctets_toOctets sized]

def exportForm : TextForm ExportId :=
  uuidForm (fun id => exportIdFromDigest (digestBytes id.digest)) ⟨.bytes 7⟩

def sampleTexts : IdTexts where
  cluster := uuidForm ClusterId.uuid ⟨1⟩
  stream := uuidForm StreamId.uuid ⟨2⟩
  producerSession := uuidForm ProducerSessionId.uuid ⟨3⟩
  mutationSession := uuidForm MutationSessionId.uuid ⟨4⟩
  bookmark := uuidForm (fun
    | .uuid value => value
    | .derived _ _ => 0) (.uuid 5)
  lease := uuidForm (fun
    | .uuid value => value
    | .derived _ => 0) (.uuid 6)
  exportId := exportForm
  digestBytes := digestBytes
  digestFromBytes := fun octets => .bytes (Codec.ofOctets octets)

def sampleBatch : PublishBatch :=
  ⟨⟨1⟩, ⟨⟨2⟩, 0⟩, ⟨⟨"producer"⟩, ⟨3⟩, 1⟩, [[7]], some ⟨"nightly"⟩,
    sampleRecords_valid⟩

def sampleRoute : PartitionRoute := ⟨⟨1⟩, ⟨2⟩, ⟨"orders"⟩, 0, ⟨2, two_nonzero⟩, 3⟩

theorem wire_round_trip_sample :
    (publish sampleBatch sampleRoute).RoundTrips sampleTexts ↔
      (publish sampleBatch sampleRoute).Marked := by
  apply wire_round_trip
  · refine ⟨rfl, ?_⟩
    intro name named
    cases named
    rfl
  · intro id listed
    simp only [identities, sampleBatch, List.mem_cons, List.not_mem_nil, or_false] at listed
    rcases listed with rfl | rfl | rfl
    · exact uuidForm_reads ClusterId.uuid ⟨1⟩
    · exact uuidForm_reads StreamId.uuid ⟨2⟩
    · exact uuidForm_reads ProducerSessionId.uuid ⟨3⟩

def legacyReceipt : ExportReceipt :=
  ⟨⟨⟨"operator"⟩, ⟨4⟩, 1⟩, ⟨1, Nat.one_ne_zero⟩, .bytes 7, none, .aborted .operatorRequested⟩

theorem unknown_deadline_is_lost :
    (status (.terminal legacyReceipt)).Producible ∧
      (∀ id ∈ (status (.terminal legacyReceipt)).identities, sampleTexts.ReadsBack id) ∧
      ¬(status (.terminal legacyReceipt)).RoundTrips sampleTexts := by
  have producible : (status (.terminal legacyReceipt)).Producible := by
    refine ⟨rfl, ?_⟩
    intro artifact completed
    cases completed
  have back : ∀ id ∈ (status (.terminal legacyReceipt)).identities,
      sampleTexts.ReadsBack id := by
    intro id listed
    simp only [identities, ExportStatus.identities, legacyReceipt, List.mem_cons,
      List.not_mem_nil, or_false] at listed
    rcases listed with rfl | rfl | rfl
    · exact uuidForm_reads MutationSessionId.uuid ⟨4⟩
    · change exportForm.read (exportForm.write _) = _
      rw [exportForm, uuidForm_reads]
    · have sized : (7 : Nat) < 256 ^ 32 := by norm_num
      exact digestBytes_reads sized
  refine ⟨producible, back, ?_⟩
  rw [terminal_roundTrips producible back]
  exact fun known => known rfl

end WireValue

end LightStream
