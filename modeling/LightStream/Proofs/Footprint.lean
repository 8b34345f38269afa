import LightStream.Kv.Overlay
import LightStream.Storage.Apply

/-!
What each command can write.  Keys are grouped into families, every handler has a list of
families that holds all the keys it writes, and a command leaves every other family alone.
-/

namespace LightStream

inductive StateFamily where
  | applied
  | membership
  | bootstrap
  | catalog
  | stream
  | nextOffset
  | record
  | receipt
  | session
  | mutation
  | checkpoint
  | bookmark
  | streamBookmark
  | retention
  | reclaimHint
  | lease
  | leaseRequest
  | leaseClock
  | leaseBudget
  | operationalProof
  | topology
  | policy
  | administration
  | exportState
  | fence
deriving DecidableEq

def StateKey.family : StateKey → StateFamily
  | .applied => .applied
  | .membership => .membership
  | .bootstrap => .bootstrap
  | .dataGroupPool | .maxStreams | .maxPartitions | .assignmentCursor | .catalogRevision
  | .streamName _ | .createIntent _ => .catalog
  | .stream _ => .stream
  | .nextOffset _ => .nextOffset
  | .record _ _ => .record
  | .receipt _ _ => .receipt
  | .session _ _ _ => .session
  | .mutationReceipt _ | .mutationSession _ _ => .mutation
  | .checkpoint _ _ => .checkpoint
  | .bookmarkId _ | .bookmarkName _ _ | .bookmarkOrder _ _ | .bookmarkPublication _ => .bookmark
  | .streamBookmarkId _ | .streamBookmarkName _ _ | .streamBookmarkOrder _ _
  | .streamBookmarkPublication _ => .streamBookmark
  | .retention _ => .retention
  | .reclaimHint _ => .reclaimHint
  | .leaseClock => .leaseClock
  | .leaseBudget => .leaseBudget
  | .operationalProof => .operationalProof
  | .clusterTopology => .topology
  | .securityPolicy => .policy
  | .activeAdministration | .administrationRequest _ => .administration
  | .activeExport | .exportEpoch | .exportReceipt _ | .exportSession _ _ => .exportState
  | .mutationFence => .fence
  | .leaseId _ => .lease
  | .leaseRequest _ => .leaseRequest

def Within (families : List StateFamily) (ops : StateBatch) : Prop :=
  ∀ op ∈ ops, op.key.family ∈ families

@[simp] theorem within_nil (families : List StateFamily) : Within families [] := by
  simp [Within]

@[simp] theorem within_cons {families : List StateFamily} {op : Kv.Op StateKey StateVal}
    {ops : StateBatch} :
    Within families (op :: ops) ↔ op.key.family ∈ families ∧ Within families ops := by
  simp [Within]

@[simp] theorem within_append {families : List StateFamily} {first second : StateBatch} :
    Within families (first ++ second) ↔ Within families first ∧ Within families second := by
  simp only [Within, List.mem_append, or_imp, forall_and]

theorem Within.mono {small large : List StateFamily} {ops : StateBatch} (within : Within small ops)
    (subset : small ⊆ large) : Within large ops :=
  fun op member => subset (within op member)

theorem Within.widen {small : List StateFamily} {ops : StateBatch} (within : Within small ops)
    (large : List StateFamily) (subset : small ⊆ large) : Within large ops :=
  within.mono subset

theorem Within.untouched {families : List StateFamily} {ops : StateBatch}
    (within : Within families ops) {key : StateKey} (outside : key.family ∉ families) :
    ∀ op ∈ ops, op.key ≠ key := by
  intro op member same
  exact outside (same ▸ within op member)

theorem Within.effect_none {families : List StateFamily} {ops : StateBatch}
    (within : Within families ops) {key : StateKey} (outside : key.family ∉ families) :
    Kv.Batch.effect ops key = none :=
  Kv.Batch.effect_eq_none_iff.mpr (within.untouched outside)

namespace GroupView

def after (view : GroupView) (writes : StateBatch) : GroupView :=
  { view with get := Kv.pending view.get writes }

@[simp] theorem after_nil (view : GroupView) : view.after [] = view := rfl

theorem after_append (view : GroupView) (first second : StateBatch) :
    view.after (first ++ second) = (view.after first).after second := by
  simp only [after, Kv.pending_append]

theorem after_get_of_within {view : GroupView} {families : List StateFamily} {writes : StateBatch}
    (within : Within families writes) {key : StateKey} (outside : key.family ∉ families) :
    (view.after writes).get key = view.get key :=
  Kv.pending_of_untouched (within.effect_none outside)

end GroupView

theorem GroupDb.commit_applied_get {db : GroupDb} {logId : GroupLogId} {write : WriteBatch}
    {key : StateKey} (other : key.family ≠ .applied) :
    (db.commit ⟨write.state ++ [.put .applied logId], write.payload⟩).view.get key =
      (db.view.after write.state).get key := by
  have different : StateKey.applied ≠ key := by
    rintro rfl
    exact other rfl
  rw [GroupDb.view_get, GroupDb.get_commit, Kv.Batch.effect_append]
  simp [Kv.Op.effect, different, GroupView.after, Kv.pending]

theorem GroupDb.applyEntry_normal {db : GroupDb} {logId : GroupLogId} {command : GroupCommand}
    {result : ApplyResult} {write : WriteBatch}
    (handled : db.view.applyCommand logId command = .ok (result, write)) :
    db.applyEntry ⟨logId, .normal command⟩ =
      .ok (result, db.commit ⟨write.state ++ [.put .applied logId], write.payload⟩) := by
  simp only [applyEntry, GroupView.applyPayload, handled]

/-- A property of the reply and the batch of every application that does not fail. -/
def Applied.All (property : ApplyResult → WriteBatch → Prop) (applied : Applied) : Prop :=
  ∀ result write, applied = .ok (result, write) → property result write

@[simp] theorem Applied.all_error {property : ApplyResult → WriteBatch → Prop} (error : IoError) :
    Applied.All property (.error error) := by
  intro result write impossible
  simp at impossible

@[simp] theorem Applied.all_ok {property : ApplyResult → WriteBatch → Prop} {result : ApplyResult}
    {write : WriteBatch} : Applied.All property (.ok (result, write)) ↔ property result write := by
  constructor
  · intro holds
    exact holds result write rfl
  · intro holds other otherWrite same
    cases same
    exact holds

@[simp] theorem Applied.all_reply {property : ApplyResult → WriteBatch → Prop} {result : ApplyResult}
    {ops : StateBatch} : Applied.All property (reply result ops) ↔ property result ⟨ops, []⟩ :=
  Applied.all_ok

@[simp] theorem Applied.all_reject {property : ApplyResult → WriteBatch → Prop} {error : DomainError} :
    Applied.All property (reject error) ↔ property (.rejected error) ⟨[], []⟩ :=
  Applied.all_ok

def Footprint (families : List StateFamily) (_ : ApplyResult) (write : WriteBatch) : Prop :=
  Within families write.state ∧ write.payload = []

theorem Applied.All.mono {small large : List StateFamily} {applied : Applied}
    (all : Applied.All (Footprint small) applied) (subset : small ⊆ large) :
    Applied.All (Footprint large) applied := by
  intro result write same
  obtain ⟨state, payload⟩ := all result write same
  exact ⟨state.mono subset, payload⟩

namespace GroupView

variable {view : GroupView}

theorem applyBootstrap_footprint (spec : BootstrapSpec) (kind : GroupKind) :
    Applied.All (Footprint [.bootstrap, .fence]) (view.applyBootstrap spec kind) := by
  unfold applyBootstrap
  split
  · simp [Footprint]
  split
  · simp [Footprint]
  cases view.get .mutationFence <;> cases view.get .bootstrap <;> simp [Footprint, StateKey.family]
  all_goals split <;> simp [Footprint, StateKey.family]

theorem bootstrapConfiguration_within (topology : Option ClusterTopology)
    (dataGroups : List GroupId) :
    Within [.catalog, .topology] (bootstrapConfiguration topology dataGroups) := by
  cases topology <;> simp [bootstrapConfiguration, StateKey.family]

theorem bootstrapCatalog_within (spec : BootstrapSpec) (group : GroupId)
    (maxStreams maxPartitions : Nat) :
    Within [.catalog, .stream] (bootstrapCatalog spec group maxStreams maxPartitions) := by
  simp [bootstrapCatalog, StateKey.family]

theorem applyBootstrapControl_footprint (spec : BootstrapSpec) (topology : Option ClusterTopology)
    (security : Option SecurityPolicy) (dataGroups : List GroupId)
    (maxStreams maxPartitions : Nat) :
    Applied.All (Footprint [.bootstrap, .fence, .catalog, .topology, .policy, .stream])
      (view.applyBootstrapControl spec topology security dataGroups maxStreams maxPartitions) := by
  have bootstrap := @applyBootstrap_footprint view spec .control
  have configuration := (bootstrapConfiguration_within topology dataGroups).widen [.bootstrap, .fence, .catalog, .topology, .policy, .stream] (by decide)
  have catalog (group : GroupId) :=
    (bootstrapCatalog_within spec group maxStreams maxPartitions).widen [.bootstrap, .fence, .catalog, .topology, .policy, .stream] (by decide)
  unfold applyBootstrapControl
  split
  · simp [Footprint]
  split
  · simp [Footprint]
  split
  · simp
  · rename_i error write applied
    simpa using (bootstrap.mono (by decide)) _ _ applied
  · rename_i result write _ applied
    obtain ⟨state, payload⟩ := bootstrap _ _ applied
    have started := state.widen [.bootstrap, .fence, .catalog, .topology, .policy, .stream] (by decide)
    repeat' split
    all_goals simp [Footprint, StateKey.family, started, payload, configuration, catalog]

theorem applyCreateStream_footprint (spec : CreateStreamSpec) (streamId : StreamId) :
    Applied.All (Footprint [.catalog, .stream]) (view.applyCreateStream spec streamId) := by
  unfold applyCreateStream
  repeat' split
  all_goals simp [Footprint, StateKey.family]

theorem applyReplicaReady_footprint (streamId : StreamId) (groupId : GroupId) :
    Applied.All (Footprint [.catalog, .stream]) (view.applyReplicaReady streamId groupId) := by
  unfold applyReplicaReady
  repeat' split
  all_goals simp [Footprint, StateKey.family]

theorem applyActivateStream_footprint (streamId : StreamId) :
    Applied.All (Footprint [.catalog, .stream]) (view.applyActivateStream streamId) := by
  unfold applyActivateStream moveStream
  repeat' split
  all_goals simp [Footprint, StateKey.family]

theorem applyBeginDelete_footprint (streamId : StreamId) :
    Applied.All (Footprint [.catalog, .stream]) (view.applyBeginDelete streamId) := by
  unfold applyBeginDelete moveStream
  repeat' split
  all_goals simp [Footprint, StateKey.family]

theorem applyFinishDelete_footprint (streamId : StreamId) :
    Applied.All (Footprint [.catalog, .stream]) (view.applyFinishDelete streamId) := by
  unfold applyFinishDelete moveStream
  repeat' split
  all_goals simp [Footprint, StateKey.family]

theorem createBookmarkRecord_footprint (id : BookmarkId) (partition : PartitionKey)
    (name : BookmarkName) (offset maximumOffset : Nat) :
    Applied.All (Footprint [.bookmark])
      (view.createBookmarkRecord id partition name offset maximumOffset) := by
  unfold createBookmarkRecord
  repeat' split
  all_goals simp [Footprint, StateKey.family]

theorem applyDeleteBookmark_footprint (partition : PartitionKey) (id : BookmarkId) :
    Applied.All (Footprint [.bookmark]) (view.applyDeleteBookmark partition id) := by
  unfold applyDeleteBookmark
  repeat' split
  all_goals simp [Footprint, StateKey.family]

theorem applyCreateStreamBookmark_footprint (id : BookmarkId) (name : BookmarkName)
    (vector : StreamCursorVector) :
    Applied.All (Footprint [.streamBookmark])
      (view.applyCreateStreamBookmark id name vector) := by
  unfold applyCreateStreamBookmark
  repeat' split
  all_goals simp [Footprint, StateKey.family]

theorem applyDeleteStreamBookmark_footprint (streamId : StreamId) (id : BookmarkId) :
    Applied.All (Footprint [.streamBookmark]) (view.applyDeleteStreamBookmark streamId id) := by
  unfold applyDeleteStreamBookmark
  repeat' split
  all_goals simp [Footprint, StateKey.family]

theorem storeMutationResult_within (request : MutationRequestId)
    (fingerprint : MutationFingerprint) (result : ApplyResult) :
    Within [.mutation] (view.storeMutationResult request fingerprint result) := by
  unfold storeMutationResult
  rw [within_cons]
  refine ⟨by simp [StateKey.family], ?_⟩
  split <;> simp [StateKey.family]

theorem applyAdvanceRetention_footprint (request : RetentionRequest) (clock : ClockObservation) :
    Applied.All (Footprint [.retention, .leaseClock, .mutation])
      (view.applyAdvanceRetention request clock) := by
  have receipt (result : ApplyResult) :=
    (@storeMutationResult_within view request.request (.retention request) result).widen [.retention, .leaseClock, .mutation] (by decide)
  unfold applyAdvanceRetention
  dsimp only
  repeat' split
  all_goals simp [Footprint, StateKey.family, receipt]

def decisionFamilies : List StateFamily :=
  [.lease, .leaseRequest, .leaseBudget, .leaseClock, .retention, .reclaimHint]

def leaseFamilies : List StateFamily := .mutation :: decisionFamilies

theorem expiryWrites_within (expiry : LeaseExpiryState) :
    Within [.lease, .leaseBudget, .retention, .reclaimHint] (view.expiryWrites expiry) := by
  intro op member
  simp only [expiryWrites, List.mem_append, List.mem_map] at member
  rcases member with ⟨lease, _, rfl⟩ | rest
  · simp [StateKey.family]
  · split at rest
    · simp at rest
    · simp only [List.mem_cons, List.mem_append, List.mem_map] at rest
      rcases rest with rfl | ⟨entry, _, rfl⟩ | ⟨entry, _, rfl⟩ <;> simp [StateKey.family]

theorem leaseCommand_footprint (request : MutationRequestId) (fingerprint : MutationFingerprint)
    (observation : ClockObservation)
    (decision : SafeLeaseClock → LeaseExpiryState → LeaseDecision)
    (within : ∀ clock expiry, Within decisionFamilies (decision clock expiry).2) :
    Applied.All (Footprint leaseFamilies)
      (view.leaseCommand request fingerprint observation decision) := by
  have receipt (result : ApplyResult) :=
    (@storeMutationResult_within view request fingerprint result).widen leaseFamilies (by decide)
  have expiry (state : LeaseExpiryState) :=
    (@expiryWrites_within view state).widen leaseFamilies (by decide)
  have decided (clock : SafeLeaseClock) (state : LeaseExpiryState) :=
    (within clock state).widen leaseFamilies (by decide)
  unfold leaseCommand
  repeat' split
  all_goals simp [Footprint, receipt, expiry, decided]

theorem admitDecision_within (request : ReplayLeaseRequest) (clock : SafeLeaseClock)
    (expiry : LeaseExpiryState) :
    Within decisionFamilies (view.admitDecision request clock expiry).2 := by
  unfold admitDecision
  dsimp only
  repeat' split
  all_goals simp [decisionFamilies, StateKey.family]

theorem renewDecision_within (request : LeaseRenewal) (clock : SafeLeaseClock) :
    Within decisionFamilies (view.renewDecision request clock).2 := by
  unfold renewDecision
  repeat' split
  all_goals simp [decisionFamilies, StateKey.family]

theorem releaseReclaim_within (expiry : LeaseExpiryState) (range : ReplayRange) :
    Within [.retention, .reclaimHint] (view.releaseReclaim expiry range) := by
  unfold releaseReclaim
  dsimp only
  repeat' split
  all_goals simp [StateKey.family]

/-- What a release writes behind the lease. -/
theorem releaseWrites_within (expiry : LeaseExpiryState) (lease : ReplayLease)
    (budget : LeaseBudget) (clock : SafeLeaseClock) :
    Within [.retention, .reclaimHint, .leaseBudget, .leaseClock]
      (view.releaseReclaim expiry lease.range ++
        [.put .leaseBudget budget, .put .leaseClock clock]) := by
  rw [within_append]
  exact ⟨(releaseReclaim_within _ _).mono (by decide), by simp [StateKey.family]⟩

theorem releaseDecision_within (request : LeaseRelease) (clock : SafeLeaseClock)
    (expiry : LeaseExpiryState) :
    Within decisionFamilies (view.releaseDecision request clock expiry).2 := by
  have reclaim (range : ReplayRange) :=
    (@releaseReclaim_within view expiry range).widen decisionFamilies (by decide)
  unfold releaseDecision
  repeat' split
  all_goals simp only [within_nil, within_cons, within_append, reclaim, true_and]
  all_goals simp [decisionFamilies, StateKey.family]

theorem applyCheckpointMutation_footprint (mutation : CheckpointMutation) :
    Applied.All (Footprint [.checkpoint, .mutation]) (view.applyCheckpointMutation mutation) := by
  have receipt (result : ApplyResult) :=
    (@storeMutationResult_within view mutation.request (.checkpoint mutation) result).widen [.checkpoint, .mutation] (by decide)
  unfold applyCheckpointMutation
  dsimp only
  repeat' split
  all_goals simp [Footprint, StateKey.family, receipt]

theorem beginWrites_within (intent : AdministrationIntent)
    (transitional : Option ClusterTopology) :
    Within [.topology, .administration] (beginWrites intent transitional) := by
  cases transitional <;> simp [beginWrites, StateKey.family]

theorem applyBeginAdministration_footprint (intent : AdministrationIntent) :
    Applied.All (Footprint [.topology, .administration])
      (view.applyBeginAdministration intent) := by
  unfold applyBeginAdministration
  repeat' split
  all_goals simp [Footprint, beginWrites_within]

theorem applyCompleteAdministration_footprint (request : AdministrationRequestId) :
    Applied.All (Footprint [.topology, .administration])
      (view.applyCompleteAdministration request) := by
  unfold applyCompleteAdministration
  dsimp only
  repeat' split
  all_goals simp [Footprint, StateKey.family]

theorem applyAbortAdministration_footprint (request : AdministrationRequestId) :
    Applied.All (Footprint [.topology, .administration])
      (view.applyAbortAdministration request) := by
  unfold applyAbortAdministration
  dsimp only
  repeat' split
  all_goals simp [Footprint, StateKey.family]

theorem applyFinishAdministrationAbort_footprint (request : AdministrationRequestId) :
    Applied.All (Footprint [.administration])
      (view.applyFinishAdministrationAbort request) := by
  unfold applyFinishAdministrationAbort
  repeat' split
  all_goals simp [Footprint, StateKey.family]

theorem applyInitializeClusterTopology_footprint (topology : ClusterTopology) :
    Applied.All (Footprint [.topology]) (view.applyInitializeClusterTopology topology) := by
  unfold applyInitializeClusterTopology
  repeat' split
  all_goals simp [Footprint, StateKey.family]

theorem applyInitializeSecurityPolicy_footprint (policy : SecurityPolicy) :
    Applied.All (Footprint [.policy]) (view.applyInitializeSecurityPolicy policy) := by
  unfold applyInitializeSecurityPolicy
  repeat' split
  all_goals simp [Footprint, StateKey.family]

theorem applySecurityMutation_footprint (mutation : SecurityMutation) :
    Applied.All (Footprint [.policy, .mutation]) (view.applySecurityMutation mutation) := by
  have receipt (result : ApplyResult) :=
    (@storeMutationResult_within view mutation.request (.security mutation) result).widen [.policy, .mutation] (by decide)
  unfold applySecurityMutation
  repeat' split
  all_goals simp [Footprint, StateKey.family, receipt]

theorem applySecuredTransport_footprint (request : MutationRequestId) (topology : ClusterTopology)
    (policy : SecurityPolicy) :
    Applied.All (Footprint [.topology, .policy, .mutation])
      (view.applySecuredTransport request topology policy) := by
  have receipt (result : ApplyResult) :=
    (@storeMutationResult_within view request (.transport request topology policy)
      result).widen [.topology, .policy, .mutation] (by decide)
  unfold applySecuredTransport
  repeat' split
  all_goals simp [Footprint, StateKey.family, receipt]

theorem applyOperationalProbe_footprint (logId : GroupLogId) (group : GroupId) :
    Applied.All (Footprint [.operationalProof]) (view.applyOperationalProbe logId group) := by
  unfold applyOperationalProbe
  repeat' split
  all_goals simp [Footprint, StateKey.family]

theorem storeActiveExport_footprint (active : Except DomainError ActiveExport) :
    Applied.All (Footprint [.exportState]) (storeActiveExport active) := by
  unfold storeActiveExport
  split <;> simp [Footprint, StateKey.family]

theorem exportReceiptForToken_footprint (token : ExportFenceToken) :
    Applied.All (Footprint []) (view.exportReceiptForToken token) := by
  unfold exportReceiptForToken exportConflict
  split <;> simp [Footprint]

theorem terminalAnswer_footprint (request : MutationRequestId) (exportId : Option ExportId)
    (outcome : ExportReceiptOutcome) :
    Applied.All (Footprint []) (view.terminalAnswer request exportId outcome) := by
  unfold terminalAnswer exportConflict
  repeat' split
  all_goals simp [Footprint]

theorem updateActiveExport_footprint (token : ExportFenceToken)
    (transition : ActiveExport → Except DomainError ActiveExport) :
    Applied.All (Footprint [.exportState]) (view.updateActiveExport token transition) := by
  unfold updateActiveExport exportConflict
  split
  · exact (exportReceiptForToken_footprint token).mono (by decide)
  · split
    · simp [Footprint]
    · exact storeActiveExport_footprint _

theorem applyBeginExport_footprint (logId : GroupLogId) (intent : ExportIntent)
    (deadline : ExportDeadline) :
    Applied.All (Footprint [.exportState, .fence])
      (view.applyBeginExport logId intent deadline) := by
  unfold applyBeginExport exportConflict startExport
  repeat' split
  all_goals simp [Footprint, StateKey.family]

theorem applyAcquireExportFence_footprint (logId : GroupLogId) (token : ExportFenceToken) :
    Applied.All (Footprint [.fence]) (view.applyAcquireExportFence logId token) := by
  unfold applyAcquireExportFence
  repeat' split
  all_goals simp [Footprint, StateKey.family]

theorem applyRequestExportCompletion_footprint (request : MutationRequestId)
    (exportId : ExportId) (artifact : ArtifactIdentity) :
    Applied.All (Footprint [.exportState])
      (view.applyRequestExportCompletion request exportId artifact) := by
  unfold applyRequestExportCompletion exportConflict
  split
  · exact (terminalAnswer_footprint _ _ _).mono (by decide)
  · split
    · simp [Footprint]
    · exact storeActiveExport_footprint _

theorem applyRequestExportAbort_footprint (request : MutationRequestId)
    (reason : ExportAbortReason) (observedClock : ExportDeadline) :
    Applied.All (Footprint [.exportState])
      (view.applyRequestExportAbort request reason observedClock) := by
  unfold applyRequestExportAbort exportConflict
  split
  · exact (terminalAnswer_footprint _ _ _).mono (by decide)
  · split
    · simp [Footprint]
    · split
      · simp [Footprint]
      · exact storeActiveExport_footprint _

theorem resumeDeferredReclaim_within :
    Within [.retention, .reclaimHint] view.resumeDeferredReclaim := by
  intro op member
  simp only [resumeDeferredReclaim, List.mem_flatMap, List.mem_cons, List.not_mem_nil,
    or_false] at member
  obtain ⟨hint, _, rfl | rfl⟩ := member <;> simp [StateKey.family]

theorem applyReleaseExportFence_footprint (token : ExportFenceToken) :
    Applied.All (Footprint [.fence, .retention, .reclaimHint])
      (view.applyReleaseExportFence token) := by
  have resumed := (@resumeDeferredReclaim_within view).widen [.fence, .retention, .reclaimHint] (by decide)
  unfold applyReleaseExportFence
  repeat' split
  all_goals simp [Footprint, StateKey.family, resumed]

theorem applyFinishExport_footprint (token : ExportFenceToken) :
    Applied.All (Footprint [.exportState, .fence]) (view.applyFinishExport token) := by
  have evicted (request : MutationRequestId) :
      Within [.exportState, .fence] (view.evictExportReceipts request) := by
    intro op member
    simp only [evictExportReceipts, List.mem_map] at member
    obtain ⟨entry, _, rfl⟩ := member
    simp [StateKey.family]
  unfold applyFinishExport exportConflict
  split
  · exact (exportReceiptForToken_footprint token).mono (by decide)
  · repeat' split
    all_goals simp [Footprint, StateKey.family, evicted]

end GroupView

end LightStream
