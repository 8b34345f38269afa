import LightStream.Proofs.LeaseMoves

/-!
The answers to a principal.  A receipt or a lease in an answer belongs to a principal whose request
is answered, as long as renewals and releases are decided on leases of their own principal.
-/

namespace LightStream

def ApplyResult.shown : ApplyResult → List PrincipalId
  | .published receipt => [receipt.request.principal]
  | .publishedMany outcomes => outcomes.filterMap fun outcome =>
      outcome.result.toOption.map fun receipt => receipt.request.principal
  | .checkpoint (.advanced request ..) => [request.principal]
  | .checkpoint (.conflict request _) => [request.principal]
  | .retention result => [result.request.principal]
  | .replayLease lease => [lease.request.request.principal]
  | _ => []

@[simp] theorem ApplyResult.shown_rejected (error : DomainError) :
    (ApplyResult.rejected error).shown = [] := rfl

def MutationFingerprint.lease : MutationFingerprint → Option (PartitionKey × ReplayLeaseId)
  | .renew request => some (request.partition, request.lease)
  | .release request => some (request.partition, request.lease)
  | _ => none

/-- An answer to a request of a principal: what it shows is that principal's, and so is the lease
that a renewal or a release is refused for. -/
structure OwnAnswer (principal : PrincipalId) (fingerprint : MutationFingerprint)
    (result : ApplyResult) : Prop where
  shown : ∀ name ∈ result.shown, name = principal
  refused : fingerprint.lease ≠ none → ∀ admission lifecycle,
    result = .rejected (.replayLeaseInactive (.derived admission) lifecycle) →
      admission.principal = principal

theorem OwnAnswer.silent {principal : PrincipalId} {fingerprint : MutationFingerprint}
    {result : ApplyResult} (silent : result.shown = [])
    (live : ∀ id lifecycle, result ≠ .rejected (.replayLeaseInactive id lifecycle)) :
    OwnAnswer principal fingerprint result where
  shown := by simp [silent]
  refused := fun _ _ lifecycle same => absurd same (live _ lifecycle)

namespace GroupView

variable {view other : GroupView} {logId : GroupLogId} {clock : SafeLeaseClock}
  {observation : ClockObservation} {command : GroupCommand} {result : ApplyResult}
  {write : WriteBatch} {request : MutationRequestId} {fingerprint : MutationFingerprint}

def MutationsOwned (view : GroupView) : Prop :=
  ∀ request stored, view.get (.mutationReceipt request) = some stored →
    OwnAnswer request.principal stored.fingerprint stored.result

theorem mutationsOwned_empty (empty : ∀ key, view.get key = none) : view.MutationsOwned := by
  intro request stored found
  rw [empty] at found
  simp at found

theorem MutationsOwned.congr (owned : view.MutationsOwned)
    (same : ∀ key : StateKey, key.family = .mutation → other.get key = view.get key) :
    other.MutationsOwned := by
  intro request stored found
  rw [same _ rfl] at found
  exact owned request stored found

theorem MutationsOwned.prior (owned : view.MutationsOwned)
    (prior : view.priorMutationResult request fingerprint = some result) :
    OwnAnswer request.principal fingerprint result := by
  unfold priorMutationResult at prior
  split at prior
  · rename_i existing found
    split at prior
    · rename_i same
      cases prior
      rw [← same]
      exact owned request existing found
    · cases prior
      exact .silent rfl (by simp)
  · split at prior
    · cases prior
      exact .silent rfl (by simp)
    · simp at prior

theorem MutationsOwned.stored (owned : view.MutationsOwned)
    (apart : ∀ key : StateKey, key.family = .mutation → other.get key = view.get key)
    (answer : OwnAnswer request.principal fingerprint result) :
    (other.after (view.storeMutationResult request fingerprint result)).MutationsOwned := by
  intro earlier stored found
  rw [storeMutationResult_receipt] at found
  split at found
  · simp at found
  split at found
  · rename_i same
    cases found
    rw [← same]
    exact answer
  · rw [apart _ rfl] at found
    exact owned earlier stored found

/-- A lease command that is decided on a stored lease is of the principal of the lease. -/
def DecidesOwn (view : GroupView) (request : MutationRequestId) (fingerprint : MutationFingerprint)
    (observation : ClockObservation) : Prop :=
  view.priorMutationResult request fingerprint = none → ∀ clock partition id lease,
    view.advanceLeaseClock observation = .ok clock → fingerprint.lease = some (partition, id) →
      view.get (.leaseId id) = some lease → lease.range.partition = partition →
        lease.request.request.principal = request.principal

/-- The condition on a command: a renewal or a release is decided on a lease of its own principal. -/
def CommandOwns (view : GroupView) : GroupCommand → Prop
  | .renewReplayLease request observation =>
      view.DecidesOwn request.request (.renew request) observation
  | .releaseReplayLease request observation =>
      view.DecidesOwn request.request (.release request) observation
  | _ => True

section Leases

variable {decision : SafeLeaseClock → LeaseExpiryState → LeaseDecision}

theorem advanceLeaseClock_error {error : DomainError}
    (failed : view.advanceLeaseClock observation = .error error) :
    error = .leaseClockUnavailable := by
  unfold advanceLeaseClock SafeLeaseClock.advance SafeLeaseClock.new at failed
  split at failed
  · split at failed
    · cases failed
      rfl
    · simp at failed
  · simp at failed

theorem LeaseCase.own (owned : view.MutationsOwned)
    (case : view.LeaseCase request fingerprint observation decision result write)
    (decides : ∀ clock, view.priorMutationResult request fingerprint = none →
      view.advanceLeaseClock observation = .ok clock →
        OwnAnswer request.principal fingerprint (decision clock (view.expireDueLeases clock)).1) :
    OwnAnswer request.principal fingerprint result := by
  cases case with
  | answered result prior => exact owned.prior prior
  | unclocked fresh error clockless =>
      obtain rfl := advanceLeaseClock_error clockless
      exact .silent rfl (by simp)
  | decided fresh clock advanced => exact decides clock fresh advanced

theorem admitDecision_own {admission : ReplayLeaseRequest} {expiry : LeaseExpiryState} :
    OwnAnswer admission.request.principal (.admitLease admission)
      (view.admitDecision admission clock expiry).1 := by
  have case := @admitDecision_case view clock expiry admission
  generalize view.admitDecision admission clock expiry = decision at case ⊢
  refine ⟨?_, fun names => absurd rfl names⟩
  cases case with
  | refused => simp [ApplyResult.shown]
  | admitted bytes lease sized admits =>
      obtain ⟨_, same, _⟩ := admit_ok admits
      simp [ApplyResult.shown, same]

theorem inactiveLease_own {lease : ReplayLease} (principal : PrincipalId)
    (named : lease.id = .derived lease.request.request)
    (own : lease.request.request.principal = principal) :
    OwnAnswer principal fingerprint (inactiveLease lease) := by
  refine ⟨by simp [inactiveLease, ApplyResult.shown], ?_⟩
  intro _ admission lifecycle same
  simp only [inactiveLease, ApplyResult.rejected.injEq, DomainError.replayLeaseInactive.injEq,
    named, ReplayLeaseId.derived.injEq] at same
  rw [← same.1]
  exact own

theorem renewDecision_own {renewal : LeaseRenewal} (named : view.LeasesNamed)
    (owns : ∀ lease, view.get (.leaseId renewal.lease) = some lease →
      lease.range.partition = renewal.partition →
      lease.request.request.principal = renewal.request.principal) :
    OwnAnswer renewal.request.principal (.renew renewal) (view.renewDecision renewal clock).1 := by
  unfold renewDecision
  split
  · exact .silent rfl (by simp)
  rename_i lease stored
  obtain ⟨id, derived⟩ := named.named _ lease stored
  split
  · exact .silent rfl (by simp)
  rename_i ranged
  have own := owns lease stored (not_not.mp ranged)
  split
  · split
    · exact .silent rfl (by simp)
    split
    · rename_i error refuses
      unfold ReplayLease.renewed at refuses
      split at refuses
      · cases refuses
        exact .silent rfl (by simp)
      split at refuses
      · cases refuses
        exact .silent rfl (by simp)
      · simp at refuses
    · rename_i renewed renews
      obtain ⟨same, _⟩ := renewed_kept renews
      refine ⟨?_, by simp⟩
      simp [ApplyResult.shown, same, own]
  · exact inactiveLease_own _ (id.trans derived) own

theorem releaseDecision_own {release : LeaseRelease} {expiry : LeaseExpiryState}
    (named : view.LeasesNamed)
    (owns : ∀ lease, view.get (.leaseId release.lease) = some lease →
      lease.range.partition = release.partition →
      lease.request.request.principal = release.request.principal) :
    OwnAnswer release.request.principal (.release release)
      (view.releaseDecision release clock expiry).1 := by
  unfold releaseDecision
  split
  · exact .silent rfl (by simp)
  rename_i lease stored
  obtain ⟨id, derived⟩ := named.named _ lease stored
  split
  · exact .silent rfl (by simp)
  rename_i ranged
  have own := owns lease stored (not_not.mp ranged)
  split
  · refine ⟨?_, by simp⟩
    simp [ApplyResult.shown, ReplayLease.released, own]
  · exact inactiveLease_own _ (id.trans derived) own

end Leases

section Commands

theorem applyAdvanceRetention_own {retention : RetentionRequest} (owned : view.MutationsOwned)
    (done : view.applyAdvanceRetention retention observation = .ok (result, write)) :
    OwnAnswer retention.request.principal (.retention retention) result := by
  have plain (shown : ∀ name ∈ result.shown, name = retention.request.principal) :
      OwnAnswer retention.request.principal (.retention retention) result :=
    ⟨shown, fun names => absurd rfl names⟩
  unfold applyAdvanceRetention at done
  split at done
  · cases done
    exact plain (by simp [ApplyResult.shown])
  split at done
  · rename_i prior
    cases done
    exact owned.prior prior
  dsimp only at done
  split at done
  · cases done
    exact plain (by simp [ApplyResult.shown])
  split at done
  · cases done
    exact plain (by simp [ApplyResult.shown])
  split at done
  · cases done
    exact plain (by simp [ApplyResult.shown])
  · cases done
    exact plain (by simp [ApplyResult.shown])

theorem applyCheckpointMutation_own {mutation : CheckpointMutation} (owned : view.MutationsOwned)
    (done : view.applyCheckpointMutation mutation = .ok (result, write)) :
    OwnAnswer mutation.request.principal (.checkpoint mutation) result := by
  have plain (shown : ∀ name ∈ result.shown, name = mutation.request.principal) :
      OwnAnswer mutation.request.principal (.checkpoint mutation) result :=
    ⟨shown, fun names => absurd rfl names⟩
  unfold applyCheckpointMutation at done
  split at done
  · cases done
    exact plain (by simp [ApplyResult.shown])
  split at done
  · cases done
    exact plain (by simp [ApplyResult.shown])
  split at done
  · rename_i prior
    cases done
    exact owned.prior prior
  split at done
  · cases done
    exact plain (by simp [ApplyResult.shown])
  dsimp only at done
  split at done
  · cases done
    exact plain (by simp [ApplyResult.shown])
  split at done
  · cases done
    exact plain (by simp [ApplyResult.shown])
  split at done
  · cases done
    exact plain (by simp [ApplyResult.shown])
  split at done
  · simp at done
  · cases done
    exact plain (by simp [ApplyResult.shown])

theorem applySecurityMutation_own {mutation : SecurityMutation} (owned : view.MutationsOwned)
    (done : view.applySecurityMutation mutation = .ok (result, write)) :
    OwnAnswer mutation.request.principal (.security mutation) result := by
  have plain (shown : result.shown = []) :
      OwnAnswer mutation.request.principal (.security mutation) result :=
    ⟨by simp [shown], fun names => absurd rfl names⟩
  unfold applySecurityMutation at done
  split at done
  · cases done
    exact plain rfl
  split at done
  · rename_i prior
    cases done
    exact owned.prior prior
  split at done
  · cases done
    exact plain rfl
  split at done
  · cases done
    exact plain rfl
  · cases done
    exact plain rfl

theorem applySecuredTransport_own {topology : ClusterTopology} {policy : SecurityPolicy}
    (owned : view.MutationsOwned)
    (done : view.applySecuredTransport request topology policy = .ok (result, write)) :
    OwnAnswer request.principal (.transport request topology policy) result := by
  have plain (shown : result.shown = []) :
      OwnAnswer request.principal (.transport request topology policy) result :=
    ⟨by simp [shown], fun names => absurd rfl names⟩
  unfold applySecuredTransport at done
  split at done
  · cases done
    exact plain rfl
  split at done
  · rename_i prior
    cases done
    exact owned.prior prior
  split at done
  · simp at done
  split at done
  · split at done <;> cases done <;> exact plain rfl
  split at done <;> cases done <;> exact plain rfl

theorem dispatch_own (owned : view.MutationsOwned) (named : view.LeasesNamed)
    (owns : view.CommandOwns command) (carries : command.mutation = some (request, fingerprint))
    (done : view.dispatch logId command = .ok (result, write)) :
    OwnAnswer request.principal fingerprint result := by
  cases command with
  | advanceRetention retention clock =>
      cases carries
      exact applyAdvanceRetention_own owned done
  | admitReplayLease admission clock =>
      cases carries
      exact (applyAdmitReplayLease_case done).own owned fun _ _ _ => admitDecision_own
  | renewReplayLease renewal observation =>
      cases carries
      refine (applyRenewReplayLease_case done).own owned fun clock fresh advanced => ?_
      exact renewDecision_own named fun lease => owns fresh clock _ _ lease advanced rfl
  | releaseReplayLease release observation =>
      cases carries
      refine (applyReleaseReplayLease_case done).own owned fun clock fresh advanced => ?_
      exact releaseDecision_own named fun lease => owns fresh clock _ _ lease advanced rfl
  | compareAndSetCheckpoint mutation =>
      cases carries
      exact applyCheckpointMutation_own owned done
  | applySecurityMutation mutation =>
      cases carries
      exact applySecurityMutation_own owned done
  | activateSecuredTransport transport topology policy =>
      cases carries
      exact applySecuredTransport_own owned done
  | _ => cases carries

theorem dispatch_mutationsOwned (owned : view.MutationsOwned) (named : view.LeasesNamed)
    (owns : view.CommandOwns command)
    (done : view.dispatch logId command = .ok (result, write)) :
    (view.after write.state).MutationsOwned := by
  cases carries : command.mutation with
  | none => exact owned.congr (dispatch_unmutated carries done)
  | some carried =>
      obtain ⟨request, fingerprint⟩ := carried
      have answer := dispatch_own owned named owns carries done
      cases dispatch_mutation carries done with
      | silent => exact owned
      | stored fresh result writes apart =>
          rw [after_append]
          exact owned.stored apart answer

def Plain (result : ApplyResult) (_ : WriteBatch) : Prop := result.shown = []

theorem storeActiveExport_plain (active : Except DomainError ActiveExport) :
    Applied.All Plain (storeActiveExport active) := by
  unfold storeActiveExport
  split <;> simp [Plain, ApplyResult.shown, exportStatus]

theorem exportReceiptForToken_plain (token : ExportFenceToken) :
    Applied.All Plain (view.exportReceiptForToken token) := by
  unfold exportReceiptForToken exportConflict
  split <;> simp [Plain, ApplyResult.shown, exportStatus]

theorem updateActiveExport_plain (token : ExportFenceToken)
    (transition : ActiveExport → Except DomainError ActiveExport) :
    Applied.All Plain (view.updateActiveExport token transition) := by
  unfold updateActiveExport exportConflict
  split
  · exact exportReceiptForToken_plain token
  · split
    · simp [Plain, ApplyResult.shown]
    · exact storeActiveExport_plain _

theorem terminalAnswer_plain (request : MutationRequestId) (exportId : Option ExportId)
    (outcome : ExportReceiptOutcome) :
    Applied.All Plain (view.terminalAnswer request exportId outcome) := by
  unfold terminalAnswer exportReceiptResult exportConflict
  repeat' split
  all_goals simp [Plain, ApplyResult.shown, exportStatus]

theorem applyExport_plain (command : ExportCommand) :
    Applied.All Plain (view.applyExport logId command) := by
  cases command with
  | begin intent deadline =>
      show Applied.All Plain (view.applyBeginExport logId intent deadline)
      unfold applyBeginExport exportConflict startExport
      repeat' split
      all_goals simp [Plain, ApplyResult.shown, exportStatus]
  | acquireFence token =>
      show Applied.All Plain (view.applyAcquireExportFence logId token)
      unfold applyAcquireExportFence
      repeat' split
      all_goals simp [Plain, ApplyResult.shown]
  | recordFence token observation => exact updateActiveExport_plain token _
  | beginMaterialization token => exact updateActiveExport_plain token _
  | publishArtifact token artifact cut => exact updateActiveExport_plain token _
  | requestCompletion request exportId artifact =>
      show Applied.All Plain (view.applyRequestExportCompletion request exportId artifact)
      unfold applyRequestExportCompletion exportConflict
      split
      · exact terminalAnswer_plain _ _ _
      · split
        · simp [Plain, ApplyResult.shown]
        · exact storeActiveExport_plain _
  | requestAbort request reason observedClock =>
      show Applied.All Plain (view.applyRequestExportAbort request reason observedClock)
      unfold applyRequestExportAbort exportConflict
      split
      · exact terminalAnswer_plain _ _ _
      · split
        · simp [Plain, ApplyResult.shown]
        · split
          · simp [Plain, ApplyResult.shown]
          · exact storeActiveExport_plain _
  | releaseFence token =>
      show Applied.All Plain (view.applyReleaseExportFence token)
      unfold applyReleaseExportFence
      repeat' split
      all_goals simp [Plain, ApplyResult.shown]
  | recordRelease token observation => exact updateActiveExport_plain token _
  | finish token =>
      show Applied.All Plain (view.applyFinishExport token)
      unfold applyFinishExport exportConflict
      split
      · exact exportReceiptForToken_plain token
      · repeat' split
        all_goals simp [Plain, ApplyResult.shown, exportStatus]

theorem dispatch_plain (unclaimed : command.claims = []) :
    Applied.All Plain (view.dispatch logId command) := by
  have bootstrap (spec : BootstrapSpec) (kind : GroupKind) :
      Applied.All Plain (view.applyBootstrap spec kind) := by
    unfold applyBootstrap
    repeat' split
    all_goals simp [Plain, ApplyResult.shown, bootstrapResult]
  cases command with
  | bootstrapControl spec topology security dataGroups maxStreams maxPartitions =>
      show Applied.All Plain
        (view.applyBootstrapControl spec topology security dataGroups maxStreams maxPartitions)
      unfold applyBootstrapControl
      split
      · simp [Plain, ApplyResult.shown]
      split
      · simp [Plain, ApplyResult.shown]
      split
      · simp
      · simp [Plain, ApplyResult.shown]
      · rename_i result write _ applied
        have plain : result.shown = [] := bootstrap spec .control _ _ applied
        repeat' split
        all_goals simp [Plain, plain]
  | bootstrapData spec => exact bootstrap spec .data
  | createStreamIntent spec streamId =>
      show Applied.All Plain (view.applyCreateStream spec streamId)
      unfold applyCreateStream
      repeat' split
      all_goals simp [Plain, ApplyResult.shown]
  | replicaReady streamId groupId =>
      show Applied.All Plain (view.applyReplicaReady streamId groupId)
      unfold applyReplicaReady
      repeat' split
      all_goals simp [Plain, ApplyResult.shown]
  | activateStream streamId =>
      show Applied.All Plain (view.applyActivateStream streamId)
      unfold applyActivateStream moveStream
      repeat' split
      all_goals simp [Plain, ApplyResult.shown]
  | beginDeleteStream streamId =>
      show Applied.All Plain (view.applyBeginDelete streamId)
      unfold applyBeginDelete moveStream
      repeat' split
      all_goals simp [Plain, ApplyResult.shown]
  | finishDeleteStream streamId =>
      show Applied.All Plain (view.applyFinishDelete streamId)
      unfold applyFinishDelete moveStream
      repeat' split
      all_goals simp [Plain, ApplyResult.shown]
  | createBookmark id partition name offset =>
      show Applied.All Plain (view.applyCreateBookmark id partition name offset)
      unfold applyCreateBookmark createBookmarkRecord
      repeat' split
      all_goals simp [Plain, ApplyResult.shown]
  | deleteBookmark partition id =>
      show Applied.All Plain (view.applyDeleteBookmark partition id)
      unfold applyDeleteBookmark
      repeat' split
      all_goals simp [Plain, ApplyResult.shown]
  | createStreamBookmark id name vector =>
      show Applied.All Plain (view.applyCreateStreamBookmark id name vector)
      unfold applyCreateStreamBookmark
      repeat' split
      all_goals simp [Plain, ApplyResult.shown]
  | deleteStreamBookmark streamId id =>
      show Applied.All Plain (view.applyDeleteStreamBookmark streamId id)
      unfold applyDeleteStreamBookmark
      repeat' split
      all_goals simp [Plain, ApplyResult.shown]
  | maintainRetention partition expectedCursor maxRecords maxPayloadBytes observation =>
      show Applied.All Plain (view.applyMaintainRetention partition expectedCursor maxRecords
        maxPayloadBytes observation)
      unfold applyMaintainRetention
      dsimp only
      repeat' split
      all_goals simp [Plain, ApplyResult.shown, retentionStatus]
  | operationalProbe group =>
      show Applied.All Plain (view.applyOperationalProbe logId group)
      unfold applyOperationalProbe
      repeat' split
      all_goals simp [Plain, ApplyResult.shown]
  | beginAdministration intent =>
      show Applied.All Plain (view.applyBeginAdministration intent)
      unfold applyBeginAdministration
      repeat' split
      all_goals simp [Plain, ApplyResult.shown]
  | completeAdministration request =>
      show Applied.All Plain (view.applyCompleteAdministration request)
      unfold applyCompleteAdministration
      dsimp only
      repeat' split
      all_goals simp [Plain, ApplyResult.shown]
  | abortAdministration request =>
      show Applied.All Plain (view.applyAbortAdministration request)
      unfold applyAbortAdministration
      repeat' split
      all_goals simp [Plain, ApplyResult.shown]
  | finishAdministrationAbort request =>
      show Applied.All Plain (view.applyFinishAdministrationAbort request)
      unfold applyFinishAdministrationAbort
      repeat' split
      all_goals simp [Plain, ApplyResult.shown]
  | initializeClusterTopology topology =>
      show Applied.All Plain (view.applyInitializeClusterTopology topology)
      unfold applyInitializeClusterTopology
      repeat' split
      all_goals simp [Plain, ApplyResult.shown]
  | initializeSecurityPolicy policy =>
      show Applied.All Plain (view.applyInitializeSecurityPolicy policy)
      unfold applyInitializeSecurityPolicy
      repeat' split
      all_goals simp [Plain, ApplyResult.shown]
  | exportProtocol command => exact applyExport_plain command
  | publishMany batch => exact absurd (List.map_eq_nil_iff.mp unclaimed) batch.nonempty
  | _ => cases unclaimed

/-- The answers to a batch: one for each of its requests, with receipts of that request. -/
structure AnswersBatch (batch : ReplicatedPublishBatch) (outcomes : List PublishItemOutcome) :
    Prop where
  requests : outcomes.map PublishItemOutcome.request =
    batch.requests.map PublishBatch.request
  own : ∀ outcome ∈ outcomes, ∀ receipt, outcome.result = .ok receipt →
    receipt.request = outcome.request

theorem AnswersBatch.shown {batch : ReplicatedPublishBatch} {outcomes : List PublishItemOutcome}
    (answers : AnswersBatch batch outcomes) :
    ∀ name ∈ (ApplyResult.publishedMany outcomes).shown,
      name ∈ batch.requests.map fun publish => publish.request.principal := by
  intro name member
  obtain ⟨outcome, inside, shown⟩ := List.mem_filterMap.mp member
  obtain ⟨receipt, answered, rfl⟩ := Option.map_eq_some_iff.mp shown
  have published : outcome.result = .ok receipt := by
    cases result : outcome.result with
    | error error =>
        rw [result] at answered
        simp [Except.toOption] at answered
    | ok other =>
        rw [result] at answered
        cases answered
        rfl
  rw [answers.own outcome inside receipt published]
  have requested : outcome.request ∈ batch.requests.map PublishBatch.request := by
    rw [← answers.requests]
    exact List.mem_map_of_mem inside
  obtain ⟨publish, asked, same⟩ := List.mem_map.mp requested
  exact List.mem_map.mpr ⟨publish, asked, by rw [same]⟩

theorem OwnTrace.answers {batch : ReplicatedPublishBatch} {txn last : PublishApplyTxn}
    {trace : List Occurrence} (own : view.OwnTrace batch.requests txn last trace) :
    AnswersBatch batch (trace.map Occurrence.outcome) := by
  constructor
  · rw [← own.batches, List.map_map, List.map_map]
    rfl
  · intro outcome member receipt answered
    obtain ⟨this, inside, rfl⟩ := List.mem_map.mp member
    exact own.own this inside receipt answered

theorem priorPublishOutcome_own {batch : PublishBatch} {receipt : PublishReceipt}
    (owned : view.ReceiptsOwned)
    (prior : view.priorPublishOutcome batch = some (.ok receipt)) :
    receipt.request = batch.request := by
  obtain ⟨stored, found, answered⟩ := Option.map_eq_some_iff.mp prior
  exact owned _ _ stored found receipt (answer_outcome answered)

theorem replayPublishMany_case {batch : ReplicatedPublishBatch} {exportId : ExportId}
    (owned : view.ReceiptsOwned) :
    (∃ outcomes, view.replayPublishMany batch exportId = .publishedMany outcomes ∧
      AnswersBatch batch outcomes) ∨
    ∃ error, view.replayPublishMany batch exportId = .rejected error := by
  unfold replayPublishMany
  dsimp only
  split
  · have request (publish : PublishBatch) :
        (view.replayItem exportId publish).1.request = publish.request := by
      unfold replayItem
      split
      · rfl
      · split <;> rfl
    refine .inl ⟨_, rfl, ?_, ?_⟩
    · rw [List.map_map, List.map_map]
      exact List.map_congr_left fun publish _ => request publish
    · intro outcome member receipt answered
      obtain ⟨item, inside, rfl⟩ := List.mem_map.mp member
      obtain ⟨publish, _, rfl⟩ := List.mem_map.mp inside
      rw [request]
      unfold replayItem at answered
      split at answered
      · rename_i result prior
        dsimp only at answered
        rw [answered] at prior
        exact priorPublishOutcome_own owned prior
      · split at answered <;> simp at answered
  · exact .inr ⟨_, rfl⟩

theorem replayPublish_shown {batch : PublishBatch} (owned : view.ReceiptsOwned)
    (replayed : view.replayPublish batch = some result) :
    ∀ name ∈ result.shown, name ∈ [batch.request.principal] := by
  unfold replayPublish at replayed
  split at replayed
  · rename_i receipt prior
    cases replayed
    have own := priorPublishOutcome_own owned prior
    simp [ApplyResult.shown, own]
  · cases replayed
    simp
  · split at replayed
    · cases replayed
      simp
    · simp at replayed

theorem replayStream_plain {streamId : StreamId} {settled : StreamDescriptor → Bool}
    (replayed : view.replayStream streamId settled = some result) : result.shown = [] := by
  obtain ⟨descriptor, _, rfl⟩ := Option.map_eq_some_iff.mp replayed
  rfl

theorem replayBootstrap_plain {spec : BootstrapSpec} {kind : GroupKind} {answer : ApplyResult}
    (plain : answer.shown = [])
    (replayed : view.replayBootstrap spec kind answer = some result) : result.shown = [] := by
  unfold replayBootstrap at replayed
  split at replayed
  · cases replayed
    rfl
  split at replayed
  · simp at replayed
  · split at replayed <;> cases replayed
    · rfl
    · exact plain

theorem replayIncludedCommand_shown {exportId : ExportId} (receipts : view.ReceiptsOwned)
    (mutations : view.MutationsOwned)
    (replayed : view.replayIncludedCommand exportId command = .ok (some result)) :
    ∀ name ∈ result.shown, name ∈ command.claims := by
  have plain (none : result.shown = []) : ∀ name ∈ result.shown, name ∈ command.claims := by
    simp [none]
  cases command with
  | bootstrapControl =>
      refine plain (replayBootstrap_plain ?_ (Except.ok.inj replayed))
      split <;> rfl
  | bootstrapData => exact plain (replayBootstrap_plain rfl (Except.ok.inj replayed))
  | createStreamIntent spec streamId =>
      unfold replayIncludedCommand at replayed
      dsimp only at replayed
      split at replayed
      · simp at replayed
      split at replayed
      · cases replayed
        exact plain rfl
      split at replayed
      · simp at replayed
      · cases replayed
        exact plain rfl
  | replicaReady | activateStream | beginDeleteStream | finishDeleteStream =>
      exact plain (replayStream_plain (Except.ok.inj replayed))
  | publish batch => exact replayPublish_shown receipts (Except.ok.inj replayed)
  | publishMany batch =>
      obtain rfl := Option.some.inj (Except.ok.inj replayed)
      rcases @replayPublishMany_case view batch exportId receipts with
        ⟨outcomes, same, answers⟩ | ⟨error, same⟩
      · rw [same]
        exact answers.shown
      · rw [same]
        simp
  | createBookmark id partition name offset =>
      obtain ⟨existing, _, rfl⟩ := Option.map_eq_some_iff.mp (Except.ok.inj replayed)
      refine plain ?_
      split <;> rfl
  | deleteBookmark partition id =>
      obtain ⟨bookmark, _, rfl⟩ := Option.map_eq_some_iff.mp (Except.ok.inj replayed)
      exact plain rfl
  | createStreamBookmark id name vector =>
      obtain ⟨existing, _, rfl⟩ := Option.map_eq_some_iff.mp (Except.ok.inj replayed)
      refine plain ?_
      split <;> rfl
  | deleteStreamBookmark streamId id =>
      obtain ⟨bookmark, _, rfl⟩ := Option.map_eq_some_iff.mp (Except.ok.inj replayed)
      exact plain rfl
  | advanceRetention request clock =>
      have own := mutations.prior (Except.ok.inj replayed)
      intro name member
      exact List.mem_singleton.mpr (own.shown name member)
  | maintainRetention partition expectedCursor maxRecords maxPayloadBytes clock =>
      unfold replayIncludedCommand at replayed
      dsimp only at replayed
      split at replayed
      · cases replayed
        exact plain rfl
      · simp at replayed
  | beginAdministration intent =>
      obtain ⟨existing, _, rfl⟩ := Option.map_eq_some_iff.mp (Except.ok.inj replayed)
      refine plain ?_
      split <;> rfl
  | _ => cases replayed

theorem dispatch_shown (receipts : view.ReceiptsOwned) (mutations : view.MutationsOwned)
    (named : view.LeasesNamed) (owns : view.CommandOwns command)
    (done : view.dispatch logId command = .ok (result, write)) :
    ∀ name ∈ result.shown, name ∈ command.claims := by
  cases carries : command.mutation with
  | some carried =>
      obtain ⟨request, fingerprint⟩ := carried
      have own := dispatch_own mutations named owns carries done
      rw [GroupCommand.mutation_claims carries]
      intro name member
      exact List.mem_singleton.mpr (own.shown name member)
  | none =>
      cases command with
      | publish batch =>
          rcases applyPublish_answered receipts done with ⟨receipt, same, own⟩ | ⟨error, same⟩
          · rw [same]
            simp [ApplyResult.shown, own, GroupCommand.claims]
          · rw [same]
            simp
      | publishMany batch =>
          cases applyPublishMany_case receipts done with
          | refused => simp
          | traced trace last own => exact own.answers.shown
      | advanceRetention | admitReplayLease | renewReplayLease | releaseReplayLease
      | compareAndSetCheckpoint | applySecurityMutation | activateSecuredTransport => cases carries
      | _ =>
          have plain : result.shown = [] := dispatch_plain rfl _ _ done
          simp [plain]

end Commands

end GroupView

end LightStream
