import LightStream.Proofs.Receipts

/-!
The footprint of every command: the publish and maintenance handlers, the table of families for
all commands, and what a held export fence takes out of it.
-/

namespace LightStream

namespace GroupView

variable {view : GroupView} {logId : GroupLogId}

theorem applyPublishMany_within (batch : ReplicatedPublishBatch) :
    Applied.All (fun _ write => Within publishAllFamilies write.state)
      (view.applyPublishMany logId batch) := by
  unfold applyPublishMany
  split
  · simp
  split
  · simp
  rename_i spec bootstrapped
  rw [publishLoop_eq_publishTrace PublishApplyTxn.new_sound]
  cases traced : view.publishTrace logId spec.cluster batch.requests 0 0 PublishApplyTxn.new with
  | error error => simp
  | ok done =>
      simp only [Applied.all_ok]
      exact publishTrace_within PublishApplyTxn.new_sound (within_nil _) traced

def maintainFamilies : List StateFamily :=
  [.record, .retention, .leaseClock, .lease, .leaseBudget, .reclaimHint]

theorem reclaimStep_within {partition : PartitionKey} {ranges : List ReplayRange}
    {maxPayloadBytes : Nat} {reclaim next : ReclaimState}
    (within : Within maintainFamilies reclaim.write.state)
    (done : view.reclaimStep partition ranges maxPayloadBytes reclaim = .ok (some next)) :
    Within maintainFamilies next.write.state := by
  unfold reclaimStep at done
  dsimp only at done
  split at done
  · cases done
    exact within
  split at done
  · cases done
    exact within
  split at done
  · simp at done
  split at done
  · simp at done
  · cases done
    simp only [ReclaimState.reclaim, within_append]
    exact ⟨within, by simp [StateKey.family, maintainFamilies]⟩

theorem reclaimLoop_within {partition : PartitionKey} {ranges : List ReplayRange}
    {maxRecords maxPayloadBytes : Nat} : ∀ {fuel : Nat} {reclaim next : ReclaimState},
      Within maintainFamilies reclaim.write.state →
      view.reclaimLoop partition ranges maxRecords maxPayloadBytes fuel reclaim = .ok next →
      Within maintainFamilies next.write.state := by
  intro fuel
  induction fuel with
  | zero =>
      intro reclaim next within done
      cases done
      exact within
  | succ fuel ih =>
      intro reclaim next within done
      rw [reclaimLoop] at done
      split at done
      · split at done
        · simp at done
        · cases done
          exact within
        · rename_i step stepped
          exact ih (reclaimStep_within within stepped) done
      · cases done
        exact within

theorem applyMaintainRetention_within (partition : PartitionKey)
    (expectedCursor maxRecords maxPayloadBytes : Nat) (observation : ClockObservation) :
    Applied.All (fun _ write => Within maintainFamilies write.state)
      (view.applyMaintainRetention partition expectedCursor maxRecords maxPayloadBytes
        observation) := by
  unfold applyMaintainRetention
  dsimp only
  split
  · simp
  split
  · simp
  split
  · simp
  split
  · simp
  · rename_i clock _ _ reclaim done
    have expiry : Within maintainFamilies
        (view.expiryWrites (view.expireDueLeases clock)) :=
      (expiryWrites_within _).mono (by decide)
    simp only [Applied.all_ok, within_append]
    exact ⟨reclaimLoop_within expiry done, by simp [StateKey.family, maintainFamilies]⟩

end GroupView

def GroupCommand.families : GroupCommand → List StateFamily
  | .bootstrapControl .. => [.bootstrap, .fence, .catalog, .topology, .policy, .stream]
  | .bootstrapData .. => [.bootstrap, .fence]
  | .createStreamIntent .. | .replicaReady .. | .activateStream .. | .beginDeleteStream ..
  | .finishDeleteStream .. => [.catalog, .stream]
  | .publish .. | .publishMany .. => GroupView.publishAllFamilies
  | .compareAndSetCheckpoint .. => [.checkpoint, .mutation]
  | .createBookmark .. | .deleteBookmark .. => [.bookmark]
  | .createStreamBookmark .. | .deleteStreamBookmark .. => [.streamBookmark]
  | .advanceRetention .. => [.retention, .leaseClock, .mutation]
  | .admitReplayLease .. | .renewReplayLease .. | .releaseReplayLease .. => GroupView.leaseFamilies
  | .maintainRetention .. => GroupView.maintainFamilies
  | .operationalProbe .. => [.operationalProof]
  | .beginAdministration .. | .completeAdministration .. | .abortAdministration .. =>
      [.topology, .administration]
  | .finishAdministrationAbort .. => [.administration]
  | .initializeClusterTopology .. => [.topology]
  | .initializeSecurityPolicy .. => [.policy]
  | .applySecurityMutation .. => [.policy, .mutation]
  | .activateSecuredTransport .. => [.topology, .policy, .mutation]
  | .exportProtocol (.begin ..) => [.exportState, .fence]
  | .exportProtocol (.acquireFence ..) => [.fence]
  | .exportProtocol (.releaseFence ..) => [.fence, .retention, .reclaimHint]
  | .exportProtocol (.finish ..) => [.exportState, .fence]
  | .exportProtocol _ => [.exportState]

def GroupCommand.movesPayloads : GroupCommand → Bool
  | .publish _ | .publishMany _ | .maintainRetention .. => true
  | _ => false

namespace GroupView

variable {view : GroupView} {logId : GroupLogId}

theorem applyExport_footprint (command : ExportCommand) :
    Applied.All (Footprint (GroupCommand.exportProtocol command).families)
      (view.applyExport logId command) := by
  cases command with
  | begin intent deadline => exact applyBeginExport_footprint logId intent deadline
  | acquireFence token => exact applyAcquireExportFence_footprint logId token
  | recordFence token observation => exact updateActiveExport_footprint token _
  | beginMaterialization token => exact updateActiveExport_footprint token _
  | publishArtifact token artifact cut => exact updateActiveExport_footprint token _
  | requestCompletion request exportId artifact =>
      exact applyRequestExportCompletion_footprint request exportId artifact
  | requestAbort request reason observedClock =>
      exact applyRequestExportAbort_footprint request reason observedClock
  | releaseFence token => exact applyReleaseExportFence_footprint token
  | recordRelease token observation => exact updateActiveExport_footprint token _
  | finish token => exact applyFinishExport_footprint token

theorem dispatch_footprint {command : GroupCommand} (still : command.movesPayloads = false) :
    Applied.All (Footprint command.families) (view.dispatch logId command) := by
  cases command with
  | bootstrapControl spec topology security dataGroups maxStreams maxPartitions =>
      exact applyBootstrapControl_footprint spec topology security dataGroups maxStreams
        maxPartitions
  | bootstrapData spec => exact applyBootstrap_footprint spec .data
  | createStreamIntent spec streamId => exact applyCreateStream_footprint spec streamId
  | replicaReady streamId groupId => exact applyReplicaReady_footprint streamId groupId
  | activateStream streamId => exact applyActivateStream_footprint streamId
  | beginDeleteStream streamId => exact applyBeginDelete_footprint streamId
  | finishDeleteStream streamId => exact applyFinishDelete_footprint streamId
  | publish batch => simp [GroupCommand.movesPayloads] at still
  | publishMany batch => simp [GroupCommand.movesPayloads] at still
  | compareAndSetCheckpoint mutation => exact applyCheckpointMutation_footprint mutation
  | createBookmark id partition name offset => exact createBookmarkRecord_footprint id partition name offset _
  | deleteBookmark partition id => exact applyDeleteBookmark_footprint partition id
  | createStreamBookmark id name vector => exact applyCreateStreamBookmark_footprint id name vector
  | deleteStreamBookmark streamId id => exact applyDeleteStreamBookmark_footprint streamId id
  | advanceRetention request clock => exact applyAdvanceRetention_footprint request clock
  | admitReplayLease request clock =>
      exact leaseCommand_footprint _ _ _ _ fun clock expiry =>
        admitDecision_within request clock expiry
  | renewReplayLease request clock =>
      exact leaseCommand_footprint _ _ _ _ fun clock _ => renewDecision_within request clock
  | releaseReplayLease request clock =>
      exact leaseCommand_footprint _ _ _ _ fun clock expiry =>
        releaseDecision_within request clock expiry
  | maintainRetention => simp [GroupCommand.movesPayloads] at still
  | operationalProbe group => exact applyOperationalProbe_footprint logId group
  | beginAdministration intent => exact applyBeginAdministration_footprint intent
  | completeAdministration request => exact applyCompleteAdministration_footprint request
  | abortAdministration request => exact applyAbortAdministration_footprint request
  | finishAdministrationAbort request => exact applyFinishAdministrationAbort_footprint request
  | initializeClusterTopology topology => exact applyInitializeClusterTopology_footprint topology
  | initializeSecurityPolicy policy => exact applyInitializeSecurityPolicy_footprint policy
  | applySecurityMutation mutation => exact applySecurityMutation_footprint mutation
  | activateSecuredTransport request topology policy =>
      exact applySecuredTransport_footprint request topology policy
  | exportProtocol command => exact applyExport_footprint command

theorem dispatch_within (command : GroupCommand) :
    Applied.All (fun _ write => Within command.families write.state)
      (view.dispatch logId command) := by
  intro result write done
  cases still : command.movesPayloads with
  | false => exact (dispatch_footprint still result write done).1
  | true =>
      cases command with
      | publish batch => exact applyPublish_within done
      | publishMany batch => exact applyPublishMany_within batch result write done
      | maintainRetention partition expectedCursor maxRecords maxPayloadBytes clock =>
          exact applyMaintainRetention_within partition expectedCursor maxRecords maxPayloadBytes
            clock result write done
      | _ => simp [GroupCommand.movesPayloads] at still

theorem applyCommand_fenced {held : HeldExportFence} {command : GroupCommand}
    (isHeld : view.mutationFenceState.held = some held)
    (included : command.fenceClass = .includedMutation) :
    Applied.All (fun _ write => write = ⟨[], []⟩) (view.applyCommand logId command) := by
  unfold applyCommand
  rw [if_pos included, isHeld]
  dsimp only
  split <;> simp

theorem applyCommand_free {command : GroupCommand}
    (free : view.mutationFenceState.held = none) :
    view.applyCommand logId command = view.dispatch logId command := by
  unfold applyCommand
  rw [free]
  exact ite_self _

theorem applyCommand_dispatched {command : GroupCommand} {result : ApplyResult} {write : WriteBatch}
    (done : view.applyCommand logId command = .ok (result, write)) :
    view.dispatch logId command = .ok (result, write) ∨ write = ⟨[], []⟩ := by
  unfold applyCommand at done
  split at done
  · split at done
    · exact .inl done
    · split at done
      · simp at done
      · cases done
        exact .inr rfl
      · cases done
        exact .inr rfl
  · exact .inl done

theorem applyCommand_within (command : GroupCommand) :
    Applied.All (fun _ write => Within command.families write.state)
      (view.applyCommand logId command) := by
  by_cases included : command.fenceClass = .includedMutation
  · cases isHeld : view.mutationFenceState.held with
    | none =>
        unfold applyCommand
        rw [if_pos included, isHeld]
        exact dispatch_within command
    | some held =>
        intro result write done
        rw [applyCommand_fenced isHeld included result write done]
        exact within_nil _
  · unfold applyCommand
    rw [if_neg included]
    exact dispatch_within command

end GroupView

end LightStream
