import LightStream.Proofs.Retries
import LightStream.Proofs.Frame

/-!
A held export fence freezes what an export reads.  Included commands only replay, and the
excluded lease commands leave retention alone: what they would have written to a reclaim cursor
goes to a hint.
-/

namespace LightStream

def frozenFamilies : List StateFamily :=
  [.record, .nextOffset, .retention, .bookmark, .streamBookmark, .stream]

def fencedLeaseFamilies : List StateFamily :=
  [.lease, .leaseRequest, .leaseBudget, .leaseClock, .reclaimHint, .mutation]

def GroupCommand.isLeaseCommand : GroupCommand → Bool
  | .admitReplayLease .. | .renewReplayLease .. | .releaseReplayLease .. => true
  | _ => false

namespace GroupView

variable {view : GroupView} {logId : GroupLogId}

theorem expireLease_fenced (fenced : view.exportFenced = true) (clock : SafeLeaseClock)
    (expiry : LeaseExpiryState) (lease : ReplayLease) :
    (view.expireLease clock expiry lease).retentions = expiry.retentions := by
  unfold expireLease
  split
  · rfl
  split
  · rfl
  · rfl

theorem expireDueLeases_fenced (fenced : view.exportFenced = true) (clock : SafeLeaseClock) :
    (view.expireDueLeases clock).retentions = [] := by
  have loop (leases : List ReplayLease) (expiry : LeaseExpiryState) :
      (leases.foldl (view.expireLease clock) expiry).retentions = expiry.retentions := by
    induction leases generalizing expiry with
    | nil => rfl
    | cons lease rest ih => rw [List.foldl_cons, ih, expireLease_fenced fenced]
  exact loop view.leases _

theorem expiryWrites_fenced (fenced : view.exportFenced = true) (clock : SafeLeaseClock) :
    Within fencedLeaseFamilies (view.expiryWrites (view.expireDueLeases clock)) := by
  intro op member
  simp only [expiryWrites, expireDueLeases_fenced fenced, List.map_nil, List.nil_append,
    List.mem_append, List.mem_map] at member
  rcases member with ⟨lease, _, rfl⟩ | rest
  · simp [StateKey.family, fencedLeaseFamilies]
  · split at rest
    · simp at rest
    · simp only [List.mem_cons, List.mem_map] at rest
      rcases rest with rfl | ⟨entry, _, rfl⟩ <;> simp [StateKey.family, fencedLeaseFamilies]

theorem leaseCommand_fenced (fenced : view.exportFenced = true) (request : MutationRequestId)
    (fingerprint : MutationFingerprint) (observation : ClockObservation)
    (decision : SafeLeaseClock → LeaseExpiryState → LeaseDecision)
    (within : ∀ clock expiry, Within fencedLeaseFamilies (decision clock expiry).2) :
    Applied.All (Footprint fencedLeaseFamilies)
      (view.leaseCommand request fingerprint observation decision) := by
  have receipt (result : ApplyResult) : Within fencedLeaseFamilies
      (view.storeMutationResult request fingerprint result) :=
    (storeMutationResult_within request fingerprint result).mono (by decide)
  unfold leaseCommand
  repeat' split
  all_goals simp [Footprint, receipt, expiryWrites_fenced fenced, within]

theorem releaseReclaim_fenced (fenced : view.exportFenced = true) (expiry : LeaseExpiryState)
    (range : ReplayRange) : Within fencedLeaseFamilies (view.releaseReclaim expiry range) := by
  unfold releaseReclaim
  dsimp only
  rw [if_pos fenced]
  split <;> simp [StateKey.family, fencedLeaseFamilies]

theorem dispatch_lease_fenced (fenced : view.exportFenced = true) {command : GroupCommand}
    (lease : command.isLeaseCommand = true) :
    Applied.All (Footprint fencedLeaseFamilies) (view.dispatch logId command) := by
  cases command with
  | admitReplayLease request clock =>
      refine leaseCommand_fenced fenced _ _ _ _ fun clock expiry => ?_
      unfold admitDecision
      dsimp only
      repeat' split
      all_goals simp [fencedLeaseFamilies, StateKey.family]
  | renewReplayLease request clock =>
      refine leaseCommand_fenced fenced _ _ _ (fun clock _ => view.renewDecision request clock)
        fun clock _ => ?_
      unfold renewDecision
      repeat' split
      all_goals simp [fencedLeaseFamilies, StateKey.family]
  | releaseReplayLease request clock =>
      refine leaseCommand_fenced fenced _ _ _ _ fun clock expiry => ?_
      unfold releaseDecision
      repeat' split
      all_goals simp only [within_nil, within_cons, within_append,
        releaseReclaim_fenced fenced, true_and]
      all_goals simp [fencedLeaseFamilies, StateKey.family]
  | _ => simp [GroupCommand.isLeaseCommand] at lease

theorem applyReleaseExportFence_other {held : HeldExportFence} {token : ExportFenceToken}
    (isHeld : view.mutationFenceState.held = some held) (other : held.token ≠ token) :
    Applied.All (Footprint []) (view.applyReleaseExportFence token) := by
  unfold applyReleaseExportFence
  split
  · simp [Footprint]
  · simp only [MutationFenceState.releaseForGroup, isHeld, ne_eq, other, not_false_eq_true, if_true]
    simp [Footprint]

theorem excluded_families {command : GroupCommand}
    (excluded : command.fenceClass ≠ .includedMutation) (other : command.isLeaseCommand = false)
    (kept : ∀ token, command ≠ .exportProtocol (.releaseFence token)) :
    command.movesPayloads = false ∧ ∀ family ∈ frozenFamilies, family ∉ command.families := by
  cases command with
  | exportProtocol command =>
      refine ⟨rfl, ?_⟩
      cases command with
      | releaseFence token => exact absurd rfl (kept token)
      | _ => simp [frozenFamilies, GroupCommand.families]
  | compareAndSetCheckpoint | operationalProbe | beginAdministration | completeAdministration
  | abortAdministration | finishAdministrationAbort | initializeClusterTopology
  | initializeSecurityPolicy | applySecurityMutation | activateSecuredTransport =>
      exact ⟨rfl, by simp [frozenFamilies, GroupCommand.families]⟩
  | admitReplayLease | renewReplayLease | releaseReplayLease =>
      simp [GroupCommand.isLeaseCommand] at other
  | _ => exact absurd rfl excluded

theorem applyCommand_frozen {held : HeldExportFence} {command : GroupCommand}
    (isHeld : view.mutationFenceState.held = some held)
    (kept : command ≠ .exportProtocol (.releaseFence held.token)) :
    Applied.All (fun _ write => (∀ family ∈ frozenFamilies,
        ∀ op ∈ write.state, op.key.family ≠ family) ∧ write.payload = [] ∧
        (command.isLeaseCommand = true → Within fencedLeaseFamilies write.state))
      (view.applyCommand logId command) := by
  intro result write done
  by_cases included : command.fenceClass = .includedMutation
  · rw [applyCommand_fenced isHeld included result write done]
    simp
  unfold applyCommand at done
  rw [if_neg included] at done
  have fenced : view.exportFenced = true := by
    rw [exportFenced, isHeld]
    rfl
  cases lease : command.isLeaseCommand with
  | true =>
      obtain ⟨state, payload⟩ := dispatch_lease_fenced fenced lease result write done
      refine ⟨?_, payload, fun _ => state⟩
      rintro family frozen op member rfl
      have inLease := state op member
      revert frozen inLease
      cases op.key.family <;> decide
  | false =>
      refine ⟨?_, ?_, fun impossible => by simp at impossible⟩
      · rintro family frozen op member rfl
        by_cases release : ∃ token, command = .exportProtocol (.releaseFence token)
        · obtain ⟨token, rfl⟩ := release
          have other : held.token ≠ token := by
            rintro rfl
            exact kept rfl
          exact absurd ((applyReleaseExportFence_other isHeld other result write done).1 op member)
            (by simp)
        · obtain ⟨still, outside⟩ := excluded_families included lease
            fun token same => release ⟨token, same⟩
          exact outside _ frozen ((dispatch_footprint still result write done).1 op member)
      · have still : command.movesPayloads = false := by
          cases command with
          | publish | publishMany | maintainRetention => exact absurd rfl included
          | _ => rfl
        exact (dispatch_footprint still result write done).2

end GroupView

namespace GroupDb

/-- A held export fence freezes the exported state: every command but the release of that fence
leaves the records, next offsets, retention states, bookmarks and stream descriptors as they are,
and every payload; a lease command changes only lease, budget, clock, hint and receipt keys. -/
theorem held_fence_freezes (db next : GroupDb) (logId : GroupLogId) (command : GroupCommand)
    (held : HeldExportFence) (result : ApplyResult)
    (isHeld : db.view.mutationFenceState.held = some held)
    (kept : command ≠ .exportProtocol (.releaseFence held.token))
    (applied : db.applyEntry ⟨logId, .normal command⟩ = .ok (result, next)) :
    (∀ key : StateKey, key.family ∈ frozenFamilies → next.get key = db.get key) ∧
      next.payload = db.payload ∧
      (command.isLeaseCommand = true → ∀ key : StateKey,
        key.family ∉ .applied :: fencedLeaseFamilies → next.get key = db.get key) := by
  unfold applyEntry at applied
  split at applied
  · simp at applied
  rename_i answer write done
  cases applied
  obtain ⟨frozen, payload, lease⟩ := GroupView.applyCommand_frozen isHeld kept _ _ done
  refine ⟨?_, ?_, ?_⟩
  · intro key inside
    rw [get_commit, Kv.Batch.effect_eq_none_iff.mpr]
    · rfl
    intro op member same
    rcases List.mem_append.mp member with written | position
    · exact frozen _ inside op written (by rw [same])
    · rw [List.mem_singleton] at position
      subst position
      subst same
      simp [StateKey.family, frozenFamilies] at inside
  · rw [commit_payload, payload]
    rfl
  · intro isLease key outside
    have within : Within (.applied :: fencedLeaseFamilies) (write.state ++ [.put .applied logId]) := by
      rw [within_append]
      exact ⟨(lease isLease).mono (by decide), by simp [StateKey.family]⟩
    rw [get_commit, within.effect_none outside]
    rfl

def sampleToken : ExportFenceToken := ⟨⟨1, Nat.one_ne_zero⟩, .bytes 1⟩

def sampleHeld : HeldExportFence := ⟨sampleToken, ⟨dataGroupId, 1, ⟨1, Nat.one_ne_zero⟩, 2⟩⟩

def fencedData : GroupDb :=
  (sampleData 2).commit
    ⟨[.put (.record ⟨⟨1⟩, 0⟩ 0) ⟨⟨⟨1, 1, 1⟩, 0⟩, 1, 1⟩, .put (.nextOffset ⟨⟨1⟩, 0⟩) 1,
      .put .mutationFence ⟨0, some sampleHeld, by rintro fence ⟨⟩; decide⟩], []⟩

def sampleAdmission : GroupCommand :=
  .admitReplayLease ⟨⟨⟨"reader"⟩, ⟨1⟩, 0⟩, sampleCluster, ⟨⟨⟨1⟩, 0⟩, 0, 1, by decide⟩, 1000, 10,
    by decide, by decide⟩ ⟨5, 6, by decide⟩

theorem held_fence_freezes_sample : ∃ result next,
    fencedData.applyEntry ⟨⟨1, 1, 3⟩, .normal sampleAdmission⟩ = .ok (result, next) ∧
    (∀ key : StateKey, key.family ∈ frozenFamilies → next.get key = fencedData.get key) ∧
      next.payload = fencedData.payload ∧
      (sampleAdmission.isLeaseCommand = true → ∀ key : StateKey,
        key.family ∉ .applied :: fencedLeaseFamilies → next.get key = fencedData.get key) := by
  have succeeds :
      (fencedData.applyEntry ⟨⟨1, 1, 3⟩, .normal sampleAdmission⟩).toBool = true := by decide
  cases applied : fencedData.applyEntry ⟨⟨1, 1, 3⟩, .normal sampleAdmission⟩ with
  | error error =>
      rw [applied] at succeeds
      simp [Except.toBool] at succeeds
  | ok done =>
      exact ⟨done.1, done.2, rfl, held_fence_freezes fencedData done.2 ⟨1, 1, 3⟩ sampleAdmission
        sampleHeld done.1 rfl (by simp [sampleAdmission]) applied⟩

end GroupDb

end LightStream
