import LightStream.Proofs.Fence
import LightStream.Proofs.LeaseClock
import LightStream.Proofs.PrincipalAnswers
import LightStream.Proofs.StreamRuns
import LightStream.Server.ReplayRuntime

/-!
Replay leases while an export fence is held.  The lease commands pass the fence, and the
maintenance that most operations drive first does not.
-/

namespace LightStream

def ApplyResult.fenced : ApplyResult → Bool
  | .rejected (.exportInProgress _ _) => true
  | _ => false

def MutationFingerprint.isLease : MutationFingerprint → Bool
  | .admitLease _ | .renew _ | .release _ => true
  | _ => false

namespace GroupView

variable {view other : GroupView} {logId : GroupLogId} {clock : SafeLeaseClock}
  {expiry : LeaseExpiryState} {observation : ClockObservation} {command : GroupCommand}
  {result : ApplyResult} {write : WriteBatch} {request : MutationRequestId}
  {fingerprint : MutationFingerprint}

def ReceiptsMeet (view : GroupView) (Meets : MutationFingerprint → ApplyResult → Prop) : Prop :=
  ∀ request stored, view.get (.mutationReceipt request) = some stored →
    Meets stored.fingerprint stored.result

section Receipts

variable {Meets : MutationFingerprint → ApplyResult → Prop}

theorem receiptsMeet_empty (empty : ∀ key, view.get key = none) : view.ReceiptsMeet Meets := by
  intro request stored found
  rw [empty] at found
  simp at found

theorem ReceiptsMeet.congr (meet : view.ReceiptsMeet Meets)
    (same : ∀ key : StateKey, key.family = .mutation → other.get key = view.get key) :
    other.ReceiptsMeet Meets := by
  intro request stored found
  rw [same _ rfl] at found
  exact meet request stored found

theorem ReceiptsMeet.stored (meet : view.ReceiptsMeet Meets)
    (apart : ∀ key : StateKey, key.family = .mutation → other.get key = view.get key)
    (answer : Meets fingerprint result) :
    (other.after (view.storeMutationResult request fingerprint result)).ReceiptsMeet Meets := by
  intro earlier stored found
  rw [storeMutationResult_receipt] at found
  split at found
  · simp at found
  split at found
  · cases found
    exact answer
  · rw [apart _ rfl] at found
    exact meet earlier stored found

theorem dispatch_receiptsMeet (meet : view.ReceiptsMeet Meets)
    (done : view.dispatch logId command = .ok (result, write))
    (answers : ∀ request fingerprint, command.mutation = some (request, fingerprint) →
      write = ⟨[], []⟩ ∨ Meets fingerprint result) :
    (view.after write.state).ReceiptsMeet Meets := by
  cases carries : command.mutation with
  | none => exact meet.congr (dispatch_unmutated carries done)
  | some carried =>
      obtain ⟨request, fingerprint⟩ := carried
      rcases answers request fingerprint carries with rfl | answer
      · exact meet
      · cases dispatch_mutation carries done with
        | silent => exact meet
        | stored fresh result writes apart =>
            rw [after_append]
            exact meet.stored apart answer

end Receipts

def LeaseAnswer (fingerprint : MutationFingerprint) (result : ApplyResult) : Prop :=
  fingerprint.isLease = true → result.fenced = false

theorem ReceiptsMeet.prior (meet : view.ReceiptsMeet LeaseAnswer)
    (lease : fingerprint.isLease = true)
    (prior : view.priorMutationResult request fingerprint = some result) :
    result.fenced = false := by
  unfold priorMutationResult at prior
  split at prior
  · rename_i existing found
    split at prior
    · rename_i same
      cases prior
      rw [← same] at lease
      exact meet request existing found lease
    · cases prior
      rfl
  · split at prior
    · cases prior
      rfl
    · simp at prior

section Decisions

theorem admitLease_unfenced {id : ReplayLeaseId} {admission : ReplayLeaseRequest} {bytes : Nat}
    {state : AdmissionState} {error : DomainError}
    (refused : admitLease id admission bytes state = .error error) :
    (ApplyResult.rejected error).fenced = false := by
  unfold admitLease at refused
  repeat' split at refused
  all_goals cases refused
  all_goals rfl

theorem replayRangeBytes_unfenced {admission : ReplayLeaseRequest}
    {retention : PartitionRetentionState} {error : DomainError}
    (refused : view.replayRangeBytes admission retention = .error error) :
    (ApplyResult.rejected error).fenced = false := by
  unfold replayRangeBytes at refused
  dsimp only at refused
  split at refused
  · rename_i start failed
    cases refused
    repeat' split at failed
    all_goals cases failed
    rfl
  · repeat' split at refused
    all_goals cases refused
    all_goals rfl

theorem admitDecision_unfenced {admission : ReplayLeaseRequest} :
    (view.admitDecision admission clock expiry).1.fenced = false := by
  unfold admitDecision
  dsimp only
  split
  · rfl
  split
  · rename_i error refused
    exact replayRangeBytes_unfenced refused
  split
  · rename_i error refused
    exact admitLease_unfenced refused
  · rfl

theorem inactiveLease_unfenced {lease : ReplayLease} : (inactiveLease lease).fenced = false := rfl

theorem renewDecision_unfenced {renewal : LeaseRenewal} :
    (view.renewDecision renewal clock).1.fenced = false := by
  unfold renewDecision
  split
  · rfl
  split
  · rfl
  split
  · split
    · rfl
    split
    · rename_i error refused
      unfold ReplayLease.renewed at refused
      repeat' split at refused
      all_goals cases refused
      all_goals rfl
    · rfl
  · exact inactiveLease_unfenced

theorem releaseDecision_unfenced {release : LeaseRelease} :
    (view.releaseDecision release clock expiry).1.fenced = false := by
  unfold releaseDecision
  split
  · rfl
  split
  · rfl
  split
  · rfl
  · exact inactiveLease_unfenced

theorem LeaseCase.unfenced {decision : SafeLeaseClock → LeaseExpiryState → LeaseDecision}
    (meet : view.ReceiptsMeet LeaseAnswer) (lease : fingerprint.isLease = true)
    (case : view.LeaseCase request fingerprint observation decision result write)
    (decides : ∀ clock expiry, (decision clock expiry).1.fenced = false) :
    result.fenced = false := by
  cases case with
  | answered result prior => exact meet.prior lease prior
  | unclocked fresh error clockless =>
      obtain rfl := advanceLeaseClock_error clockless
      rfl
  | decided fresh clock advanced => exact decides clock _

end Decisions

theorem dispatch_unfenced (meet : view.ReceiptsMeet LeaseAnswer) (lease : fingerprint.isLease = true)
    (carries : command.mutation = some (request, fingerprint))
    (done : view.dispatch logId command = .ok (result, write)) : result.fenced = false := by
  cases command with
  | admitReplayLease admission clock =>
      cases carries
      exact (applyAdmitReplayLease_case done).unfenced meet rfl fun _ _ =>
        admitDecision_unfenced
  | renewReplayLease renewal clock =>
      cases carries
      exact (applyRenewReplayLease_case done).unfenced meet rfl fun _ _ =>
        renewDecision_unfenced
  | releaseReplayLease release clock =>
      cases carries
      exact (applyReleaseReplayLease_case done).unfenced meet rfl fun _ _ =>
        releaseDecision_unfenced
  | _ => cases carries <;> simp [MutationFingerprint.isLease] at lease

end GroupView

namespace GroupDb

variable {identity : GroupIdentity} {window : Nat} {content : PayloadId → Record}
  {Allowed : GroupDb → GroupEntry → Prop} {history : List GroupEntry} {db : GroupDb}

theorem Ran.receiptsMeet {Meets : MutationFingerprint → ApplyResult → Prop}
    (answers : ∀ {view : GroupView} {logId : GroupLogId} {command : GroupCommand}
      {result : ApplyResult} {write : WriteBatch}, view.ReceiptsMeet Meets →
      view.dispatch logId command = .ok (result, write) → ∀ request fingerprint,
        command.mutation = some (request, fingerprint) →
          write = ⟨[], []⟩ ∨ Meets fingerprint result)
    (ran : Ran identity window content Allowed history db) : db.view.ReceiptsMeet Meets := by
  refine @Ran.upheld identity window content Allowed history db
    (fun view => view.ReceiptsMeet Meets) [.mutation] (by decide) ?_
    GroupView.receiptsMeet_empty ?_ ran
  · intro view other meet same
    exact meet.congr fun key inside => same key (by simp [inside])
  · intro history db logId command result write ran meet due allowed free done
    exact GroupView.dispatch_receiptsMeet meet done (answers meet done)

theorem Ran.leaseAnswers (ran : Ran identity window content Allowed history db) :
    db.view.ReceiptsMeet GroupView.LeaseAnswer :=
  ran.receiptsMeet fun meet done _ _ carries =>
    .inr fun lease => GroupView.dispatch_unfenced meet lease carries done

end GroupDb

section Attempts

variable {α β : Type} {next : α → DataGroup → GroupOutcome β}

@[simp] theorem attempt_ok (value : α) (group : DataGroup) :
    attempt (.ok value, group) next = next value group := rfl

@[simp] theorem attempt_error (error : DomainError) (group : DataGroup) :
    attempt (.error error, group) next = (.error error, group) := rfl

end Attempts

def leaseOutcome (texts : RuntimeTexts) (unexpected : String) :
    Applied → Except DomainError ReplayLease
  | .error error => .error (.storage (texts.fatal error))
  | .ok (.replayLease lease, _) => .ok lease
  | .ok (.rejected error, _) => .error error
  | .ok (other, _) => .error (.storage (unexpected ++ texts.display other))

/-- An operation answers what its own step does, and turns nobody away for an export. -/
def Proceeds {α : Type} (outcome own : Except DomainError α) : Prop :=
  outcome = own ∧ ∀ exportId known, outcome ≠ .error (.exportInProgress exportId known)

namespace DataGroup

variable {texts : RuntimeTexts} {group : DataGroup} {partition : PartitionKey}
  {observation : ClockObservation} {fence : HeldExportFence}

def ticked (group : DataGroup) : DataGroup :=
  { group with clock := fun reading => group.clock (reading + 1) }

theorem observe_eq (read : leaseClockObservation (group.clock 0) = .ok observation) :
    group.observe = (.ok observation, group.ticked) := by
  unfold observe
  rw [read]
  rfl

def advanced (group : DataGroup) (command : GroupCommand) (db : GroupDb) : DataGroup :=
  ⟨db, group.clock, fun entry => group.logIds (entry + 1), group.submitted ++ [command]⟩

theorem submit_ok {command : GroupCommand} {result : ApplyResult} {db : GroupDb}
    (done : group.db.applyEntry ⟨group.logIds 0, .normal command⟩ = .ok (result, db)) :
    group.submit texts command = (.ok result, group.advanced command db) := by
  unfold submit
  dsimp only
  rw [done]
  rfl

theorem maintain_idle (read : leaseClockObservation (group.clock 0) = .ok observation)
    (idle : group.db.retentionMaintenanceNeeded partition observation.lowerBound = false) :
    group.maintainGroupRetention texts partition =
      (.ok (group.db.retentionStatus partition), group.ticked) := by
  have same : group.ticked.db = group.db := rfl
  rw [maintainGroupRetention, maintainRounds, observe_eq read, attempt_ok, same, idle]
  rfl

theorem maintenance_fenced {view : GroupView} {logId : GroupLogId} {status : RetentionStatus}
    (held : view.mutationFenceState.held = some fence)
    (current : status.reclaimCursor = (view.retentionOf partition).reclaimCursor) :
    view.applyCommand logId (maintenanceCommand partition status observation) =
      reject (GroupView.exportInProgress fence.token.exportId) := by
  have included : (maintenanceCommand partition status observation).fenceClass =
      .includedMutation := rfl
  rw [GroupView.applyCommand, if_pos included, held]
  simp only [maintenanceCommand, GroupView.replayIncludedCommand, current, ne_eq, not_true_eq_false, if_false]

theorem maintain_fenced (held : group.db.view.mutationFenceState.held = some fence)
    (read : leaseClockObservation (group.clock 0) = .ok observation)
    (needed : group.db.retentionMaintenanceNeeded partition observation.lowerBound = true) :
    ∃ after, group.maintainGroupRetention texts partition =
      (.error (.exportInProgress fence.token.exportId .definiteNoCommit), after) := by
  have same : group.ticked.db = group.db := rfl
  rw [maintainGroupRetention, maintainRounds, observe_eq read, attempt_ok, same, needed, if_pos rfl]
  dsimp only
  have rejected : group.ticked.db.applyEntry ⟨group.ticked.logIds 0, .normal
      (maintenanceCommand partition (group.db.retentionStatus partition) observation)⟩ =
        .ok (.rejected (GroupView.exportInProgress fence.token.exportId),
          group.db.commit ⟨[.put .applied (group.ticked.logIds 0)], []⟩) := by
    have handled := @maintenance_fenced partition observation fence group.db.view
      (group.ticked.logIds 0) (group.db.retentionStatus partition) held rfl
    unfold GroupDb.applyEntry GroupView.applyPayload
    dsimp only
    rw [same, handled]
    rfl
  rw [submit_ok rejected]
  exact ⟨_, rfl⟩

theorem leaseWrite_eq {command : ClockObservation → GroupCommand} {unexpected : String}
    (read : leaseClockObservation (group.clock 0) = .ok observation)
    (passes : (command observation).fenceClass ≠ .includedMutation) :
    (group.leaseWrite texts command unexpected).1 =
      leaseOutcome texts unexpected
        (group.db.view.dispatch (group.logIds 0) (command observation)) := by
  have free : group.db.view.applyPayload (group.logIds 0) (.normal (command observation)) =
      group.db.view.dispatch (group.logIds 0) (command observation) := if_neg passes
  have same : group.ticked.db = group.db ∧ group.ticked.logIds = group.logIds := ⟨rfl, rfl⟩
  rw [leaseWrite, observe_eq read, attempt_ok]
  unfold submit GroupDb.applyEntry
  dsimp only
  rw [same.1, same.2, free]
  cases group.db.view.dispatch (group.logIds 0) (command observation) with
  | error error => rfl
  | ok done =>
      obtain ⟨result, write⟩ := done
      cases result <;> rfl

theorem leaseOutcome_unfenced {unexpected : String} {applied : Applied}
    (unfenced : ∀ result write, applied = .ok (result, write) → result.fenced = false)
    (exportId : ExportId) (known : RequestOutcome) :
    leaseOutcome texts unexpected applied ≠ .error (.exportInProgress exportId known) := by
  intro turned
  cases applied with
  | error error => simp [leaseOutcome] at turned
  | ok done =>
      obtain ⟨result, write⟩ := done
      have passed := unfenced result write rfl
      cases result with
      | rejected error =>
          simp only [leaseOutcome, Except.error.injEq] at turned
          rw [turned] at passed
          simp [ApplyResult.fenced] at passed
      | _ => simp [leaseOutcome] at turned

section Operations

variable {α : Type} {operation : DataGroup → GroupOutcome α} {own : Except DomainError α}

theorem maintained_proceeds (held : group.db.view.mutationFenceState.held = some fence)
    (read : leaseClockObservation (group.clock 0) = .ok observation)
    (unfenced : ∀ exportId known, own ≠ .error (.exportInProgress exportId known))
    (does : (operation group.ticked).1 = own) :
    Proceeds (attempt (group.maintainGroupRetention texts partition) fun _ => operation).1 own ↔
      group.db.retentionMaintenanceNeeded partition observation.lowerBound = false := by
  constructor
  · intro proceeds
    rw [← Bool.not_eq_true]
    intro needed
    obtain ⟨after, turned⟩ := @maintain_fenced texts group partition observation fence held read
      needed
    refine proceeds.2 fence.token.exportId .definiteNoCommit ?_
    rw [turned, attempt_error]
  · intro idle
    rw [maintain_idle read idle, attempt_ok, does]
    exact ⟨rfl, unfenced⟩

end Operations

theorem replayLease_unfenced {db : GroupDb} {lease : ReplayLeaseId} (exportId : ExportId)
    (known : RequestOutcome) :
    db.replayLease partition lease ≠ .error (.exportInProgress exportId known) := by
  unfold GroupDb.replayLease
  split
  · simp
  split
  · simp
  · simp

theorem fetchProtectedLoop_unfenced {db : GroupDb} {rest : StateKey → Kv.Bytes}
    {head : Kv.Bytes} {limit stop : Nat} (exportId : ExportId) (known : RequestOutcome)
    (keys : List StateKey) (records : List CommittedRecord) (payloadBytes : Nat) :
    db.fetchProtectedLoop rest head limit stop keys records payloadBytes ≠
      .error (.exportInProgress exportId known) := by
  induction keys generalizing records payloadBytes with
  | nil => simp [GroupDb.fetchProtectedLoop]
  | cons key keys ih =>
      rw [GroupDb.fetchProtectedLoop]
      split
      · simp
      dsimp only
      split
      · simp
      split
      · simp
      split
      · simp
      split
      · simp
      · exact ih _ _

theorem fetchProtected_unfenced {db : GroupDb} {rest : StateKey → Kv.Bytes} {cluster : ClusterId}
    {lease : ReplayLeaseId} {offset limit : Nat} (exportId : ExportId) (known : RequestOutcome) :
    db.fetchProtected rest cluster partition lease offset limit ≠
      .error (.exportInProgress exportId known) := by
  unfold GroupDb.fetchProtected
  split
  · simp
  split
  · simp
  split
  · simp
  split
  · simp
  split
  · simp
  split
  · simp
  split
  · split
    · simp
    split
    · split
      · rename_i error failed
        rintro ⟨⟩
        exact fetchProtectedLoop_unfenced exportId known _ _ _ failed
      · simp
    · simp
  · simp

end DataGroup

namespace ActiveCluster

variable {texts : RuntimeTexts} {active : ActiveCluster} {cluster : ClusterId} {group : DataGroup}
  {partition : PartitionKey} {suppliedGroup : Option GroupId} {suppliedRevision : Option Nat}

theorem call_eq {α : Type} {operation : DataGroup → GroupOutcome α}
    (reached : active.dataGroup cluster partition suppliedGroup suppliedRevision = .ok group) :
    active.call cluster partition suppliedGroup suppliedRevision operation =
      (operation group).1 := by
  rw [call, reached]

/-- While a fence is held, an operation on replay leases answers what the rules of leases alone say
exactly when no retention maintenance is needed at its first reading of the clock; a release always
does. -/
theorem lease_operations_fenced {identity : GroupIdentity} {window : Nat}
    {content : PayloadId → Record} {Allowed : GroupDb → GroupEntry → Prop}
    {history : List GroupEntry} {fence : HeldExportFence} {observed : Nat → ClockObservation}
    (texts : RuntimeTexts) (rest : StateKey → Kv.Bytes) (active : ActiveCluster)
    (suppliedGroup : Option GroupId) (suppliedRevision : Option Nat)
    (ran : GroupDb.Ran identity window content Allowed history group.db)
    (held : group.db.view.mutationFenceState.held = some fence)
    (reads : ∀ reading, leaseClockObservation (group.clock reading) = .ok (observed reading)) :
    (∀ cluster request,
      active.dataGroup cluster request.range.partition suppliedGroup suppliedRevision = .ok group →
      (Proceeds (active.admitReplayLease texts cluster suppliedGroup suppliedRevision request)
          (leaseOutcome texts "unexpected replay lease apply result "
            (group.db.view.applyAdmitReplayLease request (observed 1))) ↔
        group.db.retentionMaintenanceNeeded request.range.partition (observed 0).lowerBound =
          false)) ∧
    (∀ cluster request,
      active.dataGroup cluster request.partition suppliedGroup suppliedRevision = .ok group →
      (Proceeds (active.renewReplayLease texts cluster suppliedGroup suppliedRevision request)
          (leaseOutcome texts "unexpected replay lease renewal result "
            (group.db.view.applyRenewReplayLease request (observed 1))) ↔
        group.db.retentionMaintenanceNeeded request.partition (observed 0).lowerBound = false)) ∧
    (∀ cluster request,
      active.dataGroup cluster request.partition suppliedGroup suppliedRevision = .ok group →
      Proceeds (active.releaseReplayLease texts cluster suppliedGroup suppliedRevision request)
        (leaseOutcome texts "unexpected replay lease release result "
          (group.db.view.applyReleaseReplayLease request (observed 0)))) ∧
    (∀ cluster partition lease,
      active.dataGroup cluster partition suppliedGroup suppliedRevision = .ok group →
      (Proceeds (active.replayLease texts cluster suppliedGroup suppliedRevision partition lease)
          (group.db.replayLease partition lease) ↔
        group.db.retentionMaintenanceNeeded partition (observed 0).lowerBound = false)) ∧
    (∀ request,
      active.dataGroup request.cluster request.partition suppliedGroup suppliedRevision =
        .ok group →
      (Proceeds (active.fetchProtected texts suppliedGroup suppliedRevision rest request)
          (group.db.fetchProtected rest request.cluster request.partition request.lease
            request.offset request.limit) ↔
        group.db.retentionMaintenanceNeeded request.partition (observed 0).lowerBound = false)) := by
  have unfenced := ran.leaseAnswers
  have later : leaseClockObservation (group.ticked.clock 0) = .ok (observed 1) := reads 1
  refine ⟨?_, ?_, ?_, ?_, ?_⟩
  · intro cluster request reached
    rw [admitReplayLease, call_eq reached]
    refine DataGroup.maintained_proceeds held (reads 0) ?_ ?_
    · refine DataGroup.leaseOutcome_unfenced fun result write done => ?_
      exact @GroupView.dispatch_unfenced _ (group.logIds 0) (.admitReplayLease request (observed 1))
        _ _ _ _ unfenced rfl rfl done
    · exact DataGroup.leaseWrite_eq later nofun
  · intro cluster request reached
    rw [renewReplayLease, call_eq reached]
    refine DataGroup.maintained_proceeds held (reads 0) ?_ ?_
    · refine DataGroup.leaseOutcome_unfenced fun result write done => ?_
      exact @GroupView.dispatch_unfenced _ (group.logIds 0) (.renewReplayLease request (observed 1))
        _ _ _ _ unfenced rfl rfl done
    · exact DataGroup.leaseWrite_eq later nofun
  · intro cluster request reached
    rw [releaseReplayLease, call_eq reached]
    have write : (group.leaseWrite texts (.releaseReplayLease request)
        "unexpected replay lease release result ").1 =
          leaseOutcome texts "unexpected replay lease release result "
            (group.db.view.applyReleaseReplayLease request (observed 0)) :=
      DataGroup.leaseWrite_eq (reads 0) nofun
    have same : (group.releaseReplayLease texts request).1 =
        (group.leaseWrite texts (.releaseReplayLease request)
          "unexpected replay lease release result ").1 := by
      unfold DataGroup.releaseReplayLease attempt
      split
      · rename_i failed
        rw [failed]
      · rename_i done
        rw [done]
    rw [same, write]
    refine ⟨rfl, DataGroup.leaseOutcome_unfenced fun result write done => ?_⟩
    exact @GroupView.dispatch_unfenced _ (group.logIds 0) (.releaseReplayLease request (observed 0))
      _ _ _ _ unfenced rfl rfl done
  · intro cluster partition lease reached
    rw [replayLease, call_eq reached]
    exact DataGroup.maintained_proceeds held (reads 0) DataGroup.replayLease_unfenced rfl
  · intro request reached
    rw [fetchProtected, call_eq reached]
    exact DataGroup.maintained_proceeds held (reads 0) DataGroup.fetchProtected_unfenced rfl

open GroupDb in
def fencedEntries : List GroupEntry :=
  leaseStart ++ [leaseEntry,
    ⟨⟨1, 1, 4⟩, .normal (.exportProtocol (.acquireFence sampleToken))⟩]

def sampleGroup (now : Nat) (db : GroupDb) : DataGroup :=
  ⟨db, fun _ => now, fun entry => ⟨1, 1, 5 + entry⟩, []⟩

def sampleActive (now : Nat) (db : GroupDb) : ActiveCluster :=
  ⟨⟨1⟩, StreamCluster.sampleActive, fun _ => some (sampleGroup now db)⟩

def sampleLease : ReplayLeaseId := .derived (GroupDb.sampleRequest 0)

open GroupDb in
theorem fencedEntries_run : ∃ db lease,
    Ran freshData.identity 2 (fun _ => [7]) (fun _ _ => True) fencedEntries db ∧
    db.view.mutationFenceState.held = some ⟨sampleToken, ⟨dataGroupId, 1, ⟨1, Nat.one_ne_zero⟩, 4⟩⟩ ∧
    db.replayLease samplePartition sampleLease = .ok lease ∧
    db.retentionMaintenanceNeeded samplePartition 0 = false ∧
    db.retentionMaintenanceNeeded samplePartition 8000 = true := by
  have fenced : freshData.leaves fencedEntries (fun db =>
      decide (db.view.mutationFenceState.held =
        some ⟨sampleToken, ⟨dataGroupId, 1, ⟨1, Nat.one_ne_zero⟩, 4⟩⟩) &&
      (db.replayLease samplePartition sampleLease).isOk &&
      !db.retentionMaintenanceNeeded samplePartition 0 &&
      db.retentionMaintenanceNeeded samplePartition 8000) = true := by decide
  obtain ⟨results, db, submitted, fenced⟩ := leaves_iff.mp fenced
  simp only [Bool.and_eq_true, decide_eq_true_eq, Bool.not_eq_true'] at fenced
  obtain ⟨⟨⟨held, read⟩, idle⟩, needed⟩ := fenced
  have ran : Ran freshData.identity 2 (fun _ => [7]) (fun _ _ => True) ([] ++ fencedEntries) db :=
    Ran.submitAll .created (create_usedBelow _ _) (by decide) (by decide)
      (fun _ _ _ => trivial) submitted
  cases found : db.replayLease samplePartition sampleLease with
  | error error =>
      rw [found] at read
      simp [Except.isOk, Except.toBool] at read
  | ok lease => exact ⟨db, lease, ran, held, found, idle, needed⟩

theorem leaseClockObservation_of_le {now : Nat} (fits : now + leaseClockSkew ≤ u64Max) :
    leaseClockObservation now =
      .ok ⟨now - leaseClockSkew, now + leaseClockSkew, by omega⟩ := by
  have available : ¬((now : Int) < 0 ∨ (u64Max : Int) < now) := by omega
  rw [leaseClockObservation, dif_neg available]
  refine congrArg Except.ok (ClockObservation.ext ?_ ?_)
  · simp only [Int.toNat_natCast]
  · simp only [Int.toNat_natCast, saturatingAdd, min_eq_left fits]

theorem sampleActive_reached (now : Nat) (db : GroupDb) :
    (sampleActive now db).dataGroup ⟨1⟩ GroupDb.samplePartition none none =
      .ok (sampleGroup now db) := rfl

theorem lease_operations_fenced_sample : ∃ db lease,
    GroupDb.Ran GroupDb.freshData.identity 2 (fun _ => [7]) (fun _ _ => True) fencedEntries db ∧
    db.view.mutationFenceState.held ≠ none ∧ ∀ texts,
      (sampleActive 2000 db).replayLease texts ⟨1⟩ none none GroupDb.samplePartition sampleLease =
        .ok lease := by
  obtain ⟨db, lease, ran, held, found, idle, _⟩ := fencedEntries_run
  refine ⟨db, lease, ran, by simp [held], fun texts => ?_⟩
  obtain ⟨_, _, _, reads, _⟩ :=
    @lease_operations_fenced (sampleGroup 2000 db) _ _ _ _ _ _ _ texts (fun _ => [])
      (sampleActive 2000 db) none none ran held
      (fun _ => leaseClockObservation_of_le (by decide))
  have proceeds := (reads ⟨1⟩ GroupDb.samplePartition sampleLease
    (sampleActive_reached 2000 db)).mpr idle
  exact proceeds.1.trans found

/-- A lease that is due under a fence cannot be read. -/
theorem due_lease_turned_away : ∃ db lease,
    GroupDb.Ran GroupDb.freshData.identity 2 (fun _ => [7]) (fun _ _ => True) fencedEntries db ∧
    db.view.mutationFenceState.held ≠ none ∧
    db.replayLease GroupDb.samplePartition sampleLease = .ok lease ∧ ∀ texts,
      (sampleActive 10000 db).replayLease texts ⟨1⟩ none none GroupDb.samplePartition sampleLease =
        .error (.exportInProgress GroupDb.sampleToken.exportId .definiteNoCommit) := by
  obtain ⟨db, lease, ran, held, found, _, needed⟩ := fencedEntries_run
  refine ⟨db, lease, ran, by simp [held], found, fun texts => ?_⟩
  obtain ⟨after, turned⟩ := @DataGroup.maintain_fenced texts (sampleGroup 10000 db)
    GroupDb.samplePartition _ _ held (leaseClockObservation_of_le (by decide)) needed
  rw [replayLease, call_eq (sampleActive_reached 10000 db), DataGroup.replayLease, turned,
    attempt_error]

end ActiveCluster

end LightStream
