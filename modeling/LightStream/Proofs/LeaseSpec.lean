import LightStream.Proofs.Maintenance

/-!
The lease commands case by case: what each of them answers and writes, and what the leases, the
budget and the clock are afterwards.
-/

namespace LightStream

namespace GroupView

variable {view : GroupView} {clock : SafeLeaseClock} {expiry : LeaseExpiryState}

def budgetOf (view : GroupView) : LeaseBudget := (view.get .leaseBudget).getD LeaseBudget.default

section Expiry

def dropAll (budget : LeaseBudget) (leases : List ReplayLease) : LeaseBudget :=
  ⟨budget.activeLeases - leases.length,
    budget.reservedBytes - (leases.map ReplayLease.protectedBytes).sum⟩

theorem foldl_expireLease_budget (leases : List ReplayLease) :
    (leases.foldl (view.expireLease clock) expiry).budget =
      dropAll expiry.budget (dueLeases clock leases) := by
  induction leases generalizing expiry with
  | nil => rfl
  | cons lease rest ih =>
      rw [List.foldl_cons, ih]
      by_cases due : isDue clock lease = true
      · have ended : leaseIsEffectivelyActive lease clock = false ∧ lease.lifecycle = .active := by
          simpa [isDue, and_comm] using due
        simp only [expireLease, ended.1, ended.2, dueLeases, List.filter_cons_of_pos due, dropAll,
          List.length_cons, List.map_cons, List.sum_cons, Bool.false_eq_true, if_false, ne_eq,
          not_true_eq_false, LeaseBudget.mk.injEq]
        omega
      · have kept : (view.expireLease clock expiry lease).budget = expiry.budget := by
          unfold expireLease
          split
          · rfl
          · rename_i ended
            rw [if_pos]
            intro active
            exact due (by simp [isDue, active, ended])
        rw [kept, dueLeases, dueLeases, List.filter_cons_of_neg due]

theorem expireDueLeases_budget :
    (view.expireDueLeases clock).budget = dropAll view.budgetOf (dueLeases clock view.leases) :=
  foldl_expireLease_budget _

theorem expired_budgetOf : (view.expired clock).budgetOf = (view.expireDueLeases clock).budget := by
  rw [budgetOf, expired]
  show (Kv.pending view.get _ _).getD _ = _
  unfold expiryWrites
  by_cases none : (view.expireDueLeases clock).expired = []
  · have due : dueLeases clock view.leases = [] := by
      rw [expireDueLeases_expired] at none
      exact List.map_eq_nil_iff.mp none
    rw [if_pos none, none, expireDueLeases_budget, due]
    rfl
  · rw [if_neg none]
    have leases : Within [.lease] ((view.expireDueLeases clock).expired.map fun lease =>
        .put (.leaseId lease.id) lease) := by
      intro op member
      obtain ⟨lease, _, rfl⟩ := List.mem_map.mp member
      simp [StateKey.family]
    have rest : Within [.retention, .reclaimHint]
        ((view.expireDueLeases clock).retentions.map (fun entry =>
            .put (.retention entry.1) entry.2) ++
          (view.expireDueLeases clock).reclaimHints.map
            (fun entry => .put (.reclaimHint entry.1) (view.mergedHint entry.1 entry.2))) := by
      rw [within_append]
      constructor <;> intro op member <;> obtain ⟨entry, _, rfl⟩ := List.mem_map.mp member <;>
        simp [StateKey.family]
    rw [Kv.pending, Kv.Batch.effect_append, Kv.Batch.effect_cons,
      rest.effect_none (by decide), Option.none_or]
    simp

end Expiry

section Decisions

inductive AdmitCase (view : GroupView) (request : ReplayLeaseRequest) (clock : SafeLeaseClock)
    (expiry : LeaseExpiryState) : LeaseDecision → Prop
  | refused (error : DomainError) : AdmitCase view request clock expiry (.rejected error, [])
  | admitted (bytes : Nat) (lease : ReplayLease)
      (sized : view.replayRangeBytes request (view.retentionOf request.range.partition) = .ok bytes)
      (admits : admitLease (.derived request.request) request bytes
        ⟨(view.retentionOf request.range.partition).logicalFloor,
          view.nextOffsetOf request.range.partition, clock, RetentionLimits.default,
          expiry.budget⟩ = .ok lease) :
      AdmitCase view request clock expiry (.replayLease lease,
        [.put (.leaseId lease.id) lease, .put (.leaseRequest request.request) lease.id,
          .put .leaseBudget ⟨expiry.budget.activeLeases + 1,
            saturatingAdd expiry.budget.reservedBytes bytes⟩,
          .put .leaseClock clock])

theorem admitDecision_case (request : ReplayLeaseRequest) :
    view.AdmitCase request clock expiry (view.admitDecision request clock expiry) := by
  unfold admitDecision
  dsimp only
  split
  · exact .refused _
  split
  · exact .refused _
  rename_i bytes sized
  split
  · exact .refused _
  · rename_i lease admits
    exact .admitted bytes lease sized admits

inductive RenewCase (view : GroupView) (request : LeaseRenewal) (clock : SafeLeaseClock) :
    LeaseDecision → Prop
  | refused (error : DomainError) : RenewCase view request clock (.rejected error, [])
  | renewed (lease renewed : ReplayLease) (expiresAt : Nat)
      (stored : view.get (.leaseId request.lease) = some lease)
      (effective : leaseIsEffectivelyActive lease clock = true)
      (later : checkedAdd clock.upperBound request.duration = some expiresAt)
      (renews : lease.renewed expiresAt lease.hardExpiresAt = .ok renewed) :
      RenewCase view request clock (.replayLease renewed,
        [.put (.leaseId request.lease) renewed, .put .leaseClock clock])

theorem renewed_kept {lease renewed : ReplayLease} {expiresAt hardExpiresAt : Nat}
    (renews : lease.renewed expiresAt hardExpiresAt = .ok renewed) :
    renewed = { lease with
      expiresAt, hardExpiresAt, generation := saturatingAdd lease.generation 1 } ∧
      lease.lifecycle = .active ∧ lease.expiresAt < expiresAt ∧ expiresAt ≤ hardExpiresAt := by
  unfold ReplayLease.renewed at renews
  split at renews
  · simp at renews
  rename_i active
  split at renews
  · simp at renews
  rename_i extends'
  cases renews
  refine ⟨rfl, by simpa using active, ?_, ?_⟩ <;> omega

theorem renewDecision_case (request : LeaseRenewal) :
    view.RenewCase request clock (view.renewDecision request clock) := by
  unfold renewDecision
  split
  · exact .refused _
  rename_i lease stored
  split
  · exact .refused _
  split
  · rename_i effective
    split
    · exact .refused _
    rename_i expiresAt later
    split
    · exact .refused _
    · rename_i renewed renews
      exact .renewed lease renewed expiresAt stored effective later renews
  · exact .refused _

inductive ReleaseCase (view : GroupView) (request : LeaseRelease) (clock : SafeLeaseClock)
    (expiry : LeaseExpiryState) : LeaseDecision → Prop
  | refused (error : DomainError) : ReleaseCase view request clock expiry (.rejected error, [])
  | released (lease : ReplayLease) (stored : view.get (.leaseId request.lease) = some lease)
      (effective : leaseIsEffectivelyActive lease clock = true) :
      ReleaseCase view request clock expiry (.replayLease lease.released,
        .put (.leaseId request.lease) lease.released ::
          (view.releaseReclaim expiry lease.range ++
            [.put .leaseBudget ⟨expiry.budget.activeLeases - 1,
                expiry.budget.reservedBytes - lease.protectedBytes⟩,
              .put .leaseClock clock]))

theorem releaseDecision_case (request : LeaseRelease) :
    view.ReleaseCase request clock expiry (view.releaseDecision request clock expiry) := by
  unfold releaseDecision
  split
  · exact .refused _
  rename_i lease stored
  split
  · exact .refused _
  split
  · rename_i effective
    exact .released lease stored effective
  · exact .refused _

end Decisions

section Commands

variable {request : MutationRequestId} {fingerprint : MutationFingerprint}
  {observation : ClockObservation} {decision : SafeLeaseClock → LeaseExpiryState → LeaseDecision}

/-- What a lease command does: answer from a receipt, reject for its clock, or decide on the state
that the expiry leaves. -/
inductive LeaseCase (view : GroupView) (request : MutationRequestId)
    (fingerprint : MutationFingerprint) (observation : ClockObservation)
    (decision : SafeLeaseClock → LeaseExpiryState → LeaseDecision) : ApplyResult → WriteBatch → Prop
  | answered (result : ApplyResult)
      (prior : view.priorMutationResult request fingerprint = some result) :
      LeaseCase view request fingerprint observation decision result ⟨[], []⟩
  | unclocked (fresh : view.priorMutationResult request fingerprint = none) (error : DomainError)
      (clockless : view.advanceLeaseClock observation = .error error) :
      LeaseCase view request fingerprint observation decision (.rejected error)
        ⟨view.storeMutationResult request fingerprint (.rejected error), []⟩
  | decided (fresh : view.priorMutationResult request fingerprint = none) (clock : SafeLeaseClock)
      (advanced : view.advanceLeaseClock observation = .ok clock) :
      LeaseCase view request fingerprint observation decision
        (decision clock (view.expireDueLeases clock)).1
        ⟨view.expiryWrites (view.expireDueLeases clock) ++
            (decision clock (view.expireDueLeases clock)).2 ++
          view.storeMutationResult request fingerprint
            (decision clock (view.expireDueLeases clock)).1, []⟩

theorem leaseCommand_case {result : ApplyResult} {write : WriteBatch}
    (done : view.leaseCommand request fingerprint observation decision = .ok (result, write)) :
    view.LeaseCase request fingerprint observation decision result write := by
  unfold leaseCommand at done
  split at done
  · rename_i prior
    cases done
    exact .answered _ prior
  rename_i fresh
  split at done
  · rename_i error clockless
    cases done
    exact .unclocked fresh error clockless
  · rename_i clock advanced
    cases done
    exact .decided fresh clock advanced

theorem applyAdmitReplayLease_case {admission : ReplayLeaseRequest} {result : ApplyResult}
    {write : WriteBatch}
    (done : view.applyAdmitReplayLease admission observation = .ok (result, write)) :
    view.LeaseCase admission.request (.admitLease admission) observation
      (view.admitDecision admission) result write := leaseCommand_case done

theorem applyRenewReplayLease_case {renewal : LeaseRenewal} {result : ApplyResult}
    {write : WriteBatch}
    (done : view.applyRenewReplayLease renewal observation = .ok (result, write)) :
    view.LeaseCase renewal.request (.renew renewal) observation
      (fun clock _ => view.renewDecision renewal clock) result write := leaseCommand_case done

theorem applyReleaseReplayLease_case {release : LeaseRelease} {result : ApplyResult}
    {write : WriteBatch}
    (done : view.applyReleaseReplayLease release observation = .ok (result, write)) :
    view.LeaseCase release.request (.release release) observation
      (view.releaseDecision release) result write := leaseCommand_case done

theorem LeaseCase.decided_get {result : ApplyResult} {key : StateKey}
    (outside : key.family ≠ .mutation) :
    (view.after (view.expiryWrites (view.expireDueLeases clock) ++
        (decision clock (view.expireDueLeases clock)).2 ++
      view.storeMutationResult request fingerprint result)).get key =
      ((view.expired clock).after (decision clock (view.expireDueLeases clock)).2).get key := by
  rw [after_append, after_get_of_within (storeMutationResult_within _ _ _) (by simpa using outside),
    after_append]
  rfl

end Commands

section Retention

variable {request : RetentionRequest} {observation : ClockObservation}

inductive AdvanceCase (view : GroupView) (request : RetentionRequest)
    (observation : ClockObservation) : ApplyResult → WriteBatch → Prop
  | foreign (kind : view.identity.kind ≠ .data) (error : DomainError) :
      AdvanceCase view request observation (.rejected error) ⟨[], []⟩
  | answered (result : ApplyResult)
      (prior : view.priorMutationResult request.request (.retention request) = some result) :
      AdvanceCase view request observation result ⟨[], []⟩
  | refused (fresh : view.priorMutationResult request.request (.retention request) = none)
      (error : DomainError) :
      AdvanceCase view request observation (.rejected error)
        ⟨view.storeMutationResult request.request (.retention request) (.rejected error), []⟩
  | unbounded (fresh : view.priorMutationResult request.request (.retention request) = none)
      (floor : Nat)
      (advanced : advanceFloor (view.retentionOf request.partition).logicalFloor request.targetFloor
        (view.nextOffsetOf request.partition) = .ok floor)
      (unavailable : view.floorBytePosition request.partition (view.retentionOf request.partition)
        floor = none) :
      AdvanceCase view request observation
        (.rejected (.storage "retention floor byte boundary is unavailable")) ⟨[], []⟩
  | advanced (fresh : view.priorMutationResult request.request (.retention request) = none)
      (floor bytes : Nat) (clock : SafeLeaseClock)
      (advanced : advanceFloor (view.retentionOf request.partition).logicalFloor request.targetFloor
        (view.nextOffsetOf request.partition) = .ok floor)
      (clocked : view.advanceLeaseClock observation = .ok clock)
      (bounded : view.floorBytePosition request.partition (view.retentionOf request.partition)
        floor = some bytes) (result : ApplyResult) :
      AdvanceCase view request observation result
        ⟨[.put (.retention request.partition) { view.retentionOf request.partition with
            logicalFloor := floor, floorBytePosition := bytes }, .put .leaseClock clock] ++
          view.storeMutationResult request.request (.retention request) result, []⟩

theorem applyAdvanceRetention_case {result : ApplyResult} {write : WriteBatch}
    (done : view.applyAdvanceRetention request observation = .ok (result, write)) :
    view.AdvanceCase request observation result write := by
  unfold applyAdvanceRetention at done
  split at done
  · rename_i kind
    cases done
    exact .foreign kind _
  split at done
  · rename_i prior
    cases done
    exact .answered _ prior
  rename_i fresh
  dsimp only at done
  split at done
  · cases done
    exact .refused fresh _
  rename_i floor advanced
  split at done
  · cases done
    exact .refused fresh _
  rename_i clock clocked
  split at done
  · rename_i unavailable
    cases done
    exact .unbounded fresh floor advanced unavailable
  · rename_i bytes bounded
    cases done
    exact .advanced fresh floor bytes clock advanced clocked bounded _

end Retention

end GroupView

end LightStream
