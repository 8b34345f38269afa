import LightStream.Core.Domain

/-!
Lease clocks, lease admission and the retention floor: `light-stream-storage/src/retention.rs`.
-/

namespace LightStream

/-- What `ClockObservation::new` accepts. -/
@[ext]
structure ClockObservation where
  lowerBound : Nat
  upperBound : Nat
  ordered : lowerBound ≤ upperBound

instance : DecidableEq ClockObservation := fun _ _ => decidable_of_iff _ ClockObservation.ext_iff.symm

structure SafeLeaseClock where
  lowerBound : Nat
  upperBound : Nat
deriving DecidableEq

def SafeLeaseClock.new (observation : ClockObservation) : Except DomainError SafeLeaseClock :=
  .ok ⟨observation.lowerBound, observation.upperBound⟩

def SafeLeaseClock.advance (clock : SafeLeaseClock) (observation : ClockObservation) :
    Except DomainError SafeLeaseClock :=
  if observation.upperBound < clock.lowerBound then .error .leaseClockUnavailable
  else
    .ok ⟨max clock.lowerBound observation.lowerBound, max clock.upperBound observation.upperBound⟩

structure RetentionLimits where
  maxLeaseBytes : Nat
  maxGroupReservedLeaseBytes : Nat
  maxActiveLeases : Nat
  maxLeaseDurationMs : Nat
  maxLeaseLifetimeMs : Nat

def RetentionLimits.default : RetentionLimits where
  maxLeaseBytes := 512 * 1024 * 1024
  maxGroupReservedLeaseBytes := 4 * 1024 * 1024 * 1024
  maxActiveLeases := 256
  maxLeaseDurationMs := 60000
  maxLeaseLifetimeMs := 15 * 60000

structure LeaseBudget where
  activeLeases : Nat
  reservedBytes : Nat
deriving DecidableEq

def LeaseBudget.default : LeaseBudget := ⟨0, 0⟩

structure AdmissionState where
  floor : Nat
  tail : Nat
  clock : SafeLeaseClock
  limits : RetentionLimits
  budget : LeaseBudget

structure PartitionRetentionState where
  logicalFloor : Nat
  reclaimCursor : Nat
  logicallyExpiredBytes : Nat
  raftOnlyBytes : Nat
  nextBytePosition : Nat
  floorBytePosition : Nat
deriving DecidableEq

def PartitionRetentionState.default : PartitionRetentionState := ⟨0, 0, 0, 0, 0, 0⟩

def admitLease (id : ReplayLeaseId) (request : ReplayLeaseRequest) (protectedBytes : Nat)
    (state : AdmissionState) : Except DomainError ReplayLease :=
  if request.range.start < state.floor then
    .error (.cursorExpired request.range.start state.floor)
  else if request.range.stop > state.tail then
    .error (.invalidRange "replay lease range extends past the committed tail")
  else if request.duration > state.limits.maxLeaseDurationMs then
    .error (.resourceLimit "replay_lease_duration_ms" state.limits.maxLeaseDurationMs)
  else if protectedBytes > request.maxBytes ∨ protectedBytes > state.limits.maxLeaseBytes then
    .error (.resourceLimit "replay_lease_bytes" (min request.maxBytes state.limits.maxLeaseBytes))
  else if state.budget.activeLeases ≥ state.limits.maxActiveLeases then
    .error (.resourceLimit "active_replay_leases" state.limits.maxActiveLeases)
  else if saturatingAdd state.budget.reservedBytes protectedBytes >
      state.limits.maxGroupReservedLeaseBytes then
    .error (.resourceLimit "group_replay_lease_bytes" state.limits.maxGroupReservedLeaseBytes)
  else
    match checkedAdd state.clock.upperBound request.duration with
    | none => .error .leaseClockUnavailable
    | some expiresAt =>
        match checkedAdd state.clock.upperBound state.limits.maxLeaseLifetimeMs with
        | none => .error .leaseClockUnavailable
        | some hardExpiresAt =>
            .ok (ReplayLease.admitted id request protectedBytes expiresAt hardExpiresAt)

def leaseIsEffectivelyActive (lease : ReplayLease) (clock : SafeLeaseClock) : Bool :=
  decide (lease.lifecycle = .active) && decide (clock.lowerBound < lease.expiresAt) &&
    decide (clock.lowerBound < lease.hardExpiresAt)

def advanceFloor (current requested tail : Nat) : Except DomainError Nat :=
  if requested > tail then
    .error (.invalidRange "retention floor cannot advance past the committed tail")
  else .ok (max current requested)

/-- An admitted lease is active, and its range lies between the floor and the tail. -/
theorem admit_ok {id : ReplayLeaseId} {request : ReplayLeaseRequest} {protectedBytes : Nat}
    {state : AdmissionState} {lease : ReplayLease}
    (admitted : admitLease id request protectedBytes state = .ok lease) :
    lease.id = id ∧ lease.request = request ∧ lease.protectedBytes = protectedBytes ∧
      lease.lifecycle = .active ∧ state.floor ≤ request.range.start ∧
      request.range.stop ≤ state.tail := by
  unfold admitLease at admitted
  split at admitted
  · simp at admitted
  rename_i aboveFloor
  split at admitted
  · simp at admitted
  rename_i belowTail
  split at admitted
  · simp at admitted
  split at admitted
  · simp at admitted
  split at admitted
  · simp at admitted
  split at admitted
  · simp at admitted
  split at admitted
  · simp at admitted
  split at admitted
  · simp at admitted
  · cases admitted
    exact ⟨rfl, rfl, rfl, rfl, by omega, by omega⟩

theorem advanceFloor_ok {current requested tail floor : Nat}
    (advanced : advanceFloor current requested tail = .ok floor) :
    floor = max current requested ∧ requested ≤ tail := by
  unfold advanceFloor at advanced
  split at advanced
  · simp at advanced
  · cases advanced
    exact ⟨rfl, by omega⟩

end LightStream
