import LightStream.Proofs.ReclaimWalk
import LightStream.Server.ReplayRuntime

/-!
The retention maintenance driver of `runtime.rs` against the command that it submits: a round is
needed exactly when the command does something, and a round that has done something is taken for
progress, unless the batch has gone back to a lease and run out at the very cursor it came from.
-/

namespace LightStream

theorem advanceLeaseClock_lowerBound {view : GroupView} {clock : SafeLeaseClock}
    {observation : ClockObservation} (accepted : view.advanceLeaseClock observation = .ok clock)
    (notBehind : ∀ stored, view.get .leaseClock = some stored →
      stored.lowerBound ≤ observation.lowerBound) :
    clock.lowerBound = observation.lowerBound := by
  unfold GroupView.advanceLeaseClock at accepted
  cases stored : view.get .leaseClock with
  | none =>
      rw [stored] at accepted
      cases accepted
      rfl
  | some earlier =>
      rw [stored] at accepted
      dsimp only [SafeLeaseClock.advance] at accepted
      split at accepted
      · cases accepted
      · cases accepted
        exact max_eq_right (notBehind earlier stored)

theorem ReplayLease.due_iff {lease : ReplayLease} {partition : PartitionKey}
    {clock : SafeLeaseClock} : lease.due partition clock.lowerBound = true ↔
      lease.range.partition = partition ∧ isDue clock lease = true := by
  simp only [ReplayLease.due, isDue, leaseIsEffectivelyActive, Bool.and_eq_true,
    Bool.or_eq_true, Bool.not_eq_true', Bool.and_eq_false_iff, decide_eq_true_eq,
    decide_eq_false_iff_not, Nat.not_lt]
  constructor
  · rintro ⟨⟨own, active⟩, early | late⟩
    · exact ⟨own, active, .inl (.inr early)⟩
    · exact ⟨own, active, .inr late⟩
  · rintro ⟨own, active, (idle | early) | late⟩
    · exact absurd active idle
    · exact ⟨⟨own, active⟩, .inl early⟩
    · exact ⟨⟨own, active⟩, .inr late⟩

namespace GroupDb

variable {identity : GroupIdentity} {window : Nat} {content : PayloadId → Record}
  {Allowed : GroupDb → GroupEntry → Prop} {history : List GroupEntry} {db next : GroupDb}
  {partition : PartitionKey} {observation : ClockObservation} {clock : SafeLeaseClock}

/-- The ranges of the active leases of a partition that are not due at a lower bound of the time. -/
def keptRanges (db : GroupDb) (partition : PartitionKey) (safeLowerBound : Nat) :
    List ReplayRange :=
  (db.view.leases.filter fun lease => decide (lease.range.partition = partition) &&
    decide (lease.lifecycle = .active) && !lease.due partition safeLowerBound).map ReplayLease.range

/-- The limits of a round run out at the cursor when its batch goes back to the start of a due
lease: they leave room for every offset from there to the cursor, and none for the cursor. -/
structure RunsOut (db : GroupDb) (partition : PartitionKey) (safeLowerBound : Nat)
    (lease : ReplayLease) : Prop where
  listed : lease ∈ db.view.leases
  due : lease.due partition safeLowerBound = true
  first : ∀ other ∈ db.view.leases, other.due partition safeLowerBound = true →
    lease.range.start ≤ other.range.start
  behind : lease.range.start < (db.view.retentionOf partition).reclaimCursor
  below : (db.view.retentionOf partition).reclaimCursor <
    (db.view.retentionOf partition).logicalFloor
  room : ∀ offset, lease.range.start ≤ offset →
    offset < (db.view.retentionOf partition).reclaimCursor →
    db.view.HasRoom partition (db.keptRanges partition safeLowerBound) 1024 (8 * 1024 * 1024)
      lease.range.start offset
  full : ¬db.view.HasRoom partition (db.keptRanges partition safeLowerBound) 1024
    (8 * 1024 * 1024) lease.range.start (db.view.retentionOf partition).reclaimCursor

def ExpiresLease (db next : GroupDb) (partition : PartitionKey) : Prop :=
  ∃ id before after, db.get (.leaseId id) = some before ∧ before.range.partition = partition ∧
    before.lifecycle = .active ∧ next.get (.leaseId id) = some after ∧ after.lifecycle = .expired

def DeletesRecord (db next : GroupDb) : Prop :=
  ∃ place offset, (db.get (.record place offset)).isSome = true ∧
    next.get (.record place offset) = none

theorem keptRanges_active : GroupView.activeRanges (db.view.expireDueLeases clock) partition =
    db.keptRanges partition clock.lowerBound := by
  have same (lease : ReplayLease) :
      (decide (lease.range.partition = partition) && leaseIsEffectivelyActive lease clock) =
        (decide (lease.range.partition = partition) && decide (lease.lifecycle = .active) &&
          !lease.due partition clock.lowerBound) := by
    rw [Bool.eq_iff_iff]
    simp only [Bool.and_eq_true, Bool.not_eq_true', ← Bool.not_eq_true, ReplayLease.due_iff,
      isDue, decide_eq_true_eq]
    constructor
    · rintro ⟨own, effective⟩
      have active := effective
      simp only [leaseIsEffectivelyActive, Bool.and_eq_true, decide_eq_true_eq] at active
      exact ⟨⟨own, active.1.1⟩, fun due => due.2.2 effective⟩
    · rintro ⟨⟨own, active⟩, kept⟩
      exact ⟨own, by_contra fun idle => kept ⟨own, active, idle⟩⟩
  rw [GroupView.activeRanges, GroupView.expireDueLeases_active, List.filter_map, List.filter_filter,
    keptRanges]
  exact congrArg _ (List.filter_congr fun lease _ => same lease)

structure Round (db : GroupDb) (partition : PartitionKey) (clock : SafeLeaseClock)
    (after : GroupView.ReclaimState) (reclaimed : List Reclaimed) (next : GroupDb) : Prop where
  looped : db.view.reclaimLoop partition (db.keptRanges partition clock.lowerBound) 1024
    (8 * 1024 * 1024) ((db.reclaimStart partition clock).retention.logicalFloor -
      (db.reclaimStart partition clock).retention.reclaimCursor) (db.reclaimStart partition clock) =
        .ok after
  reclaims : db.view.Reclaims partition (db.keptRanges partition clock.lowerBound)
    (db.reclaimStart partition clock) after reclaimed
  retention : next.view.retentionOf partition = after.retention
  lease : ∀ id, next.get (.leaseId id) = (db.get (.leaseId id)).map fun lease =>
    if isDue clock lease then lease.expired else lease
  record : ∀ place offset, next.get (.record place offset) =
    if place = partition ∧ ∃ record ∈ reclaimed, record.offset = offset then none
    else db.get (.record place offset)

theorem Ran.round (data : identity.kind = .data)
    (ran : Ran identity window content Allowed history db)
    (unheld : db.view.mutationFenceState.held = none)
    (accepted : db.view.advanceLeaseClock observation = .ok clock) (logId : GroupLogId) :
    ∃ after reclaimed next,
      db.applyEntry ⟨logId, .normal (DataGroup.maintenanceCommand partition
        (db.retentionStatus partition) observation)⟩ =
          .ok (.retentionStatus (next.retentionStatus partition), next) ∧
      db.Round partition clock after reclaimed next := by
  have kind : db.identity.kind = .data := by rw [ran.settings.1, data]
  have guarded := ran.guarded data
  have listed := guarded.records.listed
  obtain ⟨bound, ledger⟩ := (ran.exact data).ledger guarded
  have reclaiming : db.Reclaiming content db.LogHolds bound := ⟨kind, guarded, ledger, unheld⟩
  obtain ⟨result, write, handled, writes⟩ := @Reclaiming.handled db content partition 1024
    (8 * 1024 * 1024) observation db.LogHolds bound clock reclaiming (by decide) (by decide)
    accepted
  have applied : db.applyEntry ⟨logId, .normal (DataGroup.maintenanceCommand partition
      (db.retentionStatus partition) observation)⟩ = .ok (result,
        db.commit ⟨write.state ++ [.put .applied logId], write.payload⟩) := by
    refine applyEntry_normal ?_
    have included : (DataGroup.maintenanceCommand partition (db.retentionStatus partition)
        observation).fenceClass = .includedMutation := rfl
    unfold GroupView.applyCommand
    rw [if_pos included, unheld]
    exact handled
  rcases GroupView.applyMaintainRetention_looped handled with
    rfl | ⟨stored, after, _, advanced, looped, rfl, rfl⟩
  · exact absurd rfl writes
  rw [accepted] at advanced
  cases advanced
  have expired := @GroupView.Protected.expired db.view clock guarded.records listed
  have fits : (db.reclaimStart partition clock).retention.logicalFloor ≤ u64Max := by
    rw [reclaimStart, ← GroupView.expired_retentionOf]
    exact (expired.floor partition).trans (expired.bounded partition)
  obtain ⟨reclaimed, reclaims⟩ := GroupView.reclaimLoop_reclaims fits looped
  have finished : (db.view.expired clock).ReclaimedTo (db.view.after (after.write.state ++
      [.put (.retention partition) after.retention, .put .leaseClock clock])) partition
        after.retention reclaimed := by
    rw [reclaims.state, List.append_assoc, GroupView.after_append]
    exact GroupView.reclaimOps_reclaimedTo _ (by simp [StateKey.family])
  have reads {key : StateKey} (other : key.family ≠ .applied) :
      (db.commit ⟨(after.write.state ++ [.put (.retention partition) after.retention,
          .put .leaseClock clock]) ++ [.put .applied logId], after.write.payload⟩).get key =
        (db.view.after (after.write.state ++ [.put (.retention partition) after.retention,
          .put .leaseClock clock])).get key :=
    @commit_applied_get db logId ⟨_, after.write.payload⟩ key other
  rw [keptRanges_active] at looped reclaims
  have retention : (db.commit ⟨(after.write.state ++ [.put (.retention partition) after.retention,
      .put .leaseClock clock]) ++ [.put .applied logId], after.write.payload⟩).view.retentionOf
        partition = after.retention := by
    rw [GroupView.retentionOf, view_get, reads (by simp [StateKey.family]), ← GroupView.retentionOf,
      finished.retention, if_pos rfl]
  refine ⟨after, reclaimed, _, ?_, looped, reclaims, retention, fun id => ?_,
    fun place offset => ?_⟩
  · rw [applied, retentionStatus, retention]
    rfl
  · rw [reads (by simp [StateKey.family]), finished.frame _ (by simp [StateKey.family]),
      GroupView.expired_lease listed, view_get]
  · rw [reads (by simp [StateKey.family]), finished.record,
      GroupView.expired_get_other (by simp [StateKey.family]), view_get]

section Round

variable {after : GroupView.ReclaimState} {reclaimed : List Reclaimed}

theorem reclaimStart_retention : (db.reclaimStart partition clock).retention =
    (db.view.expired clock).retentionOf partition :=
  (GroupView.expired_retentionOf partition).symm

theorem reclaimStart_floor : (db.reclaimStart partition clock).retention.logicalFloor =
    (db.view.retentionOf partition).logicalFloor := by
  rw [reclaimStart_retention]
  exact (GroupView.expired_lowered partition).floor

theorem Round.floor (round : db.Round partition clock after reclaimed next) :
    (next.view.retentionOf partition).logicalFloor =
      (db.view.retentionOf partition).logicalFloor := by
  rw [round.retention, round.reclaims.floor, reclaimStart_floor]

theorem reclaimStart_order (guarded : db.view.Guarded) :
    (db.reclaimStart partition clock).retention.reclaimCursor ≤
        (db.view.retentionOf partition).reclaimCursor ∧
      (db.view.retentionOf partition).reclaimCursor ≤
        (db.view.retentionOf partition).logicalFloor ∧
      (db.view.retentionOf partition).logicalFloor ≤ u64Max := by
  rw [reclaimStart_retention]
  exact ⟨(GroupView.expired_lowered partition).cursor, guarded.records.cursor partition,
    (guarded.records.floor partition).trans (guarded.records.bounded partition)⟩

theorem reclaimStart_due (guarded : db.view.Guarded)
    (unheld : db.view.mutationFenceState.held = none)
    (back : (db.reclaimStart partition clock).retention.reclaimCursor <
      (db.view.retentionOf partition).reclaimCursor) :
    ∃ lease ∈ db.view.leases, lease.due partition clock.lowerBound = true ∧
      (∀ other ∈ db.view.leases, other.due partition clock.lowerBound = true →
        lease.range.start ≤ other.range.start) ∧
      (db.reclaimStart partition clock).retention.reclaimCursor = lease.range.start := by
  have listed := guarded.records.listed
  have unfenced : db.view.exportFenced = false := by
    rw [GroupView.exportFenced, unheld]
    rfl
  obtain ⟨_, order, _⟩ := @reclaimStart_order db partition clock guarded
  rw [reclaimStart_retention] at back ⊢
  rcases @GroupView.expired_reached db.view clock partition with
    kept | ⟨lease, member, due, own, reached⟩
  · omega
  refine ⟨lease, member, ReplayLease.due_iff.mpr ⟨own, due⟩, fun other otherMember otherDue => ?_,
    reached⟩
  obtain ⟨otherOwn, ended⟩ := ReplayLease.due_iff.mp otherDue
  obtain ⟨id, stored⟩ := (listed.leases other).mp otherMember
  by_cases low : other.range.start < (db.view.retentionOf other.range.partition).logicalFloor
  · have lowered := GroupView.expired_cursor listed unfenced stored ended low
    rw [otherOwn] at lowered
    omega
  · rw [otherOwn] at low
    omega

theorem Round.stuck_iff (round : db.Round partition clock after reclaimed next)
    (guarded : db.view.Guarded) (unheld : db.view.mutationFenceState.held = none) :
    ((next.view.retentionOf partition).reclaimCursor =
        (db.view.retentionOf partition).reclaimCursor ∧
      (next.view.retentionOf partition).logicalFloor ≠
        (next.view.retentionOf partition).reclaimCursor) ↔
    ∃ lease, db.RunsOut partition clock.lowerBound lease := by
  obtain ⟨back, order, fits⟩ := @reclaimStart_order db partition clock guarded
  have floor := @reclaimStart_floor db partition clock
  have looped := round.looped
  have ends := @GroupView.reclaimLoop_ends db.view partition
    (db.keptRanges partition clock.lowerBound) 1024 (8 * 1024 * 1024)
    (db.reclaimStart partition clock) after (by omega) (by decide) (by omega) ⟨rfl, rfl⟩ looped
    (db.view.retentionOf partition).reclaimCursor back
  rw [round.floor, round.retention]
  constructor
  · rintro ⟨same, short⟩
    have below : (db.view.retentionOf partition).reclaimCursor <
        (db.view.retentionOf partition).logicalFloor := by omega
    obtain ⟨room, full⟩ := (ends (by omega)).mp same
    have lower : (db.reclaimStart partition clock).retention.reclaimCursor <
        (db.view.retentionOf partition).reclaimCursor := by
      rcases Nat.lt_or_eq_of_le back with lower | kept
      · exact lower
      -- a batch that starts at the cursor moves it
      obtain ⟨fuel, exact⟩ := Nat.exists_eq_add_of_lt below
      rw [show (db.reclaimStart partition clock).retention.logicalFloor -
        (db.reclaimStart partition clock).retention.reclaimCursor = fuel + 1 by omega] at looped
      have moved := GroupView.reclaimLoop_progress (by omega) (by omega) rfl (by decide) looped
      omega
    obtain ⟨lease, member, due, first, start⟩ := reclaimStart_due guarded unheld lower
    rw [start] at room full lower
    exact ⟨lease, member, due, first, lower, below, room, full⟩
  · rintro ⟨lease, member, due, first, behind, below, room, full⟩
    have listed := guarded.records.listed
    have unfenced : db.view.exportFenced = false := by
      rw [GroupView.exportFenced, unheld]
      rfl
    obtain ⟨own, ended⟩ := ReplayLease.due_iff.mp due
    obtain ⟨id, stored⟩ := (listed.leases lease).mp member
    have lowered := GroupView.expired_cursor listed unfenced stored ended (by rw [own]; omega)
    rw [own, ← reclaimStart_retention] at lowered
    obtain ⟨earliest, earliestMember, earliestDue, _, start⟩ :=
      @reclaimStart_due db partition clock guarded unheld (by omega)
    have least := first earliest earliestMember earliestDue
    have same : (db.reclaimStart partition clock).retention.reclaimCursor = lease.range.start := by
      omega
    rw [same] at ends
    exact ⟨(ends (by omega)).mpr ⟨room, full⟩, by rw [(ends (by omega)).mpr ⟨room, full⟩]; omega⟩

theorem Round.expires (round : db.Round partition clock after reclaimed next)
    (guarded : db.view.Guarded) {lease : ReplayLease} (member : lease ∈ db.view.leases)
    (due : lease.due partition clock.lowerBound = true) : db.ExpiresLease next partition := by
  obtain ⟨own, ended⟩ := ReplayLease.due_iff.mp due
  obtain ⟨id, stored⟩ := (guarded.records.listed.leases lease).mp member
  have active : lease.lifecycle = .active := by
    rw [isDue, Bool.and_eq_true, decide_eq_true_eq] at ended
    exact ended.1
  refine ⟨id, lease, lease.expired, stored, own, active, ?_, rfl⟩
  rw [round.lease, ← view_get, stored, Option.map_some, if_pos ended]

theorem Round.idle (round : db.Round partition clock after reclaimed next)
    (guarded : db.view.Guarded)
    (reached : (db.view.retentionOf partition).reclaimCursor =
      (db.view.retentionOf partition).logicalFloor)
    (undue : ∀ lease ∈ db.view.leases, lease.due partition clock.lowerBound ≠ true) :
    ¬db.ExpiresLease next partition ∧ ¬db.DeletesRecord next ∧
      (next.view.retentionOf partition).reclaimCursor =
        (db.view.retentionOf partition).reclaimCursor := by
  have start : (db.reclaimStart partition clock).retention.reclaimCursor =
      (db.view.retentionOf partition).reclaimCursor := by
    rw [reclaimStart_retention]
    rcases @GroupView.expired_reached db.view clock partition with
      kept | ⟨lease, member, due, own, _⟩
    · exact kept
    · exact absurd (ReplayLease.due_iff.mpr ⟨own, due⟩) (undue lease member)
  have floor := @reclaimStart_floor db partition clock
  have forward := round.reclaims.forward
  have bounded := round.reclaims.bounded
  have still : after.retention.reclaimCursor = (db.view.retentionOf partition).reclaimCursor := by
    omega
  refine ⟨?_, ?_, by rw [round.retention, still]⟩
  · rintro ⟨id, before, later, stored, own, active, read, ended⟩
    rw [round.lease, stored, Option.map_some] at read
    have kept : ¬isDue clock before = true := fun due =>
      undue before ((guarded.records.listed.leases before).mpr ⟨id, stored⟩)
        (ReplayLease.due_iff.mpr ⟨own, due⟩)
    rw [if_neg kept] at read
    cases read
    rw [active] at ended
    cases ended
  · rintro ⟨place, offset, present, gone⟩
    rw [round.record] at gone
    split at gone
    · rename_i deleted
      obtain ⟨record, member, _⟩ := deleted.2
      obtain ⟨low, high⟩ := round.reclaims.offsets record member
      omega
    · rw [gone] at present
      cases present

end Round

def resubmitted (group : DataGroup) (next : GroupDb) (command : GroupCommand) : DataGroup where
  db := next
  clock := fun reading => group.clock (reading + 1)
  logIds := fun entry => group.logIds (entry + 1)
  submitted := group.submitted ++ [command]

/-- The text of the driver for a round that it takes for one without progress. -/
def noProgress : DomainError := .storage "retention maintenance made no progress"

theorem maintenanceAnswer_status (texts : RuntimeTexts) (db next : GroupDb)
    (partition : PartitionKey) : DataGroup.maintenanceAnswer texts (db.retentionStatus partition)
      (.retentionStatus (next.retentionStatus partition)) =
      if (next.view.retentionOf partition).reclaimCursor =
            (db.view.retentionOf partition).reclaimCursor ∧
          (next.view.retentionOf partition).logicalFloor ≠
            (next.view.retentionOf partition).reclaimCursor then
        .error noProgress
      else .ok () := rfl

theorem maintainRounds_needed (texts : RuntimeTexts) {group : DataGroup} {result : ApplyResult}
    (observed : leaseClockObservation (group.clock 0) = .ok observation)
    (needed : group.db.retentionMaintenanceNeeded partition observation.lowerBound = true)
    (applied : group.db.applyEntry ⟨group.logIds 0, .normal (DataGroup.maintenanceCommand partition
      (group.db.retentionStatus partition) observation)⟩ = .ok (result, next)) (rounds : Nat) :
    group.maintainRounds texts partition (rounds + 1) =
      match DataGroup.maintenanceAnswer texts (group.db.retentionStatus partition) result with
      | .error error => (.error error, resubmitted group next
          (DataGroup.maintenanceCommand partition (group.db.retentionStatus partition) observation))
      | .ok () => (resubmitted group next (DataGroup.maintenanceCommand partition
          (group.db.retentionStatus partition) observation)).maintainRounds texts partition
            rounds := by
  rw [DataGroup.maintainRounds, DataGroup.observe, observed]
  simp only [attempt]
  rw [if_pos needed, DataGroup.submit]
  dsimp only
  rw [applied]
  dsimp only
  cases DataGroup.maintenanceAnswer texts (group.db.retentionStatus partition) result with
  | error error => rfl
  | ok done => rfl

/-- In every reachable state of a data group without a held fence, and for every accepted
observation of the clock that is not behind the stored one: a round is needed exactly when its
command expires a lease of the partition, deletes a record or moves the cursor; and a round that has
expired a lease or deleted a record is taken for progress exactly unless its limits run out at the
cursor it came from. -/
theorem maintenance_driver_agrees (texts : RuntimeTexts) (data : identity.kind = .data)
    (ran : Ran identity window content Allowed history db)
    (unheld : db.view.mutationFenceState.held = none) (partition : PartitionKey)
    (accepted : db.view.advanceLeaseClock observation = .ok clock)
    (notBehind : ∀ stored, db.get .leaseClock = some stored →
      stored.lowerBound ≤ observation.lowerBound) (logId : GroupLogId) :
    ∃ next, db.applyEntry ⟨logId, .normal (DataGroup.maintenanceCommand partition
        (db.retentionStatus partition) observation)⟩ =
          .ok (.retentionStatus (next.retentionStatus partition), next) ∧
      (db.retentionMaintenanceNeeded partition observation.lowerBound = true ↔
        db.ExpiresLease next partition ∨ db.DeletesRecord next ∨
          (next.view.retentionOf partition).reclaimCursor ≠
            (db.view.retentionOf partition).reclaimCursor) ∧
      ((db.ExpiresLease next partition ∨ db.DeletesRecord next →
          DataGroup.maintenanceAnswer texts (db.retentionStatus partition)
            (.retentionStatus (next.retentionStatus partition)) = .ok ()) ↔
        ¬∃ lease, db.RunsOut partition observation.lowerBound lease) ∧
      ∀ group : DataGroup, group.db = db → group.logIds 0 = logId →
        leaseClockObservation (group.clock 0) = .ok observation →
        db.retentionMaintenanceNeeded partition observation.lowerBound = true →
        ∃ later, later.db = next ∧ ∀ rounds, group.maintainRounds texts partition (rounds + 1) =
          if DataGroup.maintenanceAnswer texts (db.retentionStatus partition)
              (.retentionStatus (next.retentionStatus partition)) = .ok () then
            later.maintainRounds texts partition rounds
          else (.error noProgress, later) := by
  have guarded := ran.guarded data
  have lower : clock.lowerBound = observation.lowerBound :=
    advanceLeaseClock_lowerBound accepted fun stored found => notBehind stored found
  obtain ⟨after, reclaimed, next, applied, round⟩ :=
    @Ran.round identity window content Allowed history db partition observation clock data ran
      unheld accepted logId
  have stuck := round.stuck_iff guarded unheld
  have answer := maintenanceAnswer_status texts db next partition
  have expires (lease : ReplayLease) (member : lease ∈ db.view.leases)
      (due : lease.due partition clock.lowerBound = true) := round.expires guarded member due
  rw [lower] at stuck expires
  refine ⟨next, applied, ⟨fun needed => ?_, fun does => ?_⟩,
    ⟨fun property => ?_, fun clear _ => ?_⟩, ?_⟩
  · simp only [retentionMaintenanceNeeded, Bool.or_eq_true, decide_eq_true_eq, List.any_eq_true]
      at needed
    rcases needed with below | ⟨lease, member, due⟩
    · by_cases moved : (next.view.retentionOf partition).reclaimCursor =
          (db.view.retentionOf partition).reclaimCursor
      · -- a cursor that is back below the floor went back to a due lease
        have floor := round.floor
        obtain ⟨lease, runsOut⟩ := stuck.mp ⟨moved, by omega⟩
        exact .inl (expires lease runsOut.listed runsOut.due)
      · exact .inr (.inr moved)
    · exact .inl (expires lease member due)
  · by_contra idle
    simp only [retentionMaintenanceNeeded, Bool.or_eq_true, decide_eq_true_eq, List.any_eq_true,
      not_or, not_exists, not_and] at idle
    obtain ⟨reached, undue⟩ := idle
    have order := guarded.records.cursor partition
    rw [← lower] at undue
    obtain ⟨kept, stays, still⟩ := round.idle guarded (by omega) undue
    rcases does with expired | deleted | moved
    · exact kept expired
    · exact stays deleted
    · exact moved still
  · rintro ⟨lease, runsOut⟩
    have done := property (.inl (expires lease runsOut.listed runsOut.due))
    rw [answer, if_pos (stuck.mpr ⟨lease, runsOut⟩)] at done
    cases done
  · rw [answer, if_neg fun stopped => clear (stuck.mp stopped)]
  · rintro group rfl rfl observed needed
    refine ⟨resubmitted group next (DataGroup.maintenanceCommand partition
      (group.db.retentionStatus partition) observation), rfl, fun rounds => ?_⟩
    rw [maintainRounds_needed texts observed needed applied, answer]
    by_cases stopped : (next.view.retentionOf partition).reclaimCursor =
        (group.db.view.retentionOf partition).reclaimCursor ∧
      (next.view.retentionOf partition).logicalFloor ≠
        (next.view.retentionOf partition).reclaimCursor
    · simp only [if_pos stopped, reduceCtorEq, if_false]
    · simp only [if_neg stopped, if_true]

def plainTexts : RuntimeTexts := ⟨fun _ => "", fun _ => ""⟩

/-- A round that reclaims one record and passes over the leased one. -/
theorem maintenance_driver_agrees_sample : ∃ db next,
    Ran freshData.identity 2 (fun _ => [7]) (fun _ _ => True) (replayEntries.take 5) db ∧
    db.applyEntry ⟨⟨1, 1, 6⟩, .normal (DataGroup.maintenanceCommand samplePartition
      (db.retentionStatus samplePartition) sampleClock)⟩ =
        .ok (.retentionStatus (next.retentionStatus samplePartition), next) ∧
    (db.retentionMaintenanceNeeded samplePartition 0 = true ↔
      db.ExpiresLease next samplePartition ∨ db.DeletesRecord next ∨
        (next.view.retentionOf samplePartition).reclaimCursor ≠
          (db.view.retentionOf samplePartition).reclaimCursor) ∧
    ((db.ExpiresLease next samplePartition ∨ db.DeletesRecord next →
        DataGroup.maintenanceAnswer plainTexts (db.retentionStatus samplePartition)
          (.retentionStatus (next.retentionStatus samplePartition)) = .ok ()) ↔
      ¬∃ lease, db.RunsOut samplePartition 0 lease) := by
  have clocked : freshData.leaves (replayEntries.take 5) (fun db =>
      decide (db.get .leaseClock = some ⟨0, 0⟩) &&
          decide (db.view.mutationFenceState.held = none)) = true := by decide
  obtain ⟨results, db, submitted, clocked⟩ := leaves_iff.mp clocked
  simp only [Bool.and_eq_true, decide_eq_true_eq] at clocked
  obtain ⟨clocked, unheld⟩ := clocked
  have ran : Ran freshData.identity 2 (fun _ => [7]) (fun _ _ => True) (replayEntries.take 5) db :=
    Ran.submitAll .created (create_usedBelow _ _) (by decide) (by decide) (fun _ _ _ => trivial)
      submitted
  have accepted : db.view.advanceLeaseClock sampleClock = .ok ⟨0, 0⟩ := by
    rw [GroupView.advanceLeaseClock, view_get, clocked]
    rfl
  obtain ⟨next, applied, needed, progress, _⟩ := maintenance_driver_agrees plainTexts rfl ran unheld
    samplePartition accepted (by
      intro stored found
      rw [clocked] at found
      cases found
      exact le_rfl) ⟨1, 1, 6⟩
  exact ⟨db, next, ran, applied, needed, progress⟩

end GroupDb

/-! ### A batch that runs out at the cursor -/

open GroupDb

def bigRecord : Record := List.replicate (1024 * 1024) 0

theorem bigRecord_length : bigRecord.length = 1024 * 1024 := List.length_replicate

def bigPublish : PublishBatch where
  cluster := sampleCluster
  partition := samplePartition
  request := ⟨⟨"writer"⟩, ⟨1⟩, 1⟩
  records := List.replicate 8 bigRecord
  bookmark := none
  valid := by
    have total : payloadTotal (List.replicate 8 bigRecord) = maxPublishBytes := by
      simp only [payloadTotal, List.map_replicate, List.sum_replicate, bigRecord_length]
      rfl
    refine ⟨by simp, by simp [maxRecordsPerPublish], fun record member => ?_, total.le⟩
    rw [List.eq_of_mem_replicate member]
    refine ⟨fun empty => ?_, bigRecord_length.le⟩
    have length := bigRecord_length
    rw [empty] at length
    cases length

def bigLogId : GroupLogId := ⟨1, 1, 3⟩

def bigEntry : GroupEntry := ⟨bigLogId, .normal (.publish bigPublish)⟩

def bigRange : CommittedRecordRange :=
  ⟨samplePartition, 1, 8, by decide, by decide⟩

def bigPuts : StateBatch :=
  (List.range 8).map fun slot =>
    .put (.record samplePartition (1 + slot))
      ⟨⟨bigLogId, slot⟩, 1024 * 1024, 1 + (slot + 1) * (1024 * 1024)⟩

theorem bigPuts_recordOps :
    recordOps bigLogId samplePartition bigPublish.records 0 1 1 = bigPuts := by
  simp only [bigPublish, List.replicate, recordOps, bigRecord_length]
  rfl

namespace GroupView

variable {view : GroupView}

structure Ready (view : GroupView) : Prop where
  data : view.identity.kind = .data
  cluster : view.identity.clusterId = sampleCluster
  bootstrap : (view.get .bootstrap).map BootstrapSpec.cluster = some sampleCluster
  unheld : view.mutationFenceState.held = none
  absent : (view.get (.receipt samplePartition bigPublish.request)).isNone = true
  newer : ((view.get (sessionKey samplePartition bigPublish.request)).getD
    SessionState.default).covers 1 = false
  next : view.nextOffsetOf samplePartition = 1
  position : (view.retentionOf samplePartition).nextBytePosition = 1
  owned : SlotsOwned view bigLogId 0 8

instance : Decidable view.Ready :=
  decidable_of_iff (view.identity.kind = .data ∧ view.identity.clusterId = sampleCluster ∧
      (view.get .bootstrap).map BootstrapSpec.cluster = some sampleCluster ∧
      view.mutationFenceState.held = none ∧
      (view.get (.receipt samplePartition bigPublish.request)).isNone = true ∧
      ((view.get (sessionKey samplePartition bigPublish.request)).getD
        SessionState.default).covers 1 = false ∧
      view.nextOffsetOf samplePartition = 1 ∧
      (view.retentionOf samplePartition).nextBytePosition = 1 ∧ SlotsOwned view bigLogId 0 8)
    ⟨fun ⟨data, cluster, bootstrap, unheld, absent, newer, next, position, owned⟩ =>
      ⟨data, cluster, bootstrap, unheld, absent, newer, next, position, owned⟩,
    fun ready => ⟨ready.data, ready.cluster, ready.bootstrap, ready.unheld, ready.absent,
      ready.newer, ready.next, ready.position, ready.owned⟩⟩

def bigWrites (view : GroupView) : WriteBatch :=
  ⟨bigPuts ++ [.put (.nextOffset samplePartition) 9,
      .put (.retention samplePartition)
        { view.retentionOf samplePartition with nextBytePosition := 1 + 8 * (1024 * 1024) }] ++
      view.publishReceiptWrites bigPublish ⟨bigPublish.request, bigRange, none⟩
        ((view.get (sessionKey samplePartition bigPublish.request)).getD SessionState.default),
    ownerOps view bigLogId bigPublish.records 0⟩

theorem bigPublish_handled (ready : view.Ready) :
    view.applyCommand bigLogId (.publish bigPublish) =
      .ok (.published ⟨bigPublish.request, bigRange, none⟩, view.bigWrites) := by
  obtain ⟨spec, bootstrapped, own⟩ := Option.map_eq_some_iff.mp ready.bootstrap
  have absent : view.get (.receipt bigPublish.partition bigPublish.request) = none :=
    Option.isNone_iff_eq_none.mp ready.absent
  have total : payloadTotal bigPublish.records = 8 * (1024 * 1024) := by
    simp only [bigPublish, payloadTotal, List.map_replicate, List.sum_replicate, bigRecord_length]
    rfl
  have length : bigPublish.records.length = 8 := List.length_replicate
  have stored := @storeRecords_eq view bigLogId bigPublish.partition bigPublish.records 0 1
    (view.retentionOf samplePartition) ⟨[], []⟩ (by
      rw [ready.position, total]
      decide)
  rw [length, if_pos ready.owned, ready.position, total] at stored
  have included : (GroupCommand.publish bigPublish).fenceClass = .includedMutation := rfl
  have allocated : CommittedRecordRange.new bigPublish.partition 1 8 = .ok bigRange := rfl
  unfold applyCommand
  rw [if_pos included, ready.unheld]
  show view.applyPublish bigLogId bigPublish = _
  unfold applyPublish
  rw [if_neg (by simp [ready.data]), bootstrapped]
  dsimp only
  rw [own, ready.cluster, if_neg (by decide), absent]
  dsimp only
  have partition : bigPublish.partition = samplePartition := rfl
  have sequence : bigPublish.request.sequence = 1 := rfl
  rw [partition, sequence, if_neg (by simp [ready.newer]), publishUnbatchedNew, partition,
    ready.next, length]
  have unnamed : bigPublish.bookmark = none := rfl
  have first : bigRange.first = 1 := rfl
  rw [partition] at allocated stored
  rw [allocated, unnamed]
  dsimp only
  rw [publishUnbatched, partition, first, stored]
  dsimp only
  rw [bigPuts_recordOps]
  rfl

end GroupView

namespace GroupDb

def withBig (db : GroupDb) : GroupDb :=
  (db.append [bigEntry]).commit
    ⟨(db.append [bigEntry]).view.bigWrites.state ++ [.put .applied bigLogId],
      (db.append [bigEntry]).view.bigWrites.payload⟩

theorem submit_bigEntry {db : GroupDb} (ready : (db.append [bigEntry]).view.Ready) :
    db.submit bigEntry =
      .ok (.published ⟨bigPublish.request, bigRange, none⟩, db.withBig) :=
  applyEntry_normal (GroupView.bigPublish_handled ready)

theorem stallingRange_nonempty : 0 < 8 := by decide

/-- The lease keeps all records but the last; the cursor passes over them, and then the floor moves
past the last one. -/
def stallingEntries : List GroupEntry :=
  [⟨⟨1, 1, 4⟩, .normal (.admitReplayLease
      ⟨sampleRequest 0, sampleCluster, ⟨samplePartition, 0, 8, stallingRange_nonempty⟩, 1, 8 * 1024 * 1024,
        Nat.one_ne_zero, by decide⟩ sampleClock)⟩,
    ⟨⟨1, 1, 5⟩, .normal (.advanceRetention ⟨sampleRequest 1, samplePartition, 8⟩ sampleClock)⟩,
    ⟨⟨1, 1, 6⟩, .normal (.maintainRetention samplePartition 0 1024 (8 * 1024 * 1024) sampleClock)⟩,
    ⟨⟨1, 1, 7⟩, .normal (.advanceRetention ⟨sampleRequest 2, samplePartition, 9⟩ sampleClock)⟩]

def dueClock : ClockObservation := ⟨1, 4001, by decide⟩

/-- The group of a leader whose system clock shows that the lease is due. -/
def dueGroup (db : GroupDb) : DataGroup where
  db := db
  clock := fun _ => 2001
  logIds := fun entry => ⟨1, 1, 8 + entry⟩
  submitted := []

def bigContent (id : PayloadId) : Record := if id.logId = bigLogId then bigRecord else [7]

theorem bigEntry_bytes : ∀ payload ∈ (thinEntry bigEntry).2, bigContent payload.1 = payload.2 := by
  rintro ⟨id, bytes⟩ member
  obtain ⟨index, found, rfl⟩ := mem_payloadsFrom.mp member
  have same := List.eq_of_mem_replicate (List.mem_of_getElem? found)
  rw [same, bigContent]
  exact if_pos rfl

def maintenanceStalls : Bool :=
  match freshData.submitAll (replayEntries.take 2) with
  | .ok (_, small) =>
      decide (small.append [bigEntry]).view.Ready && (match small.withBig.submitAll
          stallingEntries with
        | .ok (_, db) => decide (db.view.mutationFenceState.held = none) &&
            decide (db.get .leaseClock = some ⟨0, 0⟩) &&
            decide (((dueGroup db).maintainGroupRetention plainTexts samplePartition).1 =
              .error noProgress) &&
            decide ((db.get (.leaseId (.derived (sampleRequest 0)))).map ReplayLease.lifecycle =
              some .active) && (db.get (.record samplePartition 0)).isSome &&
            (match db.applyEntry ⟨⟨1, 1, 8⟩, .normal (DataGroup.maintenanceCommand
                samplePartition (db.retentionStatus samplePartition) dueClock)⟩ with
              | .ok (.retentionStatus status, next) =>
                  decide (status = next.retentionStatus samplePartition) &&
                  decide ((next.get (.leaseId (.derived (sampleRequest 0)))).map
                    ReplayLease.lifecycle = some .expired) &&
                  (next.get (.record samplePartition 0)).isNone
              | _ => false)
        | .error _ => false)
  | .error _ => false

/-- The driver fails without progress, although its command expires the lease and deletes a
record. -/
theorem retention_maintenance_stalls : ∃ history db next id,
    Ran freshData.identity 2 bigContent (fun _ _ => True) history db ∧
    db.view.mutationFenceState.held = none ∧ leaseClockObservation 2001 = .ok dueClock ∧
    db.view.advanceLeaseClock dueClock = .ok ⟨1, 4001⟩ ∧
    (∀ stored, db.get .leaseClock = some stored → stored.lowerBound ≤ dueClock.lowerBound) ∧
    db.applyEntry ⟨⟨1, 1, 8⟩, .normal (DataGroup.maintenanceCommand samplePartition
      (db.retentionStatus samplePartition) dueClock)⟩ =
        .ok (.retentionStatus (next.retentionStatus samplePartition), next) ∧
    (db.get (.leaseId id)).map ReplayLease.lifecycle = some .active ∧
    (next.get (.leaseId id)).map ReplayLease.lifecycle = some .expired ∧
    (db.get (.record samplePartition 0)).isSome = true ∧
    (next.get (.record samplePartition 0)).isNone = true ∧
    ((dueGroup db).maintainGroupRetention plainTexts samplePartition).1 = .error noProgress := by
  have runs : maintenanceStalls = true := by decide +kernel
  unfold maintenanceStalls at runs
  split at runs
  case h_2 => simp at runs
  rename_i results small submitted
  rw [Bool.and_eq_true, decide_eq_true_eq] at runs
  obtain ⟨ready, runs⟩ := runs
  split at runs
  case h_2 => simp at runs
  rename_i laterResults db resubmitted
  simp only [Bool.and_eq_true, decide_eq_true_eq] at runs
  obtain ⟨⟨⟨⟨⟨unheld, clocked⟩, stalled⟩, active⟩, present⟩, runs⟩ := runs
  split at runs
  case h_2 => simp at runs
  rename_i status next applied
  simp only [Bool.and_eq_true, decide_eq_true_eq] at runs
  obtain ⟨⟨rfl, expired⟩, deleted⟩ := runs
  have ran : Ran freshData.identity 2 bigContent (fun _ _ => True) (replayEntries.take 2) small :=
    Ran.submitAll .created (create_usedBelow _ _) (by decide) (by decide) (fun _ _ _ => trivial)
      submitted
  have used : small.UsedBelow 3 := (create_usedBelow freshData.identity 2).submitAll (by decide)
    (by decide) (by decide) submitted
  obtain ⟨appendable, due⟩ := used.due (by decide) bigEntry_bytes
  have big := (ran.appended appendable).applied due trivial (submit_bigEntry ready)
  have bigUsed : small.withBig.UsedBelow 4 := used.submit (by decide) (submit_bigEntry ready)
  have last := big.submitAll bigUsed (by decide) (by decide) (fun _ _ _ => trivial) resubmitted
  refine ⟨_, db, next, .derived (sampleRequest 0), last, unheld, rfl, ?_, ?_, applied, active,
    expired, present, deleted, stalled⟩
  · rw [GroupView.advanceLeaseClock, view_get, clocked]
    rfl
  · intro stored found
    rw [clocked] at found
    cases found
    decide

end GroupDb

end LightStream
