import LightStream.Proofs.Entries
import LightStream.Proofs.LeaseSpec
import LightStream.Proofs.Payloads

/-!
How a command moves the records of a data group: publishes add records past the tails, maintenance
deletes some, and the counter of log-owned bytes follows maintenance alone.
-/

namespace LightStream

namespace GroupView

variable {view other third : GroupView} {logId : GroupLogId} {result : ApplyResult}
  {write : WriteBatch}

structure Gains (logId : GroupLogId) (view other : GroupView) : Prop where
  tail : ∀ partition, view.nextOffsetOf partition ≤ other.nextOffsetOf partition
  record : ∀ (partition : PartitionKey) (offset : Nat) (record : StoredRecord),
    other.get (.record partition offset) = some record →
    view.get (.record partition offset) = some record ∨
      view.nextOffsetOf partition ≤ offset ∧ record.payloadKey.logId = logId

theorem Gains.refl (view : GroupView) : Gains logId view view where
  tail := fun _ => le_rfl
  record := fun _ _ _ stored => .inl stored

theorem Gains.trans (first : Gains logId view other) (second : Gains logId other third) :
    Gains logId view third where
  tail := fun partition => (first.tail partition).trans (second.tail partition)
  record := by
    intro partition offset record stored
    rcases second.record partition offset record stored with old | ⟨past, own⟩
    · exact first.record partition offset record old
    · exact .inr ⟨(first.tail partition).trans past, own⟩

theorem Gains.none
    (tail : ∀ partition, other.nextOffsetOf partition = view.nextOffsetOf partition)
    (record : ∀ (partition : PartitionKey) (offset : Nat) (record : StoredRecord),
      other.get (.record partition offset) = some record →
      view.get (.record partition offset) = some record) : Gains logId view other where
  tail := fun partition => Nat.le_of_eq (tail partition).symm
  record := fun partition offset stored found => .inl (record partition offset stored found)

theorem Gains.within {families : List StateFamily} {writes : StateBatch}
    (within : Within families writes)
    (outside : ∀ family ∈ [StateFamily.record, .nextOffset], family ∉ families) :
    Gains logId view (view.after writes) := by
  refine .none ?_ ?_
  · intro partition
    rw [nextOffsetOf, nextOffsetOf, after_get_of_within within (outside _ (by simp [StateKey.family]))]
  · intro partition offset record stored
    rwa [after_get_of_within within (outside _ (by simp [StateKey.family]))] at stored

theorem Gains.congr (gains : Gains logId view other) (same : ∀ key : StateKey,
    key.family ∈ [StateFamily.record, .nextOffset] → third.get key = other.get key) :
    Gains logId view third where
  tail := by
    intro partition
    rw [nextOffsetOf.eq_1 third, same _ (by simp [StateKey.family]), ← nextOffsetOf]
    exact gains.tail partition
  record := by
    intro partition offset record stored
    rw [same _ (by simp [StateKey.family])] at stored
    exact gains.record partition offset record stored

structure Keeps (view other : GroupView) : Prop where
  record : ∀ (partition : PartitionKey) (offset : Nat) (record : StoredRecord),
    view.get (.record partition offset) = some record →
    other.get (.record partition offset) = some record
  raftOnly : ∀ partition,
    (other.retentionOf partition).raftOnlyBytes = (view.retentionOf partition).raftOnlyBytes

theorem Keeps.refl (view : GroupView) : Keeps view view where
  record := fun _ _ _ stored => stored
  raftOnly := fun _ => rfl

theorem Keeps.trans (first : Keeps view other) (second : Keeps other third) : Keeps view third where
  record := fun partition offset record stored =>
    second.record partition offset record (first.record partition offset record stored)
  raftOnly := fun partition => (second.raftOnly partition).trans (first.raftOnly partition)

theorem Keeps.within {families : List StateFamily} {writes : StateBatch}
    (within : Within families writes)
    (outside : ∀ family ∈ [StateFamily.record, .retention], family ∉ families) :
    Keeps view (view.after writes) where
  record := by
    intro partition offset record stored
    rwa [after_get_of_within within (outside _ (by simp [StateKey.family]))]
  raftOnly := by
    intro partition
    rw [retentionOf, retentionOf, after_get_of_within within (outside _ (by simp [StateKey.family]))]

theorem Keeps.congr (keeps : Keeps view other) (same : ∀ key : StateKey,
    key.family ∈ [StateFamily.record, .retention] → third.get key = other.get key) :
    Keeps view third where
  record := by
    intro partition offset record stored
    rw [same _ (by simp [StateKey.family])]
    exact keeps.record partition offset record stored
  raftOnly := by
    intro partition
    rw [retentionOf, same _ (by simp [StateKey.family]), ← retentionOf]
    exact keeps.raftOnly partition

theorem Keeps.lowered
    (record : ∀ partition offset,
      other.get (.record partition offset) = view.get (.record partition offset))
    (lowered : ∀ partition, Lowered (view.retentionOf partition) (other.retentionOf partition)) :
    Keeps view other where
  record := by
    intro partition offset stored found
    rw [record]
    exact found
  raftOnly := by
    intro partition
    obtain ⟨cursor, _, same⟩ := lowered partition
    rw [same]

section Publish

variable {slot : Nat} {batch : PublishBatch}

theorem Placement.gains (placed : view.Placement logId slot batch write) :
    Gains logId view (view.after write.state) := by
  cases placed with
  | quiet writes within => exact .within within (by decide)
  | appended range allocated owned before rest beforeWithin afterWithin =>
      obtain ⟨first, next, _⟩ := committedRecordRange_ok allocated
      constructor
      · intro partition
        have tail : (view.after (before ++ view.placeWrites logId slot batch range ++
            rest)).nextOffsetOf partition =
              if partition = batch.partition then range.next else view.nextOffsetOf partition := by
          rw [nextOffsetOf, place_between beforeWithin afterWithin (by simp [StateKey.family]),
            ← nextOffsetOf, place_nextOffset]
        rw [tail]
        split
        · rename_i own
          rw [own]
          omega
        · exact le_rfl
      · intro partition offset record stored
        rw [place_between beforeWithin afterWithin (by simp [StateKey.family])] at stored
        rcases placed_record_cases stored with ⟨rfl, low, _, payload⟩ | old
        · rw [payload]
          exact .inr ⟨by omega, rfl⟩
        · exact .inl old

theorem Placement.keeps (kept : view.Protected) (placed : view.Placement logId slot batch write) :
    Keeps view (view.after write.state) := by
  cases placed with
  | quiet writes within => exact .within within (by decide)
  | appended range allocated owned before rest beforeWithin afterWithin =>
      constructor
      · intro partition offset record stored
        rw [place_between beforeWithin afterWithin (by simp [StateKey.family])]
        exact placed_record_old kept allocated stored
      · intro partition
        rw [retentionOf, place_between beforeWithin afterWithin (by simp [StateKey.family]),
          ← retentionOf, place_retention]
        split <;> rfl

theorem applyPublishMany_moves {batch : ReplicatedPublishBatch} (kept : view.Protected)
    (done : view.applyPublishMany logId batch = .ok (result, write)) :
    Gains logId view (view.after write.state) ∧ Keeps view (view.after write.state) := by
  have moved : ∃ _ : Nat, (view.after write.state).Protected ∧
      Gains logId view (view.after write.state) ∧ Keeps view (view.after write.state) := by
    refine @applyPublishMany_invariant view logId write (fun _ write =>
      (view.after write.state).Protected ∧ Gains logId view (view.after write.state) ∧
        Keeps view (view.after write.state)) ⟨kept, .refl view, .refl view⟩ ?_ batch result done
    intro slot batch first write held placed
    rw [show (first.append write).state = first.state ++ write.state from rfl, after_append]
    obtain ⟨records, gains, keeps⟩ := held
    exact ⟨records.placed placed, gains.trans placed.gains, keeps.trans (placed.keeps records)⟩
  exact moved.choose_spec.2

end Publish

section Leases

variable {clock : SafeLeaseClock}

theorem expired_keeps : Keeps view (view.expired clock) :=
  .lowered (fun partition offset => expired_record partition offset) expired_lowered

theorem AdmitCase.keeps {request : ReplayLeaseRequest} {decision : LeaseDecision}
    (case : view.AdmitCase request clock (view.expireDueLeases clock) decision) :
    Keeps view ((view.expired clock).after decision.2) := by
  cases case with
  | refused error => exact expired_keeps
  | admitted bytes lease sized admits =>
      exact expired_keeps.trans (.within (show Within [.lease, .leaseRequest, .leaseBudget,
        .leaseClock] _ by simp [StateKey.family]) (by decide))

theorem RenewCase.keeps {request : LeaseRenewal} {decision : LeaseDecision}
    (case : view.RenewCase request clock decision) :
    Keeps view ((view.expired clock).after decision.2) := by
  cases case with
  | refused error => exact expired_keeps
  | renewed lease renewed expiresAt stored effective later renews =>
      exact expired_keeps.trans (.within (show Within [.lease, .leaseClock] _ by
        simp [StateKey.family]) (by decide))

theorem ReleaseCase.keeps {request : LeaseRelease} {decision : LeaseDecision}
    (case : view.ReleaseCase request clock (view.expireDueLeases clock) decision) :
    Keeps view ((view.expired clock).after decision.2) := by
  cases case with
  | refused error => exact expired_keeps
  | released lease stored effective =>
      have lowers := @releaseReclaim_lowers view clock lease.range
      have reclaim : Keeps (view.expired clock) ((view.expired clock).after
          (view.releaseReclaim (view.expireDueLeases clock) lease.range)) :=
        .lowered (fun _ _ => lowers.frame _ (by simp [StateKey.family])) lowers.lowered
      have released : Within [.lease]
          [(.put (.leaseId request.lease) lease.released : Kv.Op StateKey StateVal)] := by
        simp [StateKey.family]
      have rest : Within [.lease, .leaseBudget, .leaseClock]
          ([.put (.leaseId request.lease) lease.released] ++
            [.put .leaseBudget ⟨(view.expireDueLeases clock).budget.activeLeases - 1,
                (view.expireDueLeases clock).budget.reservedBytes - lease.protectedBytes⟩,
              .put .leaseClock clock]) := by simp [StateKey.family]
      refine ((expired_keeps.trans reclaim).trans (.within rest (by decide))).congr fun key _ => ?_
      exact after_swap released (releaseReclaim_within _ _) (by decide)

theorem LeaseCase.keeps {request : MutationRequestId} {fingerprint : MutationFingerprint}
    {observation : ClockObservation} {decision : SafeLeaseClock → LeaseExpiryState → LeaseDecision}
    (case : view.LeaseCase request fingerprint observation decision result write)
    (decided : ∀ clock, Keeps view ((view.expired clock).after
      (decision clock (view.expireDueLeases clock)).2)) : Keeps view (view.after write.state) := by
  cases case with
  | answered result prior => exact .refl view
  | unclocked fresh error clockless =>
      exact .within (storeMutationResult_within _ _ _) (by decide)
  | decided fresh clock advanced =>
      refine (decided clock).congr fun key inside => ?_
      refine LeaseCase.decided_get ?_
      rintro mutation
      rw [mutation] at inside
      simp at inside

theorem AdvanceCase.keeps {request : RetentionRequest} {observation : ClockObservation}
    (case : view.AdvanceCase request observation result write) :
    Keeps view (view.after write.state) := by
  cases case with
  | foreign | answered | unbounded => exact .refl view
  | refused fresh error => exact .within (storeMutationResult_within _ _ _) (by decide)
  | advanced fresh floor bytes clock advanced clocked bounded =>
      have raised : Keeps view (view.after [.put (.retention request.partition)
          { view.retentionOf request.partition with
            logicalFloor := floor, floorBytePosition := bytes }]) := by
        constructor
        · intro partition offset record stored
          rwa [after_get_of_within (show Within [.retention] _ by simp [StateKey.family])
            (by simp [StateKey.family])]
        · intro partition
          rw [retentionOf_put]
          split
          · rename_i own
            rw [own]
          · rfl
      have clocks : Within [.leaseClock] [(.put .leaseClock clock : Kv.Op StateKey StateVal)] := by
        simp [StateKey.family]
      rw [after_append, ← List.singleton_append, after_append]
      exact (raised.trans (.within clocks (by decide))).trans
        (.within (storeMutationResult_within _ _ _) (by decide))

end Leases

theorem dispatch_gains {command : GroupCommand} (kept : view.Protected) (listed : view.Listed)
    (done : view.dispatch logId command = .ok (result, write)) :
    Gains logId view (view.after write.state) := by
  have quiet (outside : ∀ family ∈ [StateFamily.record, .nextOffset], family ∉ command.families) :
      Gains logId view (view.after write.state) :=
    .within (dispatch_within command result write done) outside
  cases command with
  | publish batch => exact (applyPublish_placement done).gains
  | publishMany batch => exact (applyPublishMany_moves kept done).1
  | maintainRetention partition expectedCursor maxRecords maxPayloadBytes clock =>
      rcases applyMaintainRetention_cases kept listed done with
        rfl | ⟨clock, before, after, reclaimed, _, _, _, finished, _, _, _⟩
      · exact .refl view
      · refine .none ?_ ?_
        · intro other
          rw [nextOffsetOf, nextOffsetOf, finished.frame _ (by simp [StateKey.family]),
            expired_get_other (by simp [StateKey.family])]
        · intro other offset record stored
          rw [finished.record, expired_record] at stored
          split at stored
          · simp at stored
          · exact stored
  | exportProtocol command =>
      cases command <;> exact quiet (by simp [GroupCommand.families])
  | _ => exact quiet (by simp [GroupCommand.families, leaseFamilies, decisionFamilies])

theorem dispatch_keeps {command : GroupCommand} (kept : view.Protected) (listed : view.Listed)
    (other : ∀ partition expectedCursor maxRecords maxPayloadBytes clock, command ≠
      .maintainRetention partition expectedCursor maxRecords maxPayloadBytes clock)
    (done : view.dispatch logId command = .ok (result, write)) :
    Keeps view (view.after write.state) := by
  have quiet (outside : ∀ family ∈ [StateFamily.record, .retention], family ∉ command.families) :
      Keeps view (view.after write.state) :=
    .within (dispatch_within command result write done) outside
  cases command with
  | publish batch => exact (applyPublish_placement done).keeps kept
  | publishMany batch => exact (applyPublishMany_moves kept done).2
  | advanceRetention request clock => exact (applyAdvanceRetention_case done).keeps
  | admitReplayLease request clock =>
      exact (applyAdmitReplayLease_case done).keeps fun clock => (admitDecision_case request).keeps
  | renewReplayLease request clock =>
      exact (applyRenewReplayLease_case done).keeps fun clock => (renewDecision_case request).keeps
  | releaseReplayLease request clock =>
      exact (applyReleaseReplayLease_case done).keeps fun clock =>
        (releaseDecision_case request).keeps
  | maintainRetention partition expectedCursor maxRecords maxPayloadBytes clock =>
      exact absurd rfl (other partition expectedCursor maxRecords maxPayloadBytes clock)
  | exportProtocol command =>
      cases command with
      | releaseFence token =>
          rcases applyReleaseExportFence_cases done with rfl | ⟨fence, _, _, rfl⟩
          · exact .refl view
          · refine .lowered ?_ (resumed_lowered listed fence)
            intro partition offset
            exact after_get_of_within (resumed_within fence) (by simp [StateKey.family])
      | _ => exact quiet (by simp [GroupCommand.families])
  | _ => exact quiet (by simp [GroupCommand.families])

end GroupView

namespace GroupDb

variable {db next : GroupDb} {entry : GroupEntry} {result : ApplyResult}

theorem applyEntry_gains (guarded : db.view.Guarded)
    (done : db.applyEntry entry = .ok (result, next)) :
    GroupView.Gains entry.logId db.view next.view := by
  have refl := @GroupView.Gains.refl entry.logId db.view
  have apart {key : StateKey} (inside : key.family ∈ [StateFamily.record, .nextOffset]) :
      key.family ∉ [StateFamily.applied, .membership] := by
    simp only [List.mem_cons, List.not_mem_nil, or_false] at inside
    rcases inside with family | family <;> rw [family] <;> decide
  cases applyEntry_case done with
  | quiet silent noop same => exact refl.congr fun key inside => same key (apart inside)
  | fenced command held normal included isHeld answer replayed answered same =>
      exact refl.congr fun key inside => same key fun outside =>
        apart inside (List.mem_cons.mpr (.inl (List.mem_singleton.mp outside)))
  | dispatched command write normal free dispatched reads =>
      exact (GroupView.dispatch_gains guarded.records guarded.records.listed dispatched).congr
        fun key inside => reads key fun outside =>
          apart inside (List.mem_cons.mpr (.inl (List.mem_singleton.mp outside)))

end GroupDb

end LightStream
