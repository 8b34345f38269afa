import LightStream.Proofs.Drain
import LightStream.Proofs.IndexRuns

/-!
The reclaim loop of retention maintenance ends by itself whatever the active ranges are, keeps both
of its limits, and moves a cursor that is below the floor; so rounds of it reach the floor.
-/

namespace LightStream

namespace GroupView

variable {view : GroupView} {partition : PartitionKey} {ranges : List ReplayRange}
  {maxRecords maxPayloadBytes : Nat}

def Reclaimed.bytes (reclaimed : Reclaimed) : Nat := reclaimed.record.payloadBytes

def Stopped (view : GroupView) (partition : PartitionKey) (ranges : List ReplayRange)
    (maxRecords maxPayloadBytes : Nat) (reclaim : ReclaimState) : Prop :=
  ¬(reclaim.retention.reclaimCursor < reclaim.retention.logicalFloor ∧
      reclaim.examined < maxRecords) ∨
    view.reclaimStep partition ranges maxPayloadBytes reclaim = .ok none

theorem reclaimLoop_stopped : ∀ {fuel : Nat} {before after : ReclaimState},
    before.retention.logicalFloor ≤ u64Max →
    before.retention.logicalFloor - before.retention.reclaimCursor ≤ fuel →
    view.reclaimLoop partition ranges maxRecords maxPayloadBytes fuel before = .ok after →
    view.Stopped partition ranges maxRecords maxPayloadBytes after := by
  intro fuel
  induction fuel with
  | zero =>
      intro before after _ enough done
      cases done
      exact .inl fun goes => by omega
  | succ fuel ih =>
      intro before after fits enough done
      rw [reclaimLoop] at done
      split at done
      · rename_i goes
        split at done
        · simp at done
        · rename_i stopped
          cases done
          exact .inr stopped
        · rename_i next stepped
          obtain ⟨moved, reclaimed, one⟩ := reclaimStep_reclaims goes.1 fits stepped
          refine ih ?_ ?_ done
          · rw [one.floor]
            exact fits
          · rw [one.floor]
            omega
      · rename_i idle
        cases done
        exact .inl idle

theorem reclaimLoop_fuel : ∀ {fuel : Nat} {before after : ReclaimState} (extra : Nat),
    before.retention.logicalFloor ≤ u64Max →
    before.retention.logicalFloor - before.retention.reclaimCursor ≤ fuel →
    view.reclaimLoop partition ranges maxRecords maxPayloadBytes fuel before = .ok after →
    view.reclaimLoop partition ranges maxRecords maxPayloadBytes (fuel + extra) before =
      .ok after := by
  intro fuel
  induction fuel with
  | zero =>
      intro before after extra _ enough done
      cases done
      cases extra with
      | zero => rfl
      | succ extra =>
          rw [Nat.zero_add, reclaimLoop, if_neg fun goes => by omega]
  | succ fuel ih =>
      intro before after extra fits enough done
      rw [show fuel + 1 + extra = fuel + extra + 1 by omega, reclaimLoop]
      rw [reclaimLoop] at done
      split at done
      · rename_i goes
        rw [if_pos goes]
        split at done
        · simp at done
        · exact done
        · rename_i next stepped
          obtain ⟨moved, reclaimed, one⟩ := reclaimStep_reclaims goes.1 fits stepped
          refine ih extra ?_ ?_ done
          · rw [one.floor]
            exact fits
          · rw [one.floor]
            omega
      · rename_i idle
        rw [if_neg idle]
        exact done

structure Charged (maxRecords maxPayloadBytes : Nat) (reclaim : ReclaimState)
    (deleted : List Reclaimed) : Prop where
  records : deleted.length ≤ reclaim.examined
  examined : reclaim.examined ≤ maxRecords
  bytes : reclaim.reclaimedBytes = min (Kv.weigh Reclaimed.bytes deleted) u64Max
  limited : deleted.length ≤ 1 ∨ reclaim.reclaimedBytes ≤ maxPayloadBytes

theorem reclaimStep_charged {before after : ReclaimState} {deleted : List Reclaimed}
    (charged : Charged maxRecords maxPayloadBytes before deleted)
    (goes : before.retention.reclaimCursor < before.retention.logicalFloor ∧
      before.examined < maxRecords)
    (fits : before.retention.logicalFloor ≤ u64Max)
    (stepped : view.reclaimStep partition ranges maxPayloadBytes before = .ok (some after)) :
    ∃ reclaimed, Reclaims view partition ranges before after reclaimed ∧
      Charged maxRecords maxPayloadBytes after (deleted ++ reclaimed) := by
  obtain ⟨_, reclaimed, reclaims⟩ := reclaimStep_reclaims goes.1 fits stepped
  refine ⟨reclaimed, reclaims, ?_⟩
  have written := reclaims.state
  unfold reclaimStep at stepped
  dsimp only at stepped
  split at stepped
  · cases stepped
    have nothing : reclaimed = [] := by simpa using written
    subst nothing
    rw [List.append_nil]
    exact ⟨charged.records, charged.examined, charged.bytes, charged.limited⟩
  split at stepped
  · cases stepped
    have nothing : reclaimed = [] := by simpa using written
    subst nothing
    rw [List.append_nil]
    refine ⟨Nat.le_succ_of_le charged.records, goes.2, charged.bytes, charged.limited⟩
  rename_i record present
  split at stepped
  · simp at stepped
  rename_i allowed
  split at stepped
  · simp at stepped
  cases stepped
  obtain ⟨only, rfl⟩ : ∃ only, reclaimed = [only] := by
    have one : reclaimed.length = 1 := by
      have lengths := congrArg List.length written
      simp only [ReclaimState.reclaim, List.length_append, List.length_singleton,
        List.length_map] at lengths
      omega
    exact List.length_eq_one_iff.mp one
  simp only [ReclaimState.reclaim, List.map_cons, List.map_nil, List.append_cancel_left_eq,
    List.cons.injEq, and_true, Kv.Op.delete.injEq, StateKey.record.injEq, true_and] at written
  have same : only.record = record := by
    have stored := reclaims.stored only List.mem_cons_self
    rw [← written, present] at stored
    exact (Option.some.inj stored).symm
  have bytes : saturatingAdd before.reclaimedBytes record.payloadBytes =
      min (Kv.weigh Reclaimed.bytes (deleted ++ [only])) u64Max := by
    rw [Kv.weigh_append, Kv.weigh_cons, Kv.weigh_nil, Reclaimed.bytes, same, saturatingAdd,
      charged.bytes]
    omega
  refine ⟨?_, goes.2, bytes, ?_⟩
  · have records := charged.records
    simp only [ReclaimState.reclaim, List.length_append, List.length_singleton]
    omega
  · -- a second record is deleted only within the byte limit
    by_cases first : before.examined > 0
    · right
      exact Nat.le_of_not_lt fun above => allowed ⟨first, above⟩
    · left
      have records := charged.records
      simp only [List.length_append, List.length_singleton]
      omega

theorem reclaimLoop_charged : ∀ {fuel : Nat} {before after : ReclaimState}
    {deleted : List Reclaimed}, Charged maxRecords maxPayloadBytes before deleted →
    before.retention.logicalFloor ≤ u64Max →
    view.reclaimLoop partition ranges maxRecords maxPayloadBytes fuel before = .ok after →
    ∃ reclaimed, Reclaims view partition ranges before after reclaimed ∧
      Charged maxRecords maxPayloadBytes after (deleted ++ reclaimed) := by
  intro fuel
  induction fuel with
  | zero =>
      intro before after deleted charged _ done
      cases done
      exact ⟨[], .refl before, by rwa [List.append_nil]⟩
  | succ fuel ih =>
      intro before after deleted charged fits done
      rw [reclaimLoop] at done
      split at done
      · rename_i goes
        split at done
        · simp at done
        · cases done
          exact ⟨[], .refl before, by rwa [List.append_nil]⟩
        · rename_i next stepped
          obtain ⟨first, one, middle⟩ := reclaimStep_charged charged goes fits stepped
          obtain ⟨second, two, last⟩ := ih middle (by rw [one.floor]; exact fits) done
          exact ⟨first ++ second, one.trans two, by rwa [← List.append_assoc]⟩
      · cases done
        exact ⟨[], .refl before, by rwa [List.append_nil]⟩

theorem Indexed.reclaimed_bytes {content : PayloadId → Record} {published : List Publication}
    {before after : ReclaimState} {reclaimed : List Reclaimed}
    (indexed : Indexed content published view)
    (reclaims : Reclaims view partition ranges before after reclaimed) :
    Kv.weigh Reclaimed.bytes reclaimed ≤ u64Max := by
  have placed : Kv.weigh Reclaimed.bytes reclaimed ≤
      Kv.weigh List.length (recordsTo published partition) := by
    refine Kv.weigh_placed reclaims.distinct fun record member => ?_
    obtain ⟨item, found, _, length, _⟩ :=
      indexed.record partition record.offset record.record (reclaims.stored record member)
    exact ⟨item, found, length⟩
  have total : bytesBelow (recordsTo published partition) (view.nextOffsetOf partition) =
      Kv.weigh List.length (recordsTo published partition) := by
    rw [← indexed.counted partition, bytesBelow, Kv.sizeThrough, List.take_length]
    rfl
  have position := indexed.position partition
  have bounded := indexed.bounded partition
  omega

/-- The loop of a maintenance, whatever its ranges: it ends, within its limits, and forward. -/
structure ReclaimBounded (view : GroupView) (partition : PartitionKey) (ranges : List ReplayRange)
    (maxRecords maxPayloadBytes : Nat) (start after : ReclaimState)
    (reclaimed : List Reclaimed) : Prop where
  terminates : ∀ fuel, start.retention.logicalFloor - start.retention.reclaimCursor ≤ fuel →
    view.reclaimLoop partition ranges maxRecords maxPayloadBytes fuel start = .ok after
  stopped : view.Stopped partition ranges maxRecords maxPayloadBytes after
  deletes : after.write.state = start.write.state ++
    reclaimed.map fun record => .delete (.record partition record.offset)
  distinct : (reclaimed.map Reclaimed.offset).Nodup
  stored : ∀ record ∈ reclaimed, view.get (.record partition record.offset) = some record.record
  records : reclaimed.length ≤ maxRecords
  bytes : maxPayloadBytes < Kv.weigh Reclaimed.bytes reclaimed → reclaimed.length = 1
  unleased : ∀ record ∈ reclaimed, ∀ range ∈ ranges, range.contains record.offset = false
  progress : start.retention.reclaimCursor < start.retention.logicalFloor →
    start.retention.reclaimCursor < after.retention.reclaimCursor
  bounded : after.retention.reclaimCursor ≤
    max start.retention.reclaimCursor start.retention.logicalFloor

theorem reclaimLoop_bounded {content : PayloadId → Record} {published : List Publication}
    {start after : ReclaimState} (indexed : Indexed content published view)
    (records : maxRecords ≠ 0) (fits : start.retention.logicalFloor ≤ u64Max)
    (fresh : start.examined = 0 ∧ start.reclaimedBytes = 0)
    (done : view.reclaimLoop partition ranges maxRecords maxPayloadBytes
      (start.retention.logicalFloor - start.retention.reclaimCursor) start = .ok after) :
    ∃ reclaimed,
      view.ReclaimBounded partition ranges maxRecords maxPayloadBytes start after reclaimed := by
  have nothing : Charged maxRecords maxPayloadBytes start [] :=
    ⟨by simp, by omega, by simp [fresh.2], .inl (by simp)⟩
  obtain ⟨reclaimed, reclaims, charged⟩ := reclaimLoop_charged nothing fits done
  rw [List.nil_append] at charged
  have small := indexed.reclaimed_bytes reclaims
  refine ⟨reclaimed, ?_, reclaimLoop_stopped fits le_rfl done, reclaims.state, reclaims.distinct,
    reclaims.stored, charged.records.trans charged.examined, ?_, reclaims.unleased, ?_,
    reclaims.bounded⟩
  · intro fuel enough
    obtain ⟨extra, rfl⟩ := Nat.exists_eq_add_of_le enough
    exact reclaimLoop_fuel extra fits le_rfl done
  · intro above
    have counted := charged.bytes
    obtain one | within := charged.limited
    · have some : reclaimed ≠ [] := by
        rintro rfl
        simp at above
      have positive := List.length_pos_iff.mpr some
      omega
    · omega
  · intro below
    obtain ⟨fuel, exact⟩ := Nat.exists_eq_add_of_lt below
    rw [show start.retention.logicalFloor - start.retention.reclaimCursor = fuel + 1 by omega]
      at done
    exact reclaimLoop_progress fits below fresh.1 records done

end GroupView

namespace GroupDb

variable {identity : GroupIdentity} {window : Nat} {content : PayloadId → Record}
  {Allowed : GroupDb → GroupEntry → Prop} {history : List GroupEntry} {db : GroupDb}

def reclaimStart (db : GroupDb) (partition : PartitionKey) (clock : SafeLeaseClock) :
    GroupView.ReclaimState :=
  ⟨(db.view.expireDueLeases clock).retentionFor db.view partition, 0, 0,
    ⟨db.view.expiryWrites (db.view.expireDueLeases clock), []⟩⟩

/-- In every reachable state of a data group the reclaim loop ends within its limits and moves a
cursor below the floor, whatever ranges it must pass over; a maintenance runs it over the active
leases; and rounds of maintenance at the cursor returned bring it to the floor while the leases
stay as they are. -/
theorem bounded_reclaim_progresses (data : identity.kind = .data)
    (ran : Ran identity window content Allowed history db) {maxRecords maxPayloadBytes : Nat}
    (records : maxRecords ≠ 0) (bytes : maxPayloadBytes ≠ 0) (partition : PartitionKey)
    {observation : ClockObservation} {clock : SafeLeaseClock}
    (accepted : db.view.advanceLeaseClock observation = .ok clock) :
    (∀ ranges : List ReplayRange, ∃ after reclaimed, db.view.ReclaimBounded partition ranges
        maxRecords maxPayloadBytes (db.reclaimStart partition clock) after reclaimed) ∧
      (∃ after reclaimed, db.view.ReclaimBounded partition
          (GroupView.activeRanges (db.view.expireDueLeases clock) partition) maxRecords
          maxPayloadBytes (db.reclaimStart partition clock) after reclaimed ∧
        db.view.applyMaintainRetention partition (db.view.retentionOf partition).reclaimCursor
          maxRecords maxPayloadBytes observation =
            .ok (GroupView.retentionStatus partition after.retention,
              ⟨after.write.state ++
                  [.put (.retention partition) after.retention, .put .leaseClock clock],
                after.write.payload⟩)) ∧
      ∀ rounds : List (GroupLogId × ClockObservation), db.view.mutationFenceState.held = none →
        db.SteadyClocks (db.get .leaseClock) (rounds.map Prod.snd) →
        (db.view.retentionOf partition).logicalFloor -
          (db.view.retentionOf partition).reclaimCursor ≤ rounds.length →
        ∃ last, maintainRounds partition maxRecords maxPayloadBytes db rounds = .ok last ∧
          (∀ id, last.get (.leaseId id) = db.get (.leaseId id)) ∧
          (last.view.retentionOf partition).logicalFloor =
            (db.view.retentionOf partition).logicalFloor ∧
          (last.view.retentionOf partition).reclaimCursor =
            (db.view.retentionOf partition).logicalFloor := by
  have kind : db.identity.kind = .data := by rw [ran.settings.1, data]
  have guarded := ran.guarded data
  obtain ⟨bound, ledger⟩ := (ran.exact data).ledger guarded
  obtain ⟨steps, _, traced⟩ := ran.traced
  have indexed := traced.indexed data
  have fits : (db.reclaimStart partition clock).retention.logicalFloor ≤ u64Max := by
    have expired := @GroupView.Protected.expired db.view clock guarded.records guarded.records.listed
    rw [reclaimStart, ← GroupView.expired_retentionOf]
    exact (expired.floor partition).trans (expired.bounded partition)
  have loops (ranges : List ReplayRange) : ∃ after reclaimed, db.view.ReclaimBounded partition
      ranges maxRecords maxPayloadBytes (db.reclaimStart partition clock) after reclaimed := by
    obtain ⟨after, done⟩ := @ledger_looped db content partition maxRecords maxPayloadBytes
      db.LogHolds bound ledger ranges
      ((db.reclaimStart partition clock).retention.logicalFloor -
        (db.reclaimStart partition clock).retention.reclaimCursor) (db.reclaimStart partition clock)
    obtain ⟨reclaimed, bounded⟩ :=
      GroupView.reclaimLoop_bounded indexed records fits ⟨rfl, rfl⟩ done
    exact ⟨after, reclaimed, bounded⟩
  refine ⟨loops, ?_, ?_⟩
  · obtain ⟨after, reclaimed, bounded⟩ :=
      loops (GroupView.activeRanges (db.view.expireDueLeases clock) partition)
    refine ⟨after, reclaimed, bounded, ?_⟩
    have looped := bounded.terminates _ le_rfl
    unfold reclaimStart at looped
    unfold GroupView.applyMaintainRetention
    dsimp only at looped ⊢
    rw [if_neg (by simp [records, bytes]), if_neg (by simp), accepted]
    dsimp only
    rw [looped]
  · intro rounds unheld clocks enough
    have reclaiming : db.Reclaiming content db.LogHolds bound := ⟨kind, guarded, ledger, unheld⟩
    obtain ⟨last, done, kept, leases, floor, reached⟩ :=
      Reclaiming.rounds records bytes reclaiming clocks enough
    refine ⟨last, done, leases, floor, ?_⟩
    have below := kept.guarded.records.cursor partition
    omega

theorem bounded_reclaim_progresses_sample : ∃ db clock after reclaimed,
    Ran freshData.identity 2 (fun _ => [7]) (fun _ _ => True) drainEntries db ∧
    db.view.advanceLeaseClock sampleClock = .ok clock ∧
    db.view.ReclaimBounded samplePartition
      (GroupView.activeRanges (db.view.expireDueLeases clock) samplePartition) 4 4
      (db.reclaimStart samplePartition clock) after reclaimed := by
  have accepts : freshData.leaves drainEntries (fun db =>
      (db.view.advanceLeaseClock sampleClock).isOk) = true := by decide
  obtain ⟨results, db, submitted, accepts⟩ := leaves_iff.mp accepts
  cases accepted : db.view.advanceLeaseClock sampleClock with
  | error error =>
      rw [accepted] at accepts
      simp [Except.isOk, Except.toBool] at accepts
  | ok clock =>
      have ran : Ran freshData.identity 2 (fun _ => [7]) (fun _ _ => True)
          ([] ++ drainEntries) db :=
        Ran.submitAll .created (create_usedBelow _ _) (by decide) (by decide)
          (fun _ _ _ => trivial) submitted
      rw [List.nil_append] at ran
      obtain ⟨_, ⟨after, reclaimed, bounded, _⟩, _⟩ :=
        bounded_reclaim_progresses rfl ran (by decide : (4 : Nat) ≠ 0)
          (by decide : (4 : Nat) ≠ 0) samplePartition accepted
      exact ⟨db, clock, after, reclaimed, ran, accepted, bounded⟩

end GroupDb

end LightStream
