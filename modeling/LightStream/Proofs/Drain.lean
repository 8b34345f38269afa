import LightStream.Proofs.Custody

/-!
No expired record is forgotten: once every lease is terminal and no fence is held, rounds of
maintenance delete every record below the floor.
-/

namespace LightStream

namespace GroupDb

variable {db next : GroupDb} {content : PayloadId → Record} {partition : PartitionKey}
  {maxRecords maxPayloadBytes : Nat} {observation : ClockObservation}

def Accepted : Option SafeLeaseClock → List ClockObservation → Prop
  | _, [] => True
  | stored, observation :: rest => ∃ clock, (match stored with
      | some clock => clock.advance observation
      | none => SafeLeaseClock.new observation) = .ok clock ∧ Accepted (some clock) rest

def maintenance (db : GroupDb) (partition : PartitionKey) (maxRecords maxPayloadBytes : Nat)
    (logId : GroupLogId) (observation : ClockObservation) : GroupEntry :=
  ⟨logId, .normal (.maintainRetention partition (db.view.retentionOf partition).reclaimCursor
    maxRecords maxPayloadBytes observation)⟩

def maintainRounds (partition : PartitionKey) (maxRecords maxPayloadBytes : Nat) :
    GroupDb → List (GroupLogId × ClockObservation) → Except IoError GroupDb
  | db, [] => .ok db
  | db, (logId, observation) :: rest =>
      match db.applyEntry (db.maintenance partition maxRecords maxPayloadBytes logId observation) with
      | .error error => .error error
      | .ok (_, next) => maintainRounds partition maxRecords maxPayloadBytes next rest

structure Settled (db : GroupDb) : Prop where
  terminal : ∀ (id : ReplayLeaseId) (lease : ReplayLease), db.get (.leaseId id) = some lease →
    lease.lifecycle ≠ .active
  unfenced : db.view.exportFenced = false

theorem Settled.unleased (settled : db.Settled) (partition : PartitionKey) (offset : Nat) :
    ¬db.view.Leased partition offset := by
  rintro ⟨id, lease, stored, active, _⟩
  exact settled.terminal id lease stored active

def Steady (db : GroupDb) (clock : SafeLeaseClock) : Prop :=
  ∀ (id : ReplayLeaseId) (lease : ReplayLease), db.get (.leaseId id) = some lease →
    isDue clock lease = false

theorem Settled.steady (settled : db.Settled) (clock : SafeLeaseClock) : db.Steady clock := by
  intro id lease stored
  simp [isDue, settled.terminal id lease stored]

theorem Steady.expired {clock : SafeLeaseClock} (steady : db.Steady clock)
    (listed : db.view.Listed) (partition : PartitionKey) :
    (db.view.expired clock).retentionOf partition = db.view.retentionOf partition := by
  have none : GroupView.dueLeases clock db.view.leases = [] := by
    refine List.filter_eq_nil_iff.mpr fun lease member => ?_
    obtain ⟨id, stored⟩ := (listed.leases lease).mp member
    simp [steady id lease stored]
  have retentions : (db.view.expireDueLeases clock).retentions = [] := by
    rw [GroupView.expireDueLeases_retentions, none]
    split <;> rfl
  rw [GroupView.expired_retentionOf, GroupView.LeaseExpiryState.retentionFor, retentions]
  rfl

structure Reclaiming (content : PayloadId → Record) (logged : PayloadId → Prop)
    (bound : GroupLogId) (db : GroupDb) : Prop where
  data : db.identity.kind = .data
  guarded : db.view.Guarded
  ledger : GroupView.Ledger content db.payload.get logged db.view bound 0 ⟨[], []⟩
  unheld : db.view.mutationFenceState.held = none

structure Draining (content : PayloadId → Record) (logged : PayloadId → Prop) (bound : GroupLogId)
    (db : GroupDb) : Prop where
  reclaiming : db.Reclaiming content logged bound
  settled : db.Settled

section Round

variable {logged : PayloadId → Prop} {bound : GroupLogId} {clock : SafeLeaseClock}

theorem ledger_looped
    (ledger : GroupView.Ledger content db.payload.get logged db.view bound 0 ⟨[], []⟩)
    {ranges : List ReplayRange} {fuel : Nat} {before : GroupView.ReclaimState} :
    ∃ after, db.view.reclaimLoop partition ranges maxRecords maxPayloadBytes fuel before =
      .ok after := by
  cases looped : db.view.reclaimLoop partition ranges maxRecords maxPayloadBytes fuel before with
  | ok after => exact ⟨after, rfl⟩
  | error error =>
      obtain ⟨offset, record, stored, missing⟩ := GroupView.reclaimLoop_error looped
      have holds : db.view.HoldsPayload record.payloadKey := ⟨partition, offset, record, stored, rfl⟩
      obtain ⟨owners, found, _⟩ := (ledger.account record.payloadKey).held (.inr holds)
      rw [view_owners] at missing
      have found : db.payload.get (.owners record.payloadKey) = some owners := found
      rw [found] at missing
      simp at missing

theorem Reclaiming.handled (reclaiming : db.Reclaiming content logged bound)
    (records : maxRecords ≠ 0) (bytes : maxPayloadBytes ≠ 0)
    (accepted : db.view.advanceLeaseClock observation = .ok clock) :
    ∃ result write, db.view.applyMaintainRetention partition
      (db.view.retentionOf partition).reclaimCursor maxRecords maxPayloadBytes observation =
        .ok (result, write) ∧ write.state ≠ [] := by
  unfold GroupView.applyMaintainRetention
  dsimp only
  rw [if_neg (by simp [records, bytes]), if_neg (by simp), accepted]
  dsimp only
  split
  · rename_i error failed
    obtain ⟨after, looped⟩ := @ledger_looped db content partition maxRecords maxPayloadBytes
      logged bound reclaiming.ledger _ _ _
    rw [looped] at failed
    simp at failed
  · exact ⟨_, _, rfl, by simp⟩

theorem committed_ledger {write : WriteBatch}
    (ledger : GroupView.Ledger content db.payload.get logged db.view bound 0 write)
    (logId : GroupLogId)
    (kept : (db.commit ⟨write.state ++ [.put .applied logId], write.payload⟩).view.Protected) :
    GroupView.Ledger content
      (db.commit ⟨write.state ++ [.put .applied logId], write.payload⟩).payload.get logged
      (db.commit ⟨write.state ++ [.put .applied logId], write.payload⟩).view bound 0 ⟨[], []⟩ := by
  have record := @commit_applied_record db logId write
  refine .start kept (ledger.seated.kept fun partition offset stored found => ?_) fun id => ?_
  · rw [record] at found
    exact found
  · refine ((ledger.account id).frame ?_ ?_).congr Iff.rfl
      (GroupView.holdsPayload_congr record id)
    · exact Kv.Store.get_commit ..
    · exact Kv.Store.get_commit ..

theorem Reclaiming.round (reclaiming : db.Reclaiming content logged bound)
    (records : maxRecords ≠ 0) (bytes : maxPayloadBytes ≠ 0)
    (accepted : db.view.advanceLeaseClock observation = .ok clock) (steady : db.Steady clock)
    (logId : GroupLogId) :
    ∃ result next, db.applyEntry
        (db.maintenance partition maxRecords maxPayloadBytes logId observation) =
          .ok (result, next) ∧
      next.Reclaiming content logged bound ∧ next.get .leaseClock = some clock ∧
      (∀ id, next.get (.leaseId id) = db.get (.leaseId id)) ∧
      (next.view.retentionOf partition).logicalFloor =
        (db.view.retentionOf partition).logicalFloor ∧
      (db.view.retentionOf partition).reclaimCursor ≤
        (next.view.retentionOf partition).reclaimCursor ∧
      ((db.view.retentionOf partition).reclaimCursor <
          (db.view.retentionOf partition).logicalFloor →
        (db.view.retentionOf partition).reclaimCursor <
          (next.view.retentionOf partition).reclaimCursor) := by
  obtain ⟨result, write, handled, writes⟩ := @Reclaiming.handled db content partition maxRecords
    maxPayloadBytes observation logged bound clock reclaiming records bytes accepted
  have listed := reclaiming.guarded.records.listed
  have applied : db.applyEntry
      (db.maintenance partition maxRecords maxPayloadBytes logId observation) = .ok (result,
        db.commit ⟨write.state ++ [.put .applied logId], write.payload⟩) := by
    refine applyEntry_normal ?_
    have included : (GroupCommand.maintainRetention partition
        (db.view.retentionOf partition).reclaimCursor maxRecords maxPayloadBytes
        observation).fenceClass = .includedMutation := rfl
    unfold GroupView.applyCommand
    rw [if_pos included, reclaiming.unheld]
    exact handled
  have guarded := applyEntry_guarded reclaiming.data reclaiming.guarded applied
  have reads {key : StateKey} (other : key.family ≠ .applied) :
      (db.commit ⟨write.state ++ [.put .applied logId], write.payload⟩).view.get key =
        (db.view.after write.state).get key := commit_applied_get other
  have records : (db.view.after write.state).Protected := by
    refine guarded.records.frame fun key inside => (reads ?_).symm
    rintro applied
    rw [applied] at inside
    simp [GroupView.protectedFamilies] at inside
  have ledger := reclaiming.ledger.maintained (account_accounting content) (fun _ => rfl) listed
    records handled
  rcases GroupView.applyMaintainRetention_cases reclaiming.guarded.records listed handled with
    rfl | ⟨stored, before, after, reclaimed, advanced, start, reclaims, finished, clocked, progress, _⟩
  · exact absurd rfl writes
  rw [accepted] at advanced
  cases advanced
  have retention (other : PartitionKey) :
      (db.commit ⟨write.state ++ [.put .applied logId], write.payload⟩).view.retentionOf other =
        if other = partition then after.retention else db.view.retentionOf other := by
    rw [GroupView.retentionOf, reads (by simp [StateKey.family]), ← GroupView.retentionOf,
      finished.retention, steady.expired listed]
  have leases (id : ReplayLeaseId) :
      (db.commit ⟨write.state ++ [.put .applied logId], write.payload⟩).view.get (.leaseId id) =
        db.get (.leaseId id) := by
    rw [reads (by simp [StateKey.family]), finished.frame _ (by simp [StateKey.family]),
      GroupView.expired_lease listed, view_get]
    cases stored : db.get (.leaseId id) with
    | none => rfl
    | some lease => simp [steady id lease stored]
  rw [steady.expired listed] at start
  refine ⟨result, _, applied, ⟨reclaiming.data, guarded, ?_, ?_⟩, ?_, leases, ?_, ?_, ?_⟩
  · exact committed_ledger ledger logId guarded.records
  · rw [GroupView.mutationFenceState, reads (by simp [StateKey.family]),
      finished.frame _ (by simp [StateKey.family]),
      GroupView.expired_get_other (by simp [StateKey.family])]
    exact reclaiming.unheld
  · rw [← view_get, reads (by simp [StateKey.family])]
    exact clocked
  · rw [retention, if_pos rfl, reclaims.floor, start]
  · rw [retention, if_pos rfl, ← start]
    exact reclaims.forward
  · intro below
    rw [retention, if_pos rfl]
    rw [start] at progress
    exact progress below

/-- Observations that the clock accepts one after the other, at none of which a lease is due. -/
def SteadyClocks (db : GroupDb) : Option SafeLeaseClock → List ClockObservation → Prop
  | _, [] => True
  | stored, observation :: rest => ∃ clock, (match stored with
      | some clock => clock.advance observation
      | none => SafeLeaseClock.new observation) = .ok clock ∧ db.Steady clock ∧
        SteadyClocks db (some clock) rest

theorem SteadyClocks.congr {stored : Option SafeLeaseClock} {observations : List ClockObservation}
    (clocks : db.SteadyClocks stored observations)
    (leases : ∀ id, next.get (.leaseId id) = db.get (.leaseId id)) :
    next.SteadyClocks stored observations := by
  induction observations generalizing stored with
  | nil => trivial
  | cons observation rest ih =>
      obtain ⟨clock, accepted, steady, later⟩ := clocks
      refine ⟨clock, accepted, ?_, ih later⟩
      intro id lease found
      rw [leases] at found
      exact steady id lease found

theorem Settled.clocks (settled : db.Settled) {stored : Option SafeLeaseClock}
    {observations : List ClockObservation} (accepted : Accepted stored observations) :
    db.SteadyClocks stored observations := by
  induction observations generalizing stored with
  | nil => trivial
  | cons observation rest ih =>
      obtain ⟨clock, taken, later⟩ := accepted
      exact ⟨clock, taken, settled.steady clock, ih later⟩

theorem Reclaiming.rounds (records : maxRecords ≠ 0) (bytes : maxPayloadBytes ≠ 0) :
    ∀ {rounds : List (GroupLogId × ClockObservation)} {db : GroupDb},
      db.Reclaiming content logged bound →
      db.SteadyClocks (db.get .leaseClock) (rounds.map Prod.snd) →
      (db.view.retentionOf partition).logicalFloor -
        (db.view.retentionOf partition).reclaimCursor ≤ rounds.length →
      ∃ last, maintainRounds partition maxRecords maxPayloadBytes db rounds = .ok last ∧
        last.Reclaiming content logged bound ∧
        (∀ id, last.get (.leaseId id) = db.get (.leaseId id)) ∧
        (last.view.retentionOf partition).logicalFloor =
          (db.view.retentionOf partition).logicalFloor ∧
        (last.view.retentionOf partition).logicalFloor ≤
          (last.view.retentionOf partition).reclaimCursor := by
  intro rounds
  induction rounds with
  | nil =>
      intro db reclaiming _ enough
      simp only [List.length_nil, Nat.le_zero_eq, Nat.sub_eq_zero_iff_le] at enough
      exact ⟨db, rfl, reclaiming, fun _ => rfl, rfl, enough⟩
  | cons head rest ih =>
      obtain ⟨logId, observation⟩ := head
      intro db reclaiming clocks enough
      obtain ⟨clock, accepted, steady, later⟩ := clocks
      obtain ⟨result, next, applied, kept, stored, leases, floor, forward, progress⟩ :=
        @Reclaiming.round db content partition maxRecords maxPayloadBytes observation logged bound
          clock reclaiming records bytes accepted steady logId
      rw [← stored] at later
      have nearer : (next.view.retentionOf partition).logicalFloor -
          (next.view.retentionOf partition).reclaimCursor ≤ rest.length := by
        rw [floor]
        simp only [List.length_cons] at enough
        by_cases below : (db.view.retentionOf partition).reclaimCursor <
            (db.view.retentionOf partition).logicalFloor
        · have moved := progress below
          omega
        · omega
      obtain ⟨last, done, drained, same, sameFloor, reached⟩ :=
        ih kept (later.congr leases) nearer
      refine ⟨last, ?_, drained, fun id => (same id).trans (leases id), sameFloor.trans floor,
        reached⟩
      rw [maintainRounds, applied]
      exact done

theorem Draining.drained (draining : db.Draining content logged bound)
    (reached : (db.view.retentionOf partition).logicalFloor ≤
      (db.view.retentionOf partition).reclaimCursor) {offset : Nat}
    (below : offset < (db.view.retentionOf partition).logicalFloor) :
    db.get (.record partition offset) = none := by
  cases found : db.get (.record partition offset) with
  | none => rfl
  | some record =>
      have present : (db.view.get (.record partition offset)).isSome = true := by
        rw [view_get, found]
        rfl
      rcases draining.reclaiming.guarded.records.remembered partition offset present below with
        ahead | leased | ⟨fenced, _⟩
      · omega
      · exact absurd leased (draining.settled.unleased partition offset)
      · rw [draining.settled.unfenced] at fenced
        simp at fenced

end Round

section Run

variable {identity : GroupIdentity} {window : Nat} {Allowed : GroupDb → GroupEntry → Prop}
  {history : List GroupEntry}

theorem Exact.ledger (held : db.Exact content) (guarded : db.view.Guarded) :
    ∃ bound, GroupView.Ledger content db.payload.get db.LogHolds db.view bound 0 ⟨[], []⟩ := by
  obtain ⟨bound, above⟩ : ∃ bound : GroupLogId, ∀ position, db.get .applied = some position →
      position.index < bound.index := by
    cases applied : db.get .applied with
    | none => exact ⟨⟨0, 0, 0⟩, by simp⟩
    | some position =>
        refine ⟨⟨0, 0, position.index + 1⟩, ?_⟩
        intro other same
        cases same
        exact Nat.lt_succ_self _
  exact ⟨bound, .start guarded.records (held.seated bound above) held.account⟩

theorem Exact.draining (held : db.Exact content) (data : db.identity.kind = .data)
    (guarded : db.view.Guarded) (settled : db.Settled) :
    ∃ bound, db.Draining content db.LogHolds bound := by
  obtain ⟨bound, ledger⟩ := held.ledger guarded
  have unfenced := settled.unfenced
  rw [GroupView.exportFenced] at unfenced
  have unheld : db.view.mutationFenceState.held = none :=
    Option.not_isSome_iff_eq_none.mp (by simp [unfenced])
  exact ⟨bound, ⟨data, guarded, ledger, unheld⟩, settled⟩

/-- No record below the floor is forgotten: the cursor is still to pass it, an active lease holds
it, or a fence defers it to a hint.  In a settled store rounds of maintenance delete them all. -/
structure ForgetsNothing (db : GroupDb) : Prop where
  remembered : ∀ partition offset, (db.get (.record partition offset)).isSome = true →
    offset < (db.view.retentionOf partition).logicalFloor →
    (db.view.retentionOf partition).reclaimCursor ≤ offset ∨
      (∃ (id : ReplayLeaseId) (lease : ReplayLease), db.get (.leaseId id) = some lease ∧
        lease.lifecycle = .active ∧ lease.range.partition = partition ∧
        lease.range.contains offset = true) ∨
      db.view.exportFenced = true ∧
        ∃ hint, db.get (.reclaimHint partition) = some hint ∧ hint ≤ offset
  ordered : ∀ partition,
    (db.view.retentionOf partition).reclaimCursor ≤ (db.view.retentionOf partition).logicalFloor ∧
      (db.view.retentionOf partition).logicalFloor ≤ db.view.nextOffsetOf partition
  drained : db.Settled → ∀ partition maxRecords maxPayloadBytes, maxRecords ≠ 0 →
    maxPayloadBytes ≠ 0 → ∀ rounds : List (GroupLogId × ClockObservation),
    Accepted (db.get .leaseClock) (rounds.map Prod.snd) →
    (db.view.retentionOf partition).logicalFloor -
      (db.view.retentionOf partition).reclaimCursor ≤ rounds.length →
    ∃ last, maintainRounds partition maxRecords maxPayloadBytes db rounds = .ok last ∧
      last.Settled ∧ ∀ offset < (db.view.retentionOf partition).logicalFloor,
        last.get (.record partition offset) = none

/-- No reachable state of a data group forgets a record below the floor. -/
theorem reclaim_forgets_nothing (data : identity.kind = .data)
    (ran : Ran identity window content Allowed history db) : db.ForgetsNothing := by
  have guarded := ran.guarded data
  refine ⟨guarded.records.remembered, ?_, ?_⟩
  · intro partition
    exact ⟨guarded.records.cursor partition, guarded.records.floor partition⟩
  · intro settled partition maxRecords maxPayloadBytes records bytes rounds clocks enough
    have kind : db.identity.kind = .data := by rw [ran.settings.1, data]
    obtain ⟨bound, draining⟩ := (ran.exact data).draining kind guarded settled
    obtain ⟨last, done, kept, leases, floor, reached⟩ :=
      Reclaiming.rounds records bytes draining.reclaiming (settled.clocks clocks) enough
    have still : last.Settled := by
      refine ⟨fun id lease found => settled.terminal id lease ((leases id).symm.trans found), ?_⟩
      rw [GroupView.exportFenced, kept.unheld]
      rfl
    refine ⟨last, done, still, fun offset below => ?_⟩
    rw [← floor] at below
    exact Draining.drained ⟨kept, still⟩ reached below

def drainEntries : List GroupEntry :=
  replayEntries ++
    [⟨⟨1, 1, 7⟩, .normal (.releaseReplayLease
      ⟨sampleRequest 2, samplePartition, .derived (sampleRequest 0)⟩ sampleClock)⟩]

theorem reclaim_forgets_nothing_sample : ∃ db,
    Ran freshData.identity 2 (fun _ => [7]) (fun _ _ => True) drainEntries db ∧
    (db.get (.record samplePartition 0)).isSome = true ∧
    (db.view.retentionOf samplePartition).reclaimCursor = 0 ∧ db.ForgetsNothing := by
  have kept : freshData.leaves drainEntries (fun db =>
      (db.get (.record samplePartition 0)).isSome &&
          decide ((db.view.retentionOf samplePartition).reclaimCursor = 0)) = true := by decide
  obtain ⟨results, db, submitted, kept⟩ := leaves_iff.mp kept
  simp only [Bool.and_eq_true, decide_eq_true_eq] at kept
  have ran : Ran freshData.identity 2 (fun _ => [7]) (fun _ _ => True) ([] ++ drainEntries)
      db :=
    Ran.submitAll .created (create_usedBelow _ _) (by decide) (by decide)
      (fun _ _ _ => trivial) submitted
  rw [List.nil_append] at ran
  exact ⟨db, ran, kept.1, kept.2, reclaim_forgets_nothing rfl ran⟩

end Run

end GroupDb

end LightStream
