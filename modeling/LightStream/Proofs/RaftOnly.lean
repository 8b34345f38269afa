import LightStream.Proofs.Forgotten

/-!
The counter of log-owned bytes.  Maintenance adds the reclaimed payloads that the log still owns;
cutting the log takes nothing away, and an installation brings the counter of another log.
-/

namespace LightStream

namespace GroupDb

def logOwns (db : GroupDb) (id : PayloadId) : Bool :=
  match db.payload.get (.owners id) with
  | some owners => owners.raftLog
  | none => false

def onlyLogOwns (db : GroupDb) (id : PayloadId) : Bool :=
  match db.payload.get (.owners id) with
  | some owners => owners.raftLog && !(unlogged owners).reachable
  | none => false

def loggedBytes (db : GroupDb) (records : List (Nat × StoredRecord)) : Nat :=
  Kv.weigh (fun record => if db.logOwns record.2.payloadKey then record.2.payloadBytes else 0) records

def logOnlyBytes (db : GroupDb) (records : List (Nat × StoredRecord)) : Nat :=
  Kv.weigh (fun record => if db.onlyLogOwns record.2.payloadKey then record.2.payloadBytes else 0)
    records

/-- The counters of some partitions give the reclaimed bytes that only the log keeps. -/
def CountsLogOnly (db : GroupDb) (steps : List Step) : Prop :=
  ∀ partitions : List PartitionKey,
    Kv.weigh (fun partition => (db.view.retentionOf partition).raftOnlyBytes) partitions =
      Kv.weigh (fun partition => db.logOnlyBytes (reclaimedIn steps partition)) partitions

def SparesReclaimed (db : GroupDb) (steps : List Step) (removed : Nat → Prop) : Prop :=
  ∀ index entry, db.raftLog.get index = some entry → removed index → ∀ partition,
    ∀ record ∈ reclaimedIn steps partition, record.2.payloadKey ∈ entry.payloadKeys →
      record.2.payloadBytes = 0

/-- The runs whose log keeps what the counter has counted: no purge and no truncation removes an
entry that holds the bytes of a reclaimed record, and a snapshot is installed where the log owns as
many of its reclaimed bytes as the log of its source. -/
inductive Accounted (identity : GroupIdentity) (window : Nat) (content : PayloadId → Record)
    (Allowed : GroupDb → GroupEntry → Prop) : List Step → GroupDb → Prop
  | created : Accounted identity window content Allowed [] (create identity window)
  | appended {steps : List Step} {db : GroupDb} {entries : List GroupEntry}
      (accounted : Accounted identity window content Allowed steps db)
      (appendable : Appendable content db entries) :
      Accounted identity window content Allowed steps (db.append entries)
  | truncated {steps : List Step} {db next : GroupDb} {lastLogId : Option GroupLogId}
      (accounted : Accounted identity window content Allowed steps db)
      (spares : db.SparesReclaimed steps fun index =>
        ∀ last, lastLogId = some last → saturatingAdd last.index 1 ≤ index)
      (done : db.truncateAfter lastLogId = .ok next) :
      Accounted identity window content Allowed steps next
  | purged {steps : List Step} {db next : GroupDb} {logId : GroupLogId}
      (accounted : Accounted identity window content Allowed steps db)
      (spares : db.SparesReclaimed steps fun index => index < saturatingAdd logId.index 1)
      (done : db.purge logId = .ok next) : Accounted identity window content Allowed steps next
  | applied {steps : List Step} {db next : GroupDb} {entry : GroupEntry} {result : ApplyResult}
      (accounted : Accounted identity window content Allowed steps db)
      (due : Due content db entry) (allowed : Allowed db entry)
      (done : db.applyEntry entry = .ok (result, next)) :
      Accounted identity window content Allowed (steps ++ [⟨db, entry, result, next⟩]) next
  | built {steps : List Step} {db next : GroupDb} {artifact : SnapshotArtifact}
      (accounted : Accounted identity window content Allowed steps db)
      (done : db.buildSnapshot = .ok (artifact, next)) :
      Accounted identity window content Allowed steps next
  | installed {steps stored : List Step} {db next source built : GroupDb}
      {artifact : SnapshotArtifact} {encodedBytes : SnapshotRecord → Nat}
      (accounted : Accounted identity window content Allowed steps db)
      (sourceAccounted : Accounted identity window content Allowed stored source)
      (alike : ∀ partition, db.loggedBytes (reclaimedIn stored partition) =
        source.loggedBytes (reclaimedIn stored partition))
      (done : source.buildSnapshot = .ok (artifact, built))
      (install : db.installSnapshot encodedBytes artifact.metadata artifact = .ok next) :
      Accounted identity window content Allowed stored next

variable {identity : GroupIdentity} {window : Nat} {content : PayloadId → Record}
  {Allowed : GroupDb → GroupEntry → Prop} {steps : List Step} {db next : GroupDb}

theorem Accounted.traced (accounted : Accounted identity window content Allowed steps db) :
    Traced identity window content Allowed steps db := by
  induction accounted with
  | created => exact .created
  | appended accounted appendable ih => exact ih.appended appendable
  | truncated accounted spares done ih => exact ih.truncated done
  | purged accounted spares done ih => exact ih.purged done
  | applied accounted due allowed done ih => exact ih.applied due allowed done
  | built accounted done ih => exact ih.built done
  | installed accounted sourceAccounted alike done install ih sourceIh =>
      exact ih.installed sourceIh done install

section Owners

variable {records : List (Nat × StoredRecord)}

theorem Exact.logOwns_iff (exact : db.Exact content) (id : PayloadId) :
    db.logOwns id = true ↔ db.LogHolds id := by
  unfold logOwns
  split
  · rename_i owners stored
    obtain ⟨log, state, isLogged, _, _, rfl, _⟩ := (exact.account id).stored stored
    exact isLogged
  · rename_i absent
    constructor
    · simp
    · intro held
      obtain ⟨owners, stored, _⟩ := (exact.account id).held (.inl held)
      rw [absent] at stored
      simp at stored

theorem Exact.onlyLogOwns_eq (exact : db.Exact content) {id : PayloadId}
    (gone : ¬db.view.HoldsPayload id) : db.onlyLogOwns id = db.logOwns id := by
  unfold onlyLogOwns logOwns
  split
  · rename_i owners stored
    obtain ⟨log, state, _, isApplied, _, rfl, _⟩ := (exact.account id).stored stored
    have unapplied : state = false := by
      rw [← Bool.not_eq_true, isApplied]
      exact gone
    rw [heldBy_unlogged, heldBy_reachable, unapplied]
    simp
  · rfl

theorem loggedBytes_congr {other : GroupDb} (exact : db.Exact content)
    (otherExact : other.Exact content)
    (same : ∀ record ∈ records, record.2.payloadBytes ≠ 0 →
      (other.LogHolds record.2.payloadKey ↔ db.LogHolds record.2.payloadKey)) :
    other.loggedBytes records = db.loggedBytes records := by
  refine Kv.weigh_congr fun record member => ?_
  by_cases empty : record.2.payloadBytes = 0
  · simp [empty]
  · have owns : other.logOwns record.2.payloadKey = db.logOwns record.2.payloadKey := by
      rw [Bool.eq_iff_iff, exact.logOwns_iff, otherExact.logOwns_iff]
      exact same record member empty
    rw [owns]

theorem loggedBytes_append (records more : List (Nat × StoredRecord)) :
    db.loggedBytes (records ++ more) = db.loggedBytes records + db.loggedBytes more :=
  Kv.weigh_append

theorem loggedBytes_le (db : GroupDb) (records : List (Nat × StoredRecord)) :
    db.loggedBytes records ≤ Kv.weigh (fun record => record.2.payloadBytes) records := by
  refine Kv.weigh_mono fun record _ => ?_
  split
  · exact le_rfl
  · exact Nat.zero_le _

end Owners

theorem append_loggedBytes {entries : List GroupEntry} (exact : db.Exact content)
    (forgotten : GroupView.Forgotten steps db.view) (appendable : Appendable content db entries)
    (partition : PartitionKey) :
    (db.append entries).loggedBytes (reclaimedIn steps partition) =
      db.loggedBytes (reclaimedIn steps partition) := by
  have appended := exact.appended (account_accounting content) appendable
  refine loggedBytes_congr exact appended fun record member _ => ?_
  rw [append_logHolds appendable]
  refine ⟨?_, .inr⟩
  rintro (brought | held)
  · obtain ⟨⟨id, bytes⟩, inside, same⟩ := List.mem_map.mp brought
    obtain ⟨entry, entryMember, payload⟩ := List.mem_flatMap.mp inside
    have own := thinEntry_logId payload
    have past := forgotten.past partition record member entry.logId
      (appendable.unapplied entry entryMember)
    dsimp only at own same
    rw [← same, own] at past
    omega
  · exact held

theorem mem_logIndexes {start index : Nat} {stop : Option Nat}
    (member : index ∈ db.logIndexes start stop) :
    start ≤ index ∧ ∀ bound, stop = some bound → index < bound := by
  obtain ⟨key, _, found⟩ := Kv.Store.mem_scan.mp member
  split at found
  · rename_i inside
    cases found
    refine ⟨inside.1, fun bound same => ?_⟩
    have below := inside.2
    rw [same] at below
    simpa using below
  · simp at found

theorem cut_loggedBytes {start : Nat} {stop : Option Nat} {purged : Option GroupLogId}
    {removed : Nat → Prop} (exact : db.Exact content) (spares : db.SparesReclaimed steps removed)
    (inside : ∀ index ∈ db.logIndexes start stop, removed index)
    (done : db.removeLogRange start stop purged = .ok next) (partition : PartitionKey) :
    next.loggedBytes (reclaimedIn steps partition) = db.loggedBytes (reclaimedIn steps partition) := by
  have left := exact.cut (account_accounting content) done
  refine loggedBytes_congr exact left fun record member weighs => ?_
  constructor
  · rintro ⟨index, entry, logged, holds⟩
    rw [removeLogRange_raftLog done] at logged
    split at logged
    · simp at logged
    · exact ⟨index, entry, logged, holds⟩
  · rintro ⟨index, entry, logged, holds⟩
    refine ⟨index, entry, ?_, holds⟩
    rw [removeLogRange_raftLog done, if_neg]
    · exact logged
    · intro cut
      exact weighs (spares index entry logged (inside index cut) partition record member holds)

theorem reclaimed_perm (entry : GroupEntry) (result : ApplyResult) {view : GroupView}
    {partition : PartitionKey} {ranges : List ReplayRange} {clock : SafeLeaseClock}
    {before after : GroupView.ReclaimState} {reclaimed : List Reclaimed}
    (kept : db.view.Protected) (reclaims : db.view.Reclaims partition ranges before after reclaimed)
    (finished : (db.view.expired clock).ReclaimedTo view partition after.retention reclaimed)
    (reads : ∀ offset, next.get (.record partition offset) = view.get (.record partition offset)) :
    (Step.reclaimed ⟨db, entry, result, next⟩ partition).Perm
      (reclaimed.map fun record => (record.offset, record.record)) := by
  refine (List.perm_ext_iff_of_nodup (reclaimed_distinct _ partition).of_map ?_).mpr ?_
  · refine List.Nodup.of_map Prod.fst ?_
    rw [List.map_map]
    exact reclaims.distinct
  rintro ⟨offset, record⟩
  rw [mem_reclaimed, List.mem_map]
  dsimp only
  rw [reads, finished.record, GroupView.expired_record]
  constructor
  · rintro ⟨_, present, lost⟩
    have present : db.view.get (.record partition offset) = some record := present
    split at lost
    · rename_i deleted
      obtain ⟨_, gone, member, rfl⟩ := deleted
      have stored := reclaims.stored gone member
      rw [present] at stored
      exact ⟨gone, member, by rw [Option.some.inj stored]⟩
    · rw [present] at lost
      simp at lost
  · rintro ⟨gone, member, same⟩
    obtain ⟨rfl, rfl⟩ := Prod.mk.inj same
    have stored := reclaims.stored gone member
    refine ⟨kept.tail partition gone.offset (by rw [stored]; rfl), stored, ?_⟩
    rw [if_pos ⟨rfl, gone, member, rfl⟩]

theorem reclaims_logged {partition : PartitionKey} {ranges : List ReplayRange}
    {before after : GroupView.ReclaimState} {reclaimed : List Reclaimed} (exact : db.Exact content)
    (reclaims : db.view.Reclaims partition ranges before after reclaimed) :
    Kv.weigh Reclaimed.logged reclaimed =
      db.loggedBytes (reclaimed.map fun record => (record.offset, record.record)) := by
  unfold loggedBytes Kv.weigh
  rw [List.map_map]
  refine congrArg List.sum (List.map_congr_left fun gone member => ?_)
  obtain ⟨owners, found, remain⟩ := reclaims.owned gone member
  have found : db.payload.get (.owners gone.record.payloadKey) = some owners := found
  obtain ⟨log, state, _, _, _, rfl, _⟩ := (exact.account gone.record.payloadKey).stored found
  have released : gone.owners = heldBy db.activeBank log false :=
    remain.trans (heldBy_setAppliedIn false)
  rw [Reclaimed.logged, released, heldBy_reachable]
  simp only [Function.comp, logOwns, found, heldBy, Bool.or_false, and_self]

section Runs

def Counted (db : GroupDb) (steps : List Step) : Prop :=
  ∀ partition, (db.view.retentionOf partition).raftOnlyBytes =
    db.loggedBytes (reclaimedIn steps partition)

theorem Counted.cut {start : Nat} {stop : Option Nat} {purged : Option GroupLogId}
    {removed : Nat → Prop} (counted : db.Counted steps) (exact : db.Exact content)
    (spares : db.SparesReclaimed steps removed)
    (inside : ∀ index ∈ db.logIndexes start stop, removed index)
    (done : db.removeLogRange start stop purged = .ok next) : next.Counted steps := by
  intro partition
  obtain ⟨_, _, banks, bank⟩ := removeLogRange_frame done
  have reads : next.view.get = db.view.get := by
    funext key
    rw [view_get, view_get, get, get, GroupDb.state, GroupDb.state, banks, bank]
  rw [cut_loggedBytes exact spares inside done, GroupView.retentionOf, reads]
  exact counted partition

theorem Counted.applied {entry : GroupEntry} {result : ApplyResult} (counted : db.Counted steps)
    (traced : Traced identity window content Allowed steps db) (data : identity.kind = .data)
    (due : Due content db entry) (allowed : Allowed db entry)
    (done : db.applyEntry entry = .ok (result, next)) :
    next.Counted (steps ++ [⟨db, entry, result, next⟩]) := by
  intro partition
  have nextTraced := traced.applied due allowed done
  have guarded := traced.ran.guarded data
  have exact := traced.ran.exact data
  have logs (records : List (Nat × StoredRecord)) :
      next.loggedBytes records = db.loggedBytes records := by
    refine loggedBytes_congr exact (nextTraced.ran.exact data) fun _ _ _ => ?_
    rw [LogHolds, LogHolds, (applyEntry_frame done).2.2.1]
  have fits : db.loggedBytes (reclaimedIn (steps ++ [⟨db, entry, result, next⟩]) partition) ≤
      u64Max :=
    (loggedBytes_le db _).trans ((nextTraced.forgotten data).bytes_le (nextTraced.indexed data) _)
  rw [reclaimedIn_append, reclaimedIn_singleton, loggedBytes_append] at fits
  rw [logs, reclaimedIn_append, reclaimedIn_singleton, loggedBytes_append]
  have still (keeps : GroupView.Keeps db.view next.view) :
      (next.view.retentionOf partition).raftOnlyBytes =
        db.loggedBytes (reclaimedIn steps partition) +
          db.loggedBytes (Step.reclaimed ⟨db, entry, result, next⟩ partition) := by
    have none : Step.reclaimed ⟨db, entry, result, next⟩ partition = [] := by
      refine List.eq_nil_iff_forall_not_mem.mpr fun record member => ?_
      obtain ⟨_, present, lost⟩ := mem_reclaimed.mp member
      have kept := keeps.record partition record.1 record.2 present
      have lost : next.view.get (.record partition record.1) = none := lost
      rw [kept] at lost
      simp at lost
    rw [keeps.raftOnly, counted partition, none]
    rfl
  have apart {key : StateKey} (inside : key.family ∈ [StateFamily.record, .retention]) :
      key.family ∉ [StateFamily.applied, .membership] := by
    simp only [List.mem_cons, List.not_mem_nil, or_false] at inside
    rcases inside with family | family <;> rw [family] <;> decide
  have unapplied {key : StateKey} (inside : key.family ∈ [StateFamily.record, .retention]) :
      key.family ∉ [StateFamily.applied] := fun outside =>
    apart inside (List.mem_cons.mpr (.inl (List.mem_singleton.mp outside)))
  cases applyEntry_case done with
  | quiet silent noop same =>
      exact still ((GroupView.Keeps.refl _).congr fun key inside => same key (apart inside))
  | fenced command held normal included isHeld answer replayed answered same =>
      exact still ((GroupView.Keeps.refl _).congr fun key inside => same key (unapplied inside))
  | dispatched command write normal free dispatched reads =>
      by_cases other : ∀ home expectedCursor maxRecords maxPayloadBytes clock, command ≠
          .maintainRetention home expectedCursor maxRecords maxPayloadBytes clock
      · exact still ((GroupView.dispatch_keeps guarded.records guarded.records.listed other
          dispatched).congr fun key inside => reads key (unapplied inside))
      simp only [not_forall, not_not] at other
      obtain ⟨home, expectedCursor, maxRecords, maxPayloadBytes, clock, rfl⟩ := other
      rcases GroupView.applyMaintainRetention_cases guarded.records guarded.records.listed dispatched
        with rfl | ⟨clock, before, after, reclaimed, _, start, reclaims, finished, _, _, _⟩
      · exact still ((GroupView.Keeps.refl _).congr fun key inside => reads key (unapplied inside))
      have record (offset : Nat) : next.get (.record partition offset) =
          (db.view.after write.state).get (.record partition offset) :=
        reads _ (unapplied (by simp [StateKey.family]))
      have retention : next.view.retentionOf partition =
          (db.view.after write.state).retentionOf partition := by
        rw [GroupView.retentionOf, view_get, reads _ (unapplied (by simp [StateKey.family])),
          ← GroupView.retentionOf]
      have lowered : ((db.view.expired clock).retentionOf partition).raftOnlyBytes =
          (db.view.retentionOf partition).raftOnlyBytes := GroupView.expired_keeps.raftOnly partition
      rw [retention, finished.retention]
      by_cases own : partition = home
      · subst own
        rw [if_pos rfl]
        have perm := reclaimed_perm entry result guarded.records reclaims finished record
        have logged := reclaims_logged exact reclaims
        rw [show db.loggedBytes (Step.reclaimed ⟨db, entry, result, next⟩ partition) =
          Kv.weigh Reclaimed.logged reclaimed from (Kv.weigh_perm perm).trans logged.symm] at fits ⊢
        have had : before.retention.raftOnlyBytes = db.loggedBytes (reclaimedIn steps partition) := by
          rw [start, lowered]
          exact counted partition
        rw [reclaims.counted (by omega), had]
        omega
      · rw [if_neg own, lowered, counted partition]
        have none : Step.reclaimed ⟨db, entry, result, next⟩ partition = [] := by
          refine List.eq_nil_iff_forall_not_mem.mpr fun gone member => ?_
          obtain ⟨_, present, lost⟩ := mem_reclaimed.mp member
          have lost : next.get (.record partition gone.1) = none := lost
          have present : db.view.get (.record partition gone.1) = some gone.2 := present
          rw [record, finished.record, if_neg fun deleted => own deleted.1, GroupView.expired_record,
            present] at lost
          simp at lost
        rw [none]
        rfl

theorem Accounted.counted (data : identity.kind = .data)
    (accounted : Accounted identity window content Allowed steps db) : db.Counted steps := by
  induction accounted with
  | created => exact fun partition => rfl
  | appended accounted appendable ih =>
      intro partition
      have traced := accounted.traced
      rw [append_loggedBytes (traced.ran.exact data) (traced.forgotten data) appendable]
      exact ih partition
  | truncated accounted spares done ih =>
      refine ih.cut (accounted.traced.ran.exact data) spares (fun index member => ?_) done
      intro last same
      subst same
      exact (mem_logIndexes member).1
  | purged accounted spares done ih =>
      refine ih.cut (accounted.traced.ran.exact data) spares (fun index member => ?_) done
      exact (mem_logIndexes member).2 _ rfl
  | applied accounted due allowed done ih => exact ih.applied accounted.traced data due allowed done
  | built accounted done ih =>
      obtain ⟨_, _, rfl⟩ := buildSnapshot_ok done
      exact ih
  | installed accounted sourceAccounted alike done install ih sourceIh =>
      intro partition
      have exact := accounted.traced.ran.exact data
      have sourceExact := sourceAccounted.traced.ran.exact data
      have retention := installSnapshot_get done install (.retention partition)
      rw [GroupView.retentionOf, view_get, retention, ← view_get, ← GroupView.retentionOf,
        sourceIh partition, ← alike partition]
      refine (loggedBytes_congr exact (exact.installed sourceExact done install) fun _ _ _ => ?_).symm
      rw [LogHolds, LogHolds, (installSnapshot_frame install).2.2.1]

/-- In a run whose log keeps what was counted, the counters give the reclaimed bytes that are there
for the log alone. -/
theorem raft_only_bytes_counted (data : identity.kind = .data)
    (accounted : Accounted identity window content Allowed steps db) : db.CountsLogOnly steps := by
  intro partitions
  have exact := accounted.traced.ran.exact data
  have forgotten := accounted.traced.forgotten data
  refine Kv.weigh_congr fun partition _ => ?_
  rw [accounted.counted data partition]
  refine Kv.weigh_congr fun record member => ?_
  rw [exact.onlyLogOwns_eq (forgotten.gone partition record member)]

end Runs

/-- A record is reclaimed while the log holds its payload, and the log keeps it. -/
theorem raft_only_bytes_counted_sample : ∃ steps db, steps.map Step.entry = replayEntries ∧
    Accounted freshData.identity 2 (fun _ => [7]) (fun _ _ => True) steps db ∧
    (db.view.retentionOf samplePartition).raftOnlyBytes = 1 ∧ db.CountsLogOnly steps := by
  have counted : freshData.leaves replayEntries (fun db =>
      decide ((db.view.retentionOf samplePartition).raftOnlyBytes = 1)) = true := by decide
  obtain ⟨results, db, submitted, counted⟩ := leaves_iff.mp counted
  simp only [decide_eq_true_eq] at counted
  obtain ⟨steps, same, accounted⟩ := submitAll_rule
    (fun history db => ∃ steps : List Step, steps.map Step.entry = history ∧
      Accounted freshData.identity 2 (fun _ => [7]) (fun _ _ => True) steps db)
    (fun reached appendable => by
      obtain ⟨steps, same, accounted⟩ := reached
      exact ⟨steps, same, accounted.appended appendable⟩)
    (fun reached due allowed done => by
      obtain ⟨steps, same, accounted⟩ := reached
      exact ⟨_, by rw [List.map_append, same]; rfl, accounted.applied due allowed done⟩)
    ⟨[], rfl, .created⟩ (create_usedBelow _ _) (by decide) (by decide) (fun _ _ _ => trivial)
    submitted
  exact ⟨steps, db, same, accounted, counted, raft_only_bytes_counted rfl accounted⟩

/-- The log is purged after it held the payload of a reclaimed record: the counter stays. -/
theorem purge_keeps_raft_only_bytes : ∃ steps db,
    Traced freshData.identity 2 (fun _ => [7]) (fun _ _ => True) steps db ∧
    ¬db.CountsLogOnly steps := by
  have purged : freshData.leaves replayEntries (fun db =>
      yields (db.purge ⟨1, 1, 6⟩) fun next =>
        decide ((next.view.retentionOf samplePartition).raftOnlyBytes = 1) &&
          decide (next.raftLog.scan some = [])) = true := by decide
  obtain ⟨results, db, submitted, purged⟩ := leaves_iff.mp purged
  obtain ⟨next, done, purged⟩ := yields_iff.mp purged
  simp only [Bool.and_eq_true, decide_eq_true_eq] at purged
  obtain ⟨counter, empty⟩ := purged
  have ran : Ran freshData.identity 2 (fun _ => [7]) (fun _ _ => True) replayEntries db :=
    Ran.submitAll .created (create_usedBelow _ _) (by decide) (by decide)
      (fun _ _ _ => trivial) submitted
  obtain ⟨steps, _, traced⟩ := (ran.purged done).traced
  refine ⟨steps, next, traced, fun counts => ?_⟩
  have exact := traced.ran.exact rfl
  have forgotten := traced.forgotten rfl
  have unlogged (id : PayloadId) : ¬next.LogHolds id := by
    rintro ⟨index, entry, logged, _⟩
    have member : index ∈ next.raftLog.scan some :=
      Kv.Store.mem_scan.mpr ⟨index, by rw [logged]; rfl, rfl⟩
    rw [empty] at member
    simp at member
  have zero : next.logOnlyBytes (reclaimedIn steps samplePartition) =
      Kv.weigh (fun _ => 0) (reclaimedIn steps samplePartition) := by
    refine Kv.weigh_congr fun record member => ?_
    rw [exact.onlyLogOwns_eq (forgotten.gone samplePartition record member), if_neg]
    rw [exact.logOwns_iff]
    exact unlogged _
  have same := counts [samplePartition]
  rw [Kv.weigh_cons, Kv.weigh_cons, Kv.weigh_nil, Kv.weigh_nil, counter, zero] at same
  simp [Kv.weigh] at same

end GroupDb

end LightStream
