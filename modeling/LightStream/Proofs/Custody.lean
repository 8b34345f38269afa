import LightStream.Proofs.Payloads
import LightStream.Proofs.Replay

/-!
No payload is lost and none is leaked: over every interleaving of log cuts, applied entries,
snapshots and installations the payload column family is the image of the log and the records.
-/

namespace LightStream

namespace GroupDb

variable {db next : GroupDb} {content : PayloadId → Record} {accounted : PayloadAccount}

def LogHolds (db : GroupDb) (id : PayloadId) : Prop :=
  ∃ index entry, db.raftLog.get index = some entry ∧ id ∈ entry.payloadKeys

/-- The log's entries lie at their own index and name their payloads, every payload is accounted
for, and the records are seated before every entry that can still be applied. -/
structure Custody (accounted : PayloadAccount) (db : GroupDb) : Prop where
  named : ∀ index entry, db.raftLog.get index = some entry →
    entry.logId.index = index ∧ ∀ id ∈ entry.payloadKeys, id.logId = entry.logId
  account : ∀ id, accounted db.activeBank db.payload.get id (db.LogHolds id)
    (db.view.HoldsPayload id)
  seated : ∀ logId : GroupLogId, (∀ position, db.get .applied = some position →
    position.index < logId.index) → db.view.Seated logId 0

abbrev Exact (content : PayloadId → Record) (db : GroupDb) : Prop := Custody (Account content) db

theorem thinEntry_ownLogId (entry : GroupEntry) : (thinEntry entry).1.logId = entry.logId := by
  unfold thinEntry
  split <;> rfl

theorem custody_created (lawful : Accounting content accounted) (identity : GroupIdentity)
    (window : Nat) : Custody accounted (create identity window) where
  named := fun _ _ impossible => by cases impossible
  account := fun _ => PayloadAccount.congr (lawful.absent rfl rfl) (by simp [LogHolds, create])
    (by simp [GroupView.HoldsPayload, create, get, state])
  seated := fun _ _ => ⟨fun _ _ _ impossible => (by cases impossible),
    fun _ _ _ _ _ _ impossible => by cases impossible⟩

section Append

variable {entries : List GroupEntry}

theorem append_raftLog (appendable : Appendable content db entries) (index : Nat)
    (thin : ThinEntry) :
    (db.append entries).raftLog.get index = some thin ↔
      (∃ entry ∈ entries, entry.logId.index = index ∧ (thinEntry entry).1 = thin) ∨
        db.raftLog.get index = some thin := by
  have read : (db.append entries).raftLog.get index =
      (Kv.Batch.effect ((entries.map thinEntry).map fun entry =>
        (.put entry.1.logId.index entry.1 : Kv.Op Nat fun _ => ThinEntry)) index).getD
          (db.raftLog.get index) := Kv.Store.get_commit ..
  rw [read]
  by_cases written : ∃ entry ∈ entries, entry.logId.index = index
  · obtain ⟨entry, member, rfl⟩ := written
    have effect : Kv.Batch.effect ((entries.map thinEntry).map fun entry =>
        (.put entry.1.logId.index entry.1 : Kv.Op Nat fun _ => ThinEntry)) entry.logId.index =
          some (some (thinEntry entry).1) := by
      refine Kv.Batch.effect_of_agreeing ?_ ?_
      · refine ⟨_, List.mem_map.mpr ⟨_, List.mem_map.mpr ⟨entry, member, rfl⟩, rfl⟩, ?_⟩
        exact congrArg GroupLogId.index (thinEntry_ownLogId entry)
      · intro op inside same
        obtain ⟨_, thinInside, rfl⟩ := List.mem_map.mp inside
        obtain ⟨other, otherMember, rfl⟩ := List.mem_map.mp thinInside
        simp only [Kv.Op.key_put, thinEntry_ownLogId] at same
        have unique : other = entry :=
          List.inj_on_of_nodup_map appendable.distinct otherMember member same
        subst unique
        rw [thinEntry_ownLogId]
        exact Kv.Op.effect_put_self _ _
    rw [effect, Option.getD_some, appendable.free entry member]
    simp only [Option.some.injEq, reduceCtorEq, or_false]
    constructor
    · rintro rfl
      exact ⟨entry, member, rfl, rfl⟩
    · rintro ⟨other, otherMember, same, rfl⟩
      rw [List.inj_on_of_nodup_map appendable.distinct otherMember member same]
  · have silent : Kv.Batch.effect ((entries.map thinEntry).map fun entry =>
        (.put entry.1.logId.index entry.1 : Kv.Op Nat fun _ => ThinEntry)) index = none := by
      rw [Kv.Batch.effect_eq_none_iff]
      intro op inside same
      obtain ⟨_, thinInside, rfl⟩ := List.mem_map.mp inside
      obtain ⟨other, otherMember, rfl⟩ := List.mem_map.mp thinInside
      simp only [Kv.Op.key_put, thinEntry_ownLogId] at same
      exact written ⟨other, otherMember, same⟩
    rw [silent, Option.getD_none]
    constructor
    · exact .inr
    · rintro (⟨entry, member, same, _⟩ | old)
      · exact absurd ⟨entry, member, same⟩ written
      · exact old

def broughtBy (entries : List GroupEntry) : List (PayloadId × Record) :=
  entries.flatMap fun entry => (thinEntry entry).2

theorem append_logHolds (appendable : Appendable content db entries) (id : PayloadId) :
    (db.append entries).LogHolds id ↔ id ∈ (broughtBy entries).map Prod.fst ∨ db.LogHolds id := by
  simp only [LogHolds, append_raftLog appendable, broughtBy, List.map_flatMap, List.mem_flatMap]
  constructor
  · rintro ⟨index, thin, ⟨entry, member, _, rfl⟩ | old, held⟩
    · rw [thinEntry_payloadKeys] at held
      exact .inl ⟨entry, member, held⟩
    · exact .inr ⟨index, thin, old, held⟩
  · rintro (⟨entry, member, held⟩ | ⟨index, thin, old, held⟩)
    · rw [← thinEntry_payloadKeys] at held
      exact ⟨_, _, .inl ⟨entry, member, rfl, rfl⟩, held⟩
    · exact ⟨index, thin, .inr old, held⟩

theorem Custody.fresh (held : Custody accounted db) (appendable : Appendable content db entries)
    {id : PayloadId} (brought : id ∈ (broughtBy entries).map Prod.fst) :
    ¬db.LogHolds id ∧ ¬db.view.HoldsPayload id := by
  obtain ⟨⟨_, bytes⟩, inside, rfl⟩ := List.mem_map.mp brought
  obtain ⟨entry, member, payload⟩ := List.mem_flatMap.mp inside
  have own := thinEntry_logId payload
  constructor
  · rintro ⟨index, thin, logged, holds⟩
    obtain ⟨place, names⟩ := held.named index thin logged
    have free := appendable.free entry member
    rw [← own, names _ holds, place, logged] at free
    simp at free
  · exact (held.seated entry.logId (appendable.unapplied entry member)).free own (Nat.zero_le _)

theorem Custody.appended (lawful : Accounting content accounted) (held : Custody accounted db)
    (appendable : Appendable content db entries) : Custody accounted (db.append entries) where
  named := by
    intro index thin logged
    rcases (append_raftLog appendable index thin).mp logged with ⟨entry, member, rfl, rfl⟩ | old
    · rw [thinEntry_ownLogId, thinEntry_payloadKeys]
      refine ⟨rfl, ?_⟩
      intro id payload
      obtain ⟨⟨_, bytes⟩, inside, rfl⟩ := List.mem_map.mp payload
      exact thinEntry_logId inside
    · exact held.named index thin old
  account := by
    intro id
    have logged := append_logHolds appendable id
    have bodies : ∀ payload ∈ broughtBy entries, payload.2 = content payload.1 := by
      intro payload inside
      obtain ⟨entry, member, own⟩ := List.mem_flatMap.mp inside
      exact (appendable.bytes entry member payload own).symm
    have reads (key : PayloadKey) : (db.append entries).payload.get key =
        (Kv.Batch.effect (appendOps (broughtBy entries)) key).getD (db.payload.get key) := by
      rw [append_payload, Kv.Store.get_commit]
      rfl
    show accounted db.activeBank (db.append entries).payload.get id
      ((db.append entries).LogHolds id) (db.view.HoldsPayload id)
    by_cases brought : id ∈ (broughtBy entries).map Prod.fst
    · obtain ⟨unlogged, unapplied⟩ := held.fresh appendable brought
      have account : accounted db.activeBank (db.append entries).payload.get id True False := by
        refine lawful.logged ?_ ?_
        · rw [reads, effect_appendOps_owners, if_pos brought]
          rfl
        · obtain ⟨⟨_, bytes⟩, inside, rfl⟩ := List.mem_map.mp brought
          have body := bodies _ inside
          dsimp only at body
          subst body
          rw [reads, effect_appendOps_bytes inside fun other member => bodies _ member]
          rfl
      exact PayloadAccount.congr account (by simp [logged, brought]) (iff_false_intro unapplied)
    · have account : accounted db.activeBank (db.append entries).payload.get id
          (db.LogHolds id) (db.view.HoldsPayload id) := by
        refine lawful.frame (held.account id) ?_ ?_
        · rw [reads, effect_appendOps_owners, if_neg brought]
          rfl
        · rw [reads, effect_appendOps_bytes_of_absent brought]
          rfl
      exact PayloadAccount.congr account (by simp [logged, brought]) Iff.rfl
  seated := fun logId above => (held.seated logId above).kept fun _ _ _ found => found

end Append

section Cut

variable {start : Nat} {stop : Option Nat} {purged : Option GroupLogId}

theorem removeLogRange_raftLog (done : db.removeLogRange start stop purged = .ok next)
    (index : Nat) : next.raftLog.get index =
      if index ∈ db.logIndexes start stop then none else db.raftLog.get index := by
  unfold removeLogRange at done
  dsimp only at done
  split at done
  · simp at done
  cases done
  show (db.raftLog.commit _).get index = _
  rw [Kv.Store.get_commit]
  split
  · rename_i removed
    have effect : Kv.Batch.effect ((db.logIndexes start stop).map fun index =>
        (.delete index : Kv.Op Nat fun _ => ThinEntry)) index = some none := by
      refine Kv.Batch.effect_of_agreeing ⟨_, List.mem_map.mpr ⟨index, removed, rfl⟩, rfl⟩ ?_
      intro op member same
      obtain ⟨other, _, rfl⟩ := List.mem_map.mp member
      simp only [Kv.Op.key_delete] at same
      subst same
      exact Kv.Op.effect_delete_self _
    rw [effect, Option.getD_some]
  · rename_i spared
    have silent : Kv.Batch.effect ((db.logIndexes start stop).map fun index =>
        (.delete index : Kv.Op Nat fun _ => ThinEntry)) index = none := by
      rw [Kv.Batch.effect_eq_none_iff]
      intro op member same
      obtain ⟨other, inside, rfl⟩ := List.mem_map.mp member
      simp only [Kv.Op.key_delete] at same
      subst same
      exact spared inside
    rw [silent, Option.getD_none]

theorem Custody.cut (lawful : Accounting content accounted) (held : Custody accounted db)
    (done : db.removeLogRange start stop purged = .ok next) : Custody accounted next := by
  obtain ⟨_, _, banks, bank⟩ := removeLogRange_frame done
  have reads : next.get = db.get := by
    funext key
    rw [get, get, GroupDb.state, GroupDb.state, banks, bank]
  have remaining {index : Nat} {entry : ThinEntry}
      (logged : next.raftLog.get index = some entry) :
      index ∉ db.logIndexes start stop ∧ db.raftLog.get index = some entry := by
    rw [removeLogRange_raftLog done] at logged
    split at logged
    · simp at logged
    · rename_i spared
      exact ⟨spared, logged⟩
  have holds (id : PayloadId) : next.view.HoldsPayload id ↔ db.view.HoldsPayload id :=
    GroupView.holdsPayload_congr (fun partition offset => by rw [view_get, view_get, reads]) id
  constructor
  · intro index entry logged
    exact held.named index entry (remaining logged).2
  · intro id
    rw [bank, holds]
    have payload := removeLogRange_payload done id
    split at payload
    · rename_i cut
      obtain ⟨owners, stored, ownersRead, bytesRead⟩ := payload
      have account : accounted db.activeBank next.payload.get id False (db.view.HoldsPayload id) :=
        lawful.unlogged (held.account id) stored ownersRead bytesRead
      refine PayloadAccount.congr account (iff_false_intro ?_) Iff.rfl
      rintro ⟨index, entry, logged, holds⟩
      obtain ⟨spared, old⟩ := remaining logged
      obtain ⟨removed, inside, other, otherLogged, otherHolds⟩ := cut
      obtain ⟨place, names⟩ := held.named index entry old
      obtain ⟨otherPlace, otherNames⟩ := held.named removed other otherLogged
      have same : index = removed := by
        rw [← place, ← otherPlace, ← names id holds, ← otherNames id otherHolds]
      exact spared (same ▸ inside)
    · rename_i uncut
      refine PayloadAccount.congr (lawful.frame (held.account id) payload.1 payload.2) ?_ Iff.rfl
      constructor
      · rintro ⟨index, entry, logged, holds⟩
        exact ⟨index, entry, (remaining logged).2, holds⟩
      · rintro ⟨index, entry, logged, holds⟩
        refine ⟨index, entry, ?_, holds⟩
        rw [removeLogRange_raftLog done, if_neg]
        · exact logged
        · exact fun inside => uncut ⟨index, inside, entry, logged, holds⟩
  · intro logId above
    refine (held.seated logId fun position applied => above position ?_).kept
      fun partition offset record found => ?_
    · rw [reads]
      exact applied
    · rw [view_get, reads] at found
      exact found

end Cut

theorem commit_applied_record (logId : GroupLogId) (write : WriteBatch) (partition : PartitionKey)
    (offset : Nat) :
    (db.commit ⟨write.state ++ [.put .applied logId], write.payload⟩).view.get
        (.record partition offset) = (db.view.after write.state).get (.record partition offset) :=
  commit_applied_get (by simp [StateKey.family])

theorem Custody.applied (lawful : Accounting content accounted) {entry : GroupEntry}
    {result : ApplyResult} (held : Custody accounted db) (guarded : db.view.Guarded)
    (after : next.view.Guarded)
    (unapplied : ∀ position, db.get .applied = some position → position.index < entry.logId.index)
    (done : db.applyEntry entry = .ok (result, next)) : Custody accounted next := by
  unfold applyEntry at done
  split at done
  · simp at done
  rename_i answer write handled
  cases done
  have reads {key : StateKey} (other : key.family ≠ .applied) :
      (db.commit ⟨write.state ++ [.put .applied entry.logId], write.payload⟩).view.get key =
        (db.view.after write.state).get key := commit_applied_get other
  have records : (db.view.after write.state).Protected := by
    refine after.records.frame fun key inside => (reads ?_).symm
    rintro applied
    rw [applied] at inside
    simp [GroupView.protectedFamilies] at inside
  obtain ⟨slot, ledger⟩ := GroupView.applyPayload_audit
    lawful (GroupView.Audit.start guarded.records (held.seated entry.logId unapplied) held.account)
    (fun _ => rfl) guarded.records.listed records handled
  have record := @commit_applied_record db entry.logId write
  constructor
  · exact held.named
  · intro id
    have account := ledger.account id
    refine PayloadAccount.congr (lawful.frame account ?_ ?_) Iff.rfl
      (GroupView.holdsPayload_congr record id)
    · exact Kv.Store.get_commit ..
    · exact Kv.Store.get_commit ..
  · intro logId above
    have later : entry.logId.index < logId.index := above entry.logId (by
      rw [get_commit, Kv.Batch.effect_append]
      simp)
    have seated : (db.view.after write.state).Seated logId 0 := by
      refine ⟨?_, ledger.seated.distinct⟩
      intro partition offset stored found
      refine .inl ?_
      rcases ledger.seated.before partition offset stored found with earlier | ⟨own, _⟩
      · omega
      · rw [own]
        exact later
    refine seated.kept fun partition offset stored found => ?_
    rw [record] at found
    exact found

section Snapshot

variable {source built : GroupDb} {artifact : SnapshotArtifact} {metadata : SnapshotMeta}
  {encodedBytes : SnapshotRecord → Nat}

theorem Exact.snapshot (held : source.Exact content)
    (done : source.buildSnapshot = .ok (artifact, built)) :
    (∀ id, id ∈ artifact.payloads.map Prod.fst ↔ source.view.HoldsPayload id) ∧
      ∀ payload ∈ artifact.payloads, payload.2 = content payload.1 := by
  obtain ⟨keys, bodies⟩ := buildSnapshot_payloads done
  constructor
  · intro id
    rw [keys]
    constructor
    · rintro ⟨owners, stored, owned⟩
      obtain ⟨log, state, _, isApplied, _, rfl, _⟩ := (held.account id).stored stored
      rw [heldBy_appliedIn] at owned
      exact isApplied.mp owned
    · intro holds
      obtain ⟨owners, stored, _, owned, _⟩ := (held.account id).held (.inr holds)
      exact ⟨owners, stored, owned.mpr holds⟩
  · intro payload member
    obtain ⟨owners, stored, _⟩ := (keys payload.1).mp (List.mem_map.mpr ⟨payload, member, rfl⟩)
    obtain ⟨_, _, _, _, _, _, bytes⟩ := (held.account payload.1).stored stored
    rw [bodies payload member] at bytes
    exact Option.some.inj bytes

theorem Exact.installed (held : db.Exact content) (sourceHeld : source.Exact content)
    (done : source.buildSnapshot = .ok (artifact, built))
    (install : db.installSnapshot encodedBytes metadata artifact = .ok next) :
    next.Exact content := by
  obtain ⟨keys, bodies⟩ := sourceHeld.snapshot done
  obtain ⟨_, _, raftLog, _⟩ := installSnapshot_frame install
  have reads (key : StateKey) : next.view.get key = source.view.get key :=
    installSnapshot_get done install key
  constructor
  · rw [raftLog]
    exact held.named
  · intro id
    refine (installSnapshot_account (held.account id) bodies install).congr ?_ ?_
    · rw [LogHolds, LogHolds, raftLog]
    · rw [keys]
      exact GroupView.holdsPayload_congr (fun partition offset => reads _) id
  · intro logId above
    refine (sourceHeld.seated logId fun position applied => above position ?_).kept
      fun partition offset record found => ?_
    · rw [← view_get, reads]
      exact applied
    · rw [reads] at found
      exact found

end Snapshot

variable {identity : GroupIdentity} {window : Nat} {Allowed : GroupDb → GroupEntry → Prop}
  {history : List GroupEntry}

theorem Ran.exact (data : identity.kind = .data)
    (ran : Ran identity window content Allowed history db) : db.Exact content := by
  have lawful := account_accounting content
  induction ran with
  | created => exact custody_created lawful identity window
  | appended ran appendable ih => exact ih.appended lawful appendable
  | truncated ran done ih => exact ih.cut lawful done
  | purged ran done ih => exact ih.cut lawful done
  | applied ran due allowed done ih =>
      have kind := ran.settings.1
      have guarded := ran.guarded data
      have after := applyEntry_guarded (by rw [kind, data]) guarded done
      exact ih.applied lawful guarded after due.unapplied done
  | built ran done ih =>
      obtain ⟨_, _, rfl⟩ := buildSnapshot_ok done
      exact ⟨ih.named, ih.account, ih.seated⟩
  | installed ran sourceRan done install ih sourceIh => exact ih.installed sourceIh done install

/-- What ownership says of a store: every payload that the log or a record refers to is there with
the owner's flag set, bytes and reachable owners come together, and the active bank's flag stands
for a record. -/
structure OwnsExactly (db : GroupDb) : Prop where
  logged : ∀ index entry, db.raftLog.get index = some entry → ∀ id ∈ entry.payloadKeys,
    (db.payload.get (.bytes id)).isSome = true ∧
      ∃ owners : PayloadOwners, db.payload.get (.owners id) = some owners ∧ owners.raftLog = true
  recorded : ∀ (partition : PartitionKey) (offset : Nat) (record : StoredRecord),
    db.get (.record partition offset) = some record →
    (db.payload.get (.bytes record.payloadKey)).isSome = true ∧
      ∃ owners : PayloadOwners, db.payload.get (.owners record.payloadKey) = some owners ∧
        owners.appliedIn db.activeBank = true
  bytes : ∀ id, (db.payload.get (.bytes id)).isSome = true ↔
    ∃ owners : PayloadOwners, db.payload.get (.owners id) = some owners ∧ owners.reachable = true
  owners : ∀ (id : PayloadId) (owners : PayloadOwners), db.payload.get (.owners id) = some owners →
    owners.reachable = true
  applied : ∀ (id : PayloadId) (owners : PayloadOwners), db.payload.get (.owners id) = some owners →
    owners.appliedIn db.activeBank = true → ∃ (partition : PartitionKey) (offset : Nat)
      (record : StoredRecord), db.get (.record partition offset) = some record ∧
        record.payloadKey = id

theorem Exact.ownsExactly (held : db.Exact content) : db.OwnsExactly where
  logged := by
    intro index entry logged id holds
    have holds : db.LogHolds id := ⟨index, entry, logged, holds⟩
    obtain ⟨owners, stored, flag, _, bytes⟩ := (held.account id).held (.inl holds)
    exact ⟨by rw [bytes]; rfl, owners, stored, flag.mpr holds⟩
  recorded := by
    intro partition offset record stored
    have holds : db.view.HoldsPayload record.payloadKey := ⟨partition, offset, record, stored, rfl⟩
    obtain ⟨owners, found, _, flag, bytes⟩ := (held.account record.payloadKey).held (.inr holds)
    exact ⟨by rw [bytes]; rfl, owners, found, flag.mpr holds⟩
  bytes := by
    intro id
    constructor
    · intro present
      by_cases someone : db.LogHolds id ∨ db.view.HoldsPayload id
      · obtain ⟨owners, stored, _⟩ := (held.account id).held someone
        obtain ⟨log, state, _, _, reachable, rfl, _⟩ := (held.account id).stored stored
        exact ⟨_, stored, by rw [heldBy_reachable]; exact reachable⟩
      · rw [not_or] at someone
        rw [((held.account id).absent someone.1 someone.2).2] at present
        simp at present
    · rintro ⟨owners, stored, _⟩
      obtain ⟨_, _, _, _, _, _, bytes⟩ := (held.account id).stored stored
      rw [bytes]
      rfl
  owners := by
    intro id owners stored
    obtain ⟨log, state, _, _, reachable, rfl, _⟩ := (held.account id).stored stored
    rw [heldBy_reachable]
    exact reachable
  applied := by
    intro id owners stored owned
    obtain ⟨log, state, _, isApplied, _, rfl, _⟩ := (held.account id).stored stored
    rw [heldBy_appliedIn] at owned
    exact isApplied.mp owned

/-- Payload ownership is exact in every reachable state of a data group. -/
theorem payload_ownership_exact (data : identity.kind = .data)
    (ran : Ran identity window content Allowed history db) : db.OwnsExactly :=
  (ran.exact data).ownsExactly

/-- The log of the sample is purged after its second record was reclaimed: the payload of the
leased record stays, and that of the reclaimed one is gone. -/
theorem payload_ownership_exact_sample : ∃ db,
    Ran freshData.identity 2 (fun _ => [7]) (fun _ _ => True) replayEntries db ∧
    (db.payload.get (.bytes ⟨⟨1, 1, 2⟩, 0⟩)).isSome = true ∧
    db.payload.get (.bytes ⟨⟨1, 1, 3⟩, 0⟩) = none ∧ db.OwnsExactly := by
  have kept : freshData.leaves replayEntries (fun db =>
      yields (db.purge ⟨1, 1, 6⟩) fun next =>
        (next.payload.get (.bytes ⟨⟨1, 1, 2⟩, 0⟩)).isSome &&
          decide (next.payload.get (.bytes ⟨⟨1, 1, 3⟩, 0⟩) = none)) = true := by decide
  obtain ⟨results, db, submitted, kept⟩ := leaves_iff.mp kept
  obtain ⟨next, purged, kept⟩ := yields_iff.mp kept
  simp only [Bool.and_eq_true, decide_eq_true_eq] at kept
  have ran : Ran freshData.identity 2 (fun _ => [7]) (fun _ _ => True) replayEntries db :=
    Ran.submitAll .created (create_usedBelow _ _) (by decide) (by decide)
      (fun _ _ _ => trivial) submitted
  exact ⟨next, ran.purged purged, kept.1, kept.2,
    payload_ownership_exact rfl (ran.purged purged)⟩

end GroupDb

end LightStream
