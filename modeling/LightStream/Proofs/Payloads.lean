import LightStream.Proofs.Ownership

/-!
Payload ownership over whole runs: every record has a payload of its own, named after an applied
entry, and the payload column family stays the image of the log and of the records.
-/

namespace LightStream

/-- The payloads of earlier entries, and the slots of an entry below a bound. -/
def PayloadId.Before (logId : GroupLogId) (slot : Nat) (id : PayloadId) : Prop :=
  id.logId.index < logId.index ∨ id.logId = logId ∧ id.slot < slot

namespace GroupView

variable {view other : GroupView} {logId : GroupLogId} {slot : Nat} {batch : PublishBatch}

def HoldsPayload (view : GroupView) (id : PayloadId) : Prop :=
  ∃ (partition : PartitionKey) (offset : Nat) (record : StoredRecord),
    view.get (.record partition offset) = some record ∧ record.payloadKey = id

structure Seated (view : GroupView) (logId : GroupLogId) (slot : Nat) : Prop where
  before : ∀ (partition : PartitionKey) (offset : Nat) (record : StoredRecord),
    view.get (.record partition offset) = some record → record.payloadKey.Before logId slot
  distinct : ∀ (partition other : PartitionKey) (offset position : Nat)
    (record stored : StoredRecord), view.get (.record partition offset) = some record →
    view.get (.record other position) = some stored → record.payloadKey = stored.payloadKey →
    partition = other ∧ offset = position

theorem Seated.kept (seated : view.Seated logId slot)
    (records : ∀ (partition : PartitionKey) (offset : Nat) (record : StoredRecord),
      other.get (.record partition offset) = some record →
      view.get (.record partition offset) = some record) : other.Seated logId slot where
  before := fun partition offset record stored =>
    seated.before partition offset record (records partition offset record stored)
  distinct := fun partition another offset position record stored first second =>
    seated.distinct partition another offset position record stored
      (records partition offset record first) (records another position stored second)

theorem holdsPayload_congr
    (same : ∀ (partition : PartitionKey) (offset : Nat),
      other.get (.record partition offset) = view.get (.record partition offset))
    (id : PayloadId) : other.HoldsPayload id ↔ view.HoldsPayload id := by
  simp only [HoldsPayload, same]

theorem Seated.free (seated : view.Seated logId slot) {id : PayloadId} (own : id.logId = logId)
    (later : slot ≤ id.slot) : ¬view.HoldsPayload id := by
  rintro ⟨partition, offset, record, stored, rfl⟩
  rcases seated.before partition offset record stored with earlier | ⟨_, placed⟩
  · rw [own] at earlier
    omega
  · omega

section Place

variable {range : CommittedRecordRange}

theorem placed_record_cases {partition : PartitionKey} {offset : Nat} {record : StoredRecord}
    (stored : (view.after (view.placeWrites logId slot batch range)).get
      (.record partition offset) = some record) :
    (partition = batch.partition ∧ range.first ≤ offset ∧
        offset < range.first + batch.records.length ∧
        record.payloadKey = ⟨logId, slot + (offset - range.first)⟩) ∨
      view.get (.record partition offset) = some record := by
  by_cases same : partition = batch.partition
  · subst same
    have placed := @place_record view logId slot batch range offset
    split at placed
    · rename_i inside
      obtain ⟨written, found, payload⟩ := placed
      rw [stored] at found
      cases found
      exact .inl ⟨rfl, inside.1, inside.2, payload⟩
    · rw [placed] at stored
      exact .inr stored
  · rw [place_record_other same] at stored
    exact .inr stored

theorem placed_record_old (kept : view.Protected)
    (allocated : CommittedRecordRange.new batch.partition (view.nextOffsetOf batch.partition)
      batch.records.length = .ok range) {partition : PartitionKey} {offset : Nat}
    {record : StoredRecord} (stored : view.get (.record partition offset) = some record) :
    (view.after (view.placeWrites logId slot batch range)).get (.record partition offset) =
      some record := by
  obtain ⟨first, _, _⟩ := committedRecordRange_ok allocated
  by_cases same : partition = batch.partition
  · subst same
    have below := kept.tail batch.partition offset (by rw [stored]; rfl)
    have placed := @place_record view logId slot batch range offset
    rw [if_neg (by omega)] at placed
    rw [placed, stored]
  · rw [place_record_other same, stored]

theorem Seated.placed (seated : view.Seated logId slot) :
    (view.after (view.placeWrites logId slot batch range)).Seated logId
      (slot + batch.records.length) where
  before := by
    intro partition offset record stored
    rcases placed_record_cases stored with ⟨_, low, high, payload⟩ | old
    · rw [payload]
      exact .inr ⟨rfl, by dsimp only; omega⟩
    · rcases seated.before partition offset record old with earlier | ⟨own, below⟩
      · exact .inl earlier
      · exact .inr ⟨own, by omega⟩
  distinct := by
    intro partition another offset position record stored first second same
    have fresh {old : StoredRecord} {home : PartitionKey} {place : Nat}
        (found : view.get (.record home place) = some old) {index : Nat}
        (own : old.payloadKey = ⟨logId, slot + index⟩) : False := by
      refine @Seated.free view logId slot seated old.payloadKey (by rw [own]) (by rw [own]; simp) ?_
      exact ⟨home, place, old, found, rfl⟩
    rcases placed_record_cases first with ⟨rfl, low, high, payload⟩ | old
    · rcases placed_record_cases second with ⟨rfl, lowToo, highToo, payloadToo⟩ | oldToo
      · rw [payload, payloadToo] at same
        simp only [PayloadId.mk.injEq, true_and] at same
        exact ⟨rfl, by omega⟩
      · rw [payload] at same
        exact (fresh oldToo same.symm).elim
    · rcases placed_record_cases second with ⟨rfl, lowToo, highToo, payloadToo⟩ | oldToo
      · rw [payloadToo] at same
        exact (fresh old same).elim
      · exact seated.distinct partition another offset position record stored old oldToo same

theorem placed_holdsPayload (kept : view.Protected)
    (allocated : CommittedRecordRange.new batch.partition (view.nextOffsetOf batch.partition)
      batch.records.length = .ok range) (id : PayloadId) :
    (view.after (view.placeWrites logId slot batch range)).HoldsPayload id ↔
      view.HoldsPayload id ∨
        id.logId = logId ∧ slot ≤ id.slot ∧ id.slot < slot + batch.records.length := by
  constructor
  · rintro ⟨partition, offset, record, stored, rfl⟩
    rcases placed_record_cases stored with ⟨_, low, high, payload⟩ | old
    · rw [payload]
      exact .inr ⟨rfl, by simp, by dsimp only; omega⟩
    · exact .inl ⟨partition, offset, record, old, rfl⟩
  · rintro (⟨partition, offset, record, stored, rfl⟩ | ⟨rfl, low, high⟩)
    · exact ⟨partition, offset, record, placed_record_old kept allocated stored, rfl⟩
    · have placed := @place_record view id.logId slot batch range (range.first + (id.slot - slot))
      rw [if_pos ⟨by omega, by omega⟩] at placed
      obtain ⟨record, stored, payload⟩ := placed
      refine ⟨batch.partition, _, record, stored, ?_⟩
      rw [payload, show slot + (range.first + (id.slot - slot) - range.first) = id.slot by omega]

end Place

/-- What a publish leaves while its batch is built: the accounts of all payloads, and slots from a
bound on that no write has touched. -/
structure Audit (accounted : PayloadAccount) (base : PayloadRead) (logged : PayloadId → Prop)
    (view : GroupView) (logId : GroupLogId) (slot : Nat) (write : WriteBatch) : Prop where
  records : (view.after write.state).Protected
  seated : (view.after write.state).Seated logId slot
  account : ∀ id, accounted view.activeBank (Kv.pending base write.payload) id (logged id)
    ((view.after write.state).HoldsPayload id)
  later : ∀ id : PayloadId, id.logId = logId → slot ≤ id.slot →
    Kv.Batch.effect write.payload (.owners id) = none

abbrev Ledger (content : PayloadId → Record) (base : PayloadRead) (logged : PayloadId → Prop)
    (view : GroupView) (logId : GroupLogId) (slot : Nat) (write : WriteBatch) : Prop :=
  Audit (Account content) base logged view logId slot write

section Publish

variable {content : PayloadId → Record} {accounted : PayloadAccount} {base : PayloadRead}
  {logged : PayloadId → Prop}

theorem Audit.quiet {first : WriteBatch} {writes : StateBatch}
    (ledger : Audit accounted base logged view logId slot first)
    (within : Within [.receipt, .session] writes) (count : Nat) :
    Audit accounted base logged view logId (slot + count) (first.append ⟨writes, []⟩) := by
  have state : view.after (first.append ⟨writes, []⟩).state =
      (view.after first.state).after writes := after_append ..
  have payload : (first.append ⟨writes, []⟩).payload = first.payload := List.append_nil _
  have record (partition : PartitionKey) (offset : Nat) :
      ((view.after first.state).after writes).get (.record partition offset) =
        (view.after first.state).get (.record partition offset) :=
    after_get_of_within within (by simp [StateKey.family])
  constructor
  · rw [state]
    exact ledger.records.within within (by decide)
  · rw [state]
    have kept : ((view.after first.state).after writes).Seated logId slot :=
      ledger.seated.kept fun partition offset stored found => by rwa [record] at found
    refine ⟨fun partition offset stored found => ?_, kept.distinct⟩
    rcases kept.before partition offset stored found with earlier | ⟨own, below⟩
    · exact .inl earlier
    · exact .inr ⟨own, by omega⟩
  · intro id
    rw [state, payload]
    exact PayloadAccount.congr (ledger.account id) Iff.rfl (holdsPayload_congr record id)
  · intro id own low
    rw [payload]
    exact ledger.later id own (by omega)

theorem Audit.placed (lawful : Accounting content accounted) {first write : WriteBatch}
    (ledger : Audit accounted base logged view logId slot first)
    (owners : ∀ id, view.owners id = base (.owners id))
    (placed : (view.after first.state).Placement logId slot batch write) :
    Audit accounted base logged view logId (slot + batch.records.length) (first.append write) := by
  have records := ledger.records.placed placed
  cases placed with
  | quiet writes within => exact ledger.quiet within _
  | appended range allocated owned before rest beforeWithin afterWithin =>
      rw [show ∀ writes payload, first.append ⟨writes, payload⟩ =
        ⟨first.state ++ writes, first.payload ++ payload⟩ from fun _ _ => rfl]
      have record (partition : PartitionKey) (offset : Nat) :
          ((view.after first.state).after (before ++ (view.after first.state).placeWrites logId slot
            batch range ++ rest)).get (.record partition offset) =
          ((view.after first.state).after ((view.after first.state).placeWrites logId slot batch
            range)).get (.record partition offset) :=
        place_between beforeWithin afterWithin (by simp [StateKey.family])
      constructor
      · rw [after_append]
        exact records
      · rw [after_append]
        exact ledger.seated.placed.kept fun partition offset stored found => by
          rwa [record] at found
      · intro id
        rw [after_append]
        have holds := (holdsPayload_congr record id).trans
          (placed_holdsPayload ledger.records allocated id)
        rw [Kv.pending_append]
        have ownersEffect := ownerOps_effect (view.after first.state) logId batch.records slot id
        have bytesEffect := ownerOps_effect_bytes (view.after first.state) logId batch.records slot
          id
        by_cases inside : id.logId = logId ∧ slot ≤ id.slot ∧
            id.slot < slot + batch.records.length
        · rw [if_pos inside] at ownersEffect
          obtain ⟨stored, found⟩ := Option.isSome_iff_exists.mp
            (owned (id.slot - slot) (by omega))
          have named : (⟨logId, slot + (id.slot - slot)⟩ : PayloadId) = id := by
            obtain ⟨rfl, low, _⟩ := inside
            rw [Nat.add_sub_cancel' low]
          rw [named] at found
          have current : Kv.pending base first.payload (.owners id) = some stored := by
            rw [Kv.pending_of_untouched (ledger.later id inside.1 inside.2.1), ← owners]
            exact found
          have after : accounted view.activeBank
              (Kv.pending (Kv.pending base first.payload)
                (ownerOps (view.after first.state) logId batch.records slot)) id (logged id) True := by
            refine lawful.taken (ledger.account id) current ?_ (Kv.pending_of_untouched bytesEffect)
            rw [Kv.pending, ownersEffect, found]
            rfl
          exact PayloadAccount.congr after Iff.rfl (by rw [holds]; simp [inside])
        · rw [if_neg inside] at ownersEffect
          have after : accounted view.activeBank
              (Kv.pending (Kv.pending base first.payload)
                (ownerOps (view.after first.state) logId batch.records slot)) id (logged id)
              ((view.after first.state).HoldsPayload id) :=
            lawful.frame (ledger.account id) (Kv.pending_of_untouched ownersEffect)
              (Kv.pending_of_untouched bytesEffect)
          refine PayloadAccount.congr after Iff.rfl ?_
          rw [holds]
          simp only [inside, or_false]
      · intro id own low
        rw [Kv.Batch.effect_append, ownerOps_effect, if_neg (by omega), Option.none_or]
        exact ledger.later id own (by omega)

theorem Audit.start (records : view.Protected) (seated : view.Seated logId 0)
    (account : ∀ id, accounted view.activeBank base id (logged id) (view.HoldsPayload id)) :
    Audit accounted base logged view logId 0 ⟨[], []⟩ :=
  ⟨records, seated, account, fun _ _ _ => rfl⟩

theorem Audit.still {families : List StateFamily} {write : WriteBatch}
    (start : Audit accounted base logged view logId 0 ⟨[], []⟩)
    (records : (view.after write.state).Protected) (footprint : Footprint families result write)
    (outside : StateFamily.record ∉ families) :
    Audit accounted base logged view logId 0 write := by
  obtain ⟨within, payload⟩ := footprint
  have record (partition : PartitionKey) (offset : Nat) :
      (view.after write.state).get (.record partition offset) =
        view.get (.record partition offset) := after_get_of_within within outside
  refine ⟨records, start.seated.kept fun partition offset stored found => ?_, ?_, ?_⟩
  · rw [record] at found
    exact found
  · intro id
    rw [payload]
    exact PayloadAccount.congr (start.account id) Iff.rfl (holdsPayload_congr record id)
  · intro id _ _
    rw [payload]
    rfl

theorem Audit.maintained (lawful : Accounting content accounted) {write : WriteBatch} {partition : PartitionKey}
    {expectedCursor maxRecords maxPayloadBytes : Nat} {observation : ClockObservation}
    (start : Audit accounted base logged view logId 0 ⟨[], []⟩)
    (owners : ∀ id, view.owners id = base (.owners id)) (listed : view.Listed)
    (records : (view.after write.state).Protected)
    (done : view.applyMaintainRetention partition expectedCursor maxRecords maxPayloadBytes
      observation = .ok (result, write)) :
    Audit accounted base logged view logId 0 write := by
  have protectedView : view.Protected := start.records
  rcases applyMaintainRetention_cases protectedView listed done with
    rfl | ⟨clock, before, after, reclaimed, _, _, reclaims, finished, _, _, payload⟩
  · exact start
  have entries : write.payload = releaseOps (reclaimed.map fun record =>
      (record.record.payloadKey, record.owners)) := by
    rw [payload, releaseOps, List.flatMap_map]
  have keys (id : PayloadId) : id ∈ (reclaimed.map fun record : Reclaimed =>
      (record.record.payloadKey, record.owners)).map Prod.fst ↔
        ∃ record ∈ reclaimed, record.record.payloadKey = id := by
    simp only [List.map_map, List.mem_map, Function.comp]
  have remaining {other : PartitionKey} {offset : Nat} {record : StoredRecord}
      (found : (view.after write.state).get (.record other offset) = some record) :
      view.get (.record other offset) = some record ∧
        (other = partition → ∀ deleted ∈ reclaimed, deleted.offset ≠ offset) := by
    rw [finished.record, expired_record] at found
    split at found
    · simp at found
    · rename_i spared
      exact ⟨found, fun own deleted member same => spared ⟨own, deleted, member, same⟩⟩
  have named {id : PayloadId} {deleted : Reclaimed} (member : deleted ∈ reclaimed)
      (own : deleted.record.payloadKey = id) : view.HoldsPayload id :=
    ⟨partition, deleted.offset, deleted.record, reclaims.stored deleted member, own⟩
  refine ⟨records, start.seated.kept fun other offset record found => (remaining found).1, ?_, ?_⟩
  · intro id
    rw [entries]
    by_cases member : ∃ record ∈ reclaimed, record.record.payloadKey = id
    · obtain ⟨deleted, inside, rfl⟩ := member
      obtain ⟨stored, found, remain⟩ := reclaims.owned deleted inside
      have agree : ∀ entry ∈ reclaimed.map fun record : Reclaimed =>
          (record.record.payloadKey, record.owners),
          entry.1 = deleted.record.payloadKey →
            entry.2 = stored.setAppliedIn view.activeBank false := by
        intro entry entryInside same
        obtain ⟨another, anotherInside, rfl⟩ := List.mem_map.mp entryInside
        obtain ⟨others, othersFound, othersRemain⟩ := reclaims.owned another anotherInside
        dsimp only at same ⊢
        rw [same, found] at othersFound
        cases othersFound
        exact othersRemain
      obtain ⟨ownersRead, bytesRead⟩ := @release_reads base _ _ _ agree
      have inKeys := (keys deleted.record.payloadKey).mpr ⟨deleted, inside, rfl⟩
      rw [if_pos inKeys] at ownersRead bytesRead
      have account : accounted view.activeBank
          (Kv.pending base (releaseOps (reclaimed.map fun record : Reclaimed =>
            (record.record.payloadKey, record.owners)))) deleted.record.payloadKey
          (logged deleted.record.payloadKey) False :=
        lawful.unapplied (start.account deleted.record.payloadKey) ((owners _).symm.trans found)
          ownersRead bytesRead
      refine PayloadAccount.congr account Iff.rfl (iff_false_intro ?_)
      rintro ⟨other, offset, record, found, same⟩
      obtain ⟨old, spared⟩ := remaining found
      obtain ⟨rfl, rfl⟩ := start.seated.distinct other partition offset deleted.offset record
        deleted.record old (reclaims.stored deleted inside) same
      exact spared rfl deleted inside rfl
    · have absent := mt (keys id).mp member
      have agree : ∀ entry ∈ reclaimed.map fun record : Reclaimed =>
          (record.record.payloadKey, record.owners),
          entry.1 = id → entry.2 = PayloadOwners.default := by
        intro entry inside same
        exact absurd (List.mem_map.mpr ⟨entry, inside, same⟩) absent
      obtain ⟨ownersRead, bytesRead⟩ := @release_reads base _ _ _ agree
      rw [if_neg absent] at ownersRead bytesRead
      have account := lawful.frame (start.account id) ownersRead bytesRead
      refine PayloadAccount.congr account Iff.rfl ⟨?_, ?_⟩
      · rintro ⟨other, offset, record, found, rfl⟩
        exact ⟨other, offset, record, (remaining found).1, rfl⟩
      · rintro ⟨other, offset, record, found, rfl⟩
        refine ⟨other, offset, record, ?_, rfl⟩
        rw [finished.record, expired_record, if_neg]
        · exact found
        rintro ⟨rfl, deleted, inside, rfl⟩
        refine member ⟨deleted, inside, ?_⟩
        have stored := reclaims.stored deleted inside
        rw [show view.get (.record other deleted.offset) = some record from found] at stored
        rw [Option.some.inj stored]
  · intro id own _
    rw [entries, Kv.Batch.effect_eq_none_iff]
    intro op member same
    obtain ⟨entry, inside, written⟩ := List.mem_flatMap.mp member
    obtain ⟨deleted, deletedInside, rfl⟩ := List.mem_map.mp inside
    have sameId : deleted.record.payloadKey = id := by
      unfold releasePayload at written
      split at written
      · simp only [List.mem_singleton] at written
        subst written
        simpa using same
      · simp only [List.mem_cons, List.not_mem_nil, or_false] at written
        rcases written with rfl | rfl
        · simpa using same
        · simp at same
    exact start.seated.free own (Nat.zero_le _) (named deletedInside sameId)

end Publish

theorem applyPayload_audit {content : PayloadId → Record} {accounted : PayloadAccount}
    (lawful : Accounting content accounted) {base : PayloadRead} {logged : PayloadId → Prop}
    {payload : EntryPayload} {result : ApplyResult} {write : WriteBatch}
    (start : Audit accounted base logged view logId 0 ⟨[], []⟩)
    (owners : ∀ id, view.owners id = base (.owners id)) (listed : view.Listed)
    (records : (view.after write.state).Protected)
    (done : view.applyPayload logId payload = .ok (result, write)) :
    ∃ slot, Audit accounted base logged view logId slot write := by
  cases payload with
  | blank =>
      cases done
      exact ⟨0, start⟩
  | membership membership =>
      cases done
      have footprint : Footprint [.membership] ApplyResult.noop
          ⟨[.put .membership ⟨some logId, membership⟩], []⟩ := by
        simp [Footprint, StateKey.family]
      exact ⟨0, start.still records footprint (by decide)⟩
  | normal command =>
      have dispatched : view.dispatch logId command = .ok (result, write) ∨
          write = ⟨[], []⟩ := applyCommand_dispatched done
      rcases dispatched with handled | rfl
      · cases still : command.movesPayloads with
        | false =>
            refine ⟨0, start.still records (dispatch_footprint still result write handled) ?_⟩
            cases command with
            | exportProtocol command => cases command <;> simp [GroupCommand.families]
            | publish | publishMany | maintainRetention =>
                simp [GroupCommand.movesPayloads] at still
            | _ => simp [GroupCommand.families, leaseFamilies, decisionFamilies]
        | true =>
            cases command with
            | publish batch =>
                refine ⟨0 + batch.records.length, ?_⟩
                exact start.placed lawful owners (applyPublish_placement handled)
            | publishMany batch =>
                refine @applyPublishMany_invariant view logId write
                  (fun slot write => Audit accounted base logged view logId slot write) start ?_
                  batch result handled
                intro slot batch first write ledger placed
                exact ledger.placed lawful owners placed
            | maintainRetention partition expectedCursor maxRecords maxPayloadBytes clock =>
                exact ⟨0, start.maintained lawful owners listed records handled⟩
            | _ => simp [GroupCommand.movesPayloads] at still
      · exact ⟨0, start⟩

end GroupView

end LightStream
