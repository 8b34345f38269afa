import LightStream.Kv.Overlay
import LightStream.Proofs.LogSpec
import LightStream.Proofs.Replica

/-!
What the batches of the payload column family leave: the owners that let go of a payload, and
delete it when they were the last, and the owners that an installed snapshot adds.
-/

namespace LightStream

def PayloadOwners.kept (owners : PayloadOwners) : Option PayloadOwners :=
  if owners.reachable then some owners else none

def PayloadOwners.keptBytes (owners : PayloadOwners) (bytes : Option Record) : Option Record :=
  if owners.reachable then bytes else none

def releaseOps (entries : List (PayloadId × PayloadOwners)) : PayloadBatch :=
  entries.flatMap fun entry => GroupView.releasePayload entry.1 entry.2

section Release

variable {read : (key : PayloadKey) → Option (PayloadVal key)}

theorem or_some_ite {α : Type} {first second : Prop} [Decidable first] [Decidable second]
    (value : α) : (if first then some value else none).or (if second then some value else none) =
      if second ∨ first then some value else none := by
  by_cases one : first <;> by_cases two : second <;> simp [one, two]

theorem releasePayload_owners (id other : PayloadId) (owners : PayloadOwners) :
    Kv.Batch.effect (GroupView.releasePayload id owners) (.owners other) =
      if other = id then some owners.kept else none := by
  unfold GroupView.releasePayload PayloadOwners.kept
  by_cases same : other = id
  · subst same
    cases owners.reachable <;> simp [Kv.Op.effect]
  · cases owners.reachable <;> simp [Kv.Op.effect, same, Ne.symm same]

theorem releasePayload_bytes (id other : PayloadId) (owners : PayloadOwners) :
    Kv.Batch.effect (GroupView.releasePayload id owners) (.bytes other) =
      if other = id ∧ owners.reachable = false then some none else none := by
  unfold GroupView.releasePayload
  by_cases same : other = id
  · subst same
    cases owners.reachable <;> simp [Kv.Op.effect]
  · cases owners.reachable <;> simp [Kv.Op.effect, same, Ne.symm same]

theorem releaseOps_owners {entries : List (PayloadId × PayloadOwners)} {id : PayloadId}
    {owners : PayloadOwners} (agree : ∀ entry ∈ entries, entry.1 = id → entry.2 = owners) :
    Kv.Batch.effect (releaseOps entries) (.owners id) =
      if id ∈ entries.map Prod.fst then some owners.kept else none := by
  induction entries with
  | nil => rfl
  | cons entry rest ih =>
      have later := ih fun other member => agree other (List.mem_cons_of_mem _ member)
      have head : (if id = entry.1 then some entry.2.kept else none) =
          if id = entry.1 then some owners.kept else none := by
        split
        · rename_i same
          rw [agree entry (List.mem_cons_self ..) same.symm]
        · rfl
      rw [releaseOps, List.flatMap_cons, Kv.Batch.effect_append, ← releaseOps, later,
        releasePayload_owners, head, or_some_ite]
      simp only [List.map_cons, List.mem_cons]

theorem releaseOps_bytes {entries : List (PayloadId × PayloadOwners)} {id : PayloadId}
    {owners : PayloadOwners} (agree : ∀ entry ∈ entries, entry.1 = id → entry.2 = owners) :
    Kv.Batch.effect (releaseOps entries) (.bytes id) =
      if id ∈ entries.map Prod.fst ∧ owners.reachable = false then some none else none := by
  induction entries with
  | nil => simp [releaseOps]
  | cons entry rest ih =>
      have later := ih fun other member => agree other (List.mem_cons_of_mem _ member)
      have head : (if id = entry.1 ∧ entry.2.reachable = false then some none else none) =
          (if id = entry.1 ∧ owners.reachable = false then some none else none :
            Option (Option Record)) := by
        by_cases same : id = entry.1
        · rw [agree entry (List.mem_cons_self ..) same.symm]
        · simp only [same, false_and]
      rw [releaseOps, List.flatMap_cons, Kv.Batch.effect_append, ← releaseOps, later,
        releasePayload_bytes, head, or_some_ite]
      simp only [List.map_cons, List.mem_cons, or_and_right]

theorem release_reads {entries : List (PayloadId × PayloadOwners)} {id : PayloadId}
    {owners : PayloadOwners} (agree : ∀ entry ∈ entries, entry.1 = id → entry.2 = owners) :
    Kv.pending read (releaseOps entries) (.owners id) =
        (if id ∈ entries.map Prod.fst then owners.kept else read (.owners id)) ∧
      Kv.pending read (releaseOps entries) (.bytes id) =
        if id ∈ entries.map Prod.fst then owners.keptBytes (read (.bytes id))
        else read (.bytes id) := by
  rw [Kv.pending, Kv.pending, releaseOps_owners agree, releaseOps_bytes agree]
  unfold PayloadOwners.keptBytes
  by_cases member : id ∈ entries.map Prod.fst
  · cases owners.reachable <;> simp [member]
  · simp [member]

end Release

namespace GroupDb

variable {db : GroupDb}

section Raft

def unlogged (owners : PayloadOwners) : PayloadOwners := { owners with raftLog := false }

theorem releaseRaft_ok {ids : List PayloadId} {ops : PayloadBatch}
    (done : db.releaseRaft ids = .ok ops) :
    ∃ entries : List (PayloadId × PayloadOwners), entries.map Prod.fst = ids ∧
      (∀ entry ∈ entries, ∃ owners, db.payload.get (.owners entry.1) = some owners ∧
        entry.2 = unlogged owners) ∧
      ∀ key, Kv.Batch.effect ops key = Kv.Batch.effect (releaseOps entries) key := by
  induction ids generalizing ops with
  | nil =>
      cases done
      exact ⟨[], rfl, by simp, fun _ => rfl⟩
  | cons id rest ih =>
      rw [releaseRaft] at done
      split at done
      · simp at done
      rename_i owners stored
      split at done
      · simp at done
      rename_i later released
      obtain ⟨entries, keys, own, effects⟩ := ih released
      refine ⟨(id, unlogged owners) :: entries, by simp [keys], ?_, ?_⟩
      · intro entry member
        rcases List.mem_cons.mp member with rfl | inRest
        · exact ⟨owners, stored, rfl⟩
        · exact own entry inRest
      · intro key
        rw [releaseOps, List.flatMap_cons, Kv.Batch.effect_append, ← releaseOps, ← effects]
        unfold GroupView.releasePayload unlogged
        dsimp only at done ⊢
        split at done
        · rename_i reachable
          cases done
          rw [if_pos reachable]
          rfl
        · rename_i unreachable
          cases done
          rw [if_neg unreachable, Kv.Batch.effect_cons, Kv.Batch.effect_cons]
          -- The log deletes the bytes first; the two deletions are of different keys.
          cases key <;> simp [Kv.Op.effect]

theorem removeLogRange_payload {next : GroupDb} {start : Nat} {stop : Option Nat}
    {purged : Option GroupLogId} (done : db.removeLogRange start stop purged = .ok next)
    (id : PayloadId) :
    if ∃ index ∈ db.logIndexes start stop, ∃ entry, db.raftLog.get index = some entry ∧
        id ∈ entry.payloadKeys then
      ∃ owners, db.payload.get (.owners id) = some owners ∧
        next.payload.get (.owners id) = (unlogged owners).kept ∧
        next.payload.get (.bytes id) = (unlogged owners).keptBytes (db.payload.get (.bytes id))
    else next.payload.get (.owners id) = db.payload.get (.owners id) ∧
      next.payload.get (.bytes id) = db.payload.get (.bytes id) := by
  unfold removeLogRange at done
  dsimp only at done
  split at done
  · simp at done
  rename_i ops released
  cases done
  obtain ⟨entries, keys, own, effects⟩ := releaseRaft_ok released
  have member : id ∈ entries.map Prod.fst ↔ ∃ index ∈ db.logIndexes start stop, ∃ entry,
      db.raftLog.get index = some entry ∧ id ∈ entry.payloadKeys := by
    rw [keys]
    simp only [List.mem_flatMap, List.mem_filterMap]
    constructor
    · rintro ⟨entry, ⟨index, inside, found⟩, held⟩
      exact ⟨index, inside, entry, found, held⟩
    · rintro ⟨index, inside, entry, found, held⟩
      exact ⟨entry, ⟨index, inside, found⟩, held⟩
  have reads (key : PayloadKey) : (db.payload.commit ops).get key =
      Kv.pending db.payload.get (releaseOps entries) key := by
    rw [Kv.Store.get_commit, effects]
    rfl
  dsimp only
  rw [reads, reads]
  split
  · rename_i cut
    obtain ⟨entry, inside, rfl⟩ := List.mem_map.mp (member.mpr cut)
    obtain ⟨owners, stored, remain⟩ := own entry inside
    have agree : ∀ other ∈ entries, other.1 = entry.1 → other.2 = unlogged owners := by
      intro other otherInside same
      obtain ⟨otherOwners, otherStored, otherRemain⟩ := own other otherInside
      rw [same, stored] at otherStored
      cases otherStored
      exact otherRemain
    obtain ⟨ownersRead, bytesRead⟩ := @release_reads db.payload.get _ _ _ agree
    rw [if_pos (member.mpr cut)] at ownersRead bytesRead
    exact ⟨owners, stored, ownersRead, bytesRead⟩
  · rename_i uncut
    have absent : id ∉ entries.map Prod.fst := fun inside => uncut (member.mp inside)
    have agree : ∀ other ∈ entries, other.1 = id → other.2 = PayloadOwners.default := by
      intro other inside same
      exact absurd (List.mem_map.mpr ⟨other, inside, same⟩) absent
    obtain ⟨ownersRead, bytesRead⟩ := @release_reads db.payload.get _ _ _ agree
    rw [if_neg absent] at ownersRead bytesRead
    exact ⟨ownersRead, bytesRead⟩

end Raft

section Snapshot

variable {bank : StateBank}

theorem mem_scanOwners {payload : PayloadStore} {id : PayloadId} {owners : PayloadOwners} :
    (id, owners) ∈ scanOwners payload ↔ payload.get (.owners id) = some owners := by
  simp only [scanOwners, List.mem_filterMap, Kv.Store.mem_scan, ownersIndex_some,
    Option.map_eq_some_iff, Prod.mk.injEq]
  constructor
  · rintro ⟨other, _, value, stored, rfl, rfl⟩
    exact stored
  · intro stored
    exact ⟨id, ⟨_, by rw [stored]; rfl, rfl⟩, owners, stored, rfl, rfl⟩

def clearedEntries (db : GroupDb) (bank : StateBank) : List (PayloadId × PayloadOwners) :=
  ((scanOwners db.payload).filter fun entry => entry.2.appliedIn bank).map fun entry =>
    (entry.1, entry.2.setAppliedIn bank false)

theorem mem_clearedEntries {id : PayloadId} {remaining : PayloadOwners} :
    (id, remaining) ∈ db.clearedEntries bank ↔ ∃ owners,
      db.payload.get (.owners id) = some owners ∧ owners.appliedIn bank = true ∧
        remaining = owners.setAppliedIn bank false := by
  simp only [clearedEntries, List.mem_map, List.mem_filter, Prod.exists, mem_scanOwners,
    Prod.mk.injEq]
  constructor
  · rintro ⟨other, owners, ⟨stored, owned⟩, rfl, rfl⟩
    exact ⟨owners, stored, owned, rfl⟩
  · rintro ⟨owners, stored, owned, rfl⟩
    exact ⟨id, owners, ⟨stored, owned⟩, rfl, rfl⟩

theorem clearStateBank_reads (db : GroupDb) (bank : StateBank) (key : PayloadKey) :
    (db.clearStateBank bank).payload.get key =
      Kv.pending db.payload.get (releaseOps (db.clearedEntries bank)) key := by
  have writes : ((scanOwners db.payload).filter fun entry => entry.2.appliedIn bank).flatMap
      (clearOwners bank) = releaseOps (db.clearedEntries bank) := by
    rw [releaseOps, clearedEntries, List.flatMap_map]
    rfl
  rw [clearStateBank, foldl_writeSync_payload, clearStateBankWrites_payload, writes,
    Kv.Store.get_commit]
  rfl

theorem clearStateBank_owned {id : PayloadId} {owners : PayloadOwners}
    (stored : db.payload.get (.owners id) = some owners) (owned : owners.appliedIn bank = true) :
    (db.clearStateBank bank).payload.get (.owners id) = (owners.setAppliedIn bank false).kept ∧
      (db.clearStateBank bank).payload.get (.bytes id) =
        (owners.setAppliedIn bank false).keptBytes (db.payload.get (.bytes id)) := by
  have cleared : (id, owners.setAppliedIn bank false) ∈ db.clearedEntries bank :=
    mem_clearedEntries.mpr ⟨owners, stored, owned, rfl⟩
  have agree : ∀ entry ∈ db.clearedEntries bank, entry.1 = id →
      entry.2 = owners.setAppliedIn bank false := by
    rintro ⟨other, remaining⟩ member same
    obtain ⟨found, otherStored, _, rest⟩ := mem_clearedEntries.mp member
    dsimp only at same
    rw [same, stored] at otherStored
    cases otherStored
    exact rest
  have reads := @release_reads db.payload.get _ _ _ agree
  rw [if_pos (List.mem_map.mpr ⟨_, cleared, rfl⟩), if_pos (List.mem_map.mpr ⟨_, cleared, rfl⟩)]
    at reads
  rw [clearStateBank_reads, clearStateBank_reads]
  exact reads

theorem clearStateBank_unowned {id : PayloadId}
    (unowned : ∀ owners, db.payload.get (.owners id) = some owners →
      owners.appliedIn bank = false) :
    (db.clearStateBank bank).payload.get (.owners id) = db.payload.get (.owners id) ∧
      (db.clearStateBank bank).payload.get (.bytes id) = db.payload.get (.bytes id) := by
  have absent : id ∉ (db.clearedEntries bank).map Prod.fst := by
    intro member
    obtain ⟨⟨other, remaining⟩, cleared, rfl⟩ := List.mem_map.mp member
    obtain ⟨owners, stored, owned, _⟩ := mem_clearedEntries.mp cleared
    rw [unowned owners stored] at owned
    simp at owned
  have agree : ∀ entry ∈ db.clearedEntries bank, entry.1 = id →
      entry.2 = PayloadOwners.default := by
    intro entry member same
    exact absurd (List.mem_map.mpr ⟨entry, member, same⟩) absent
  have reads := @release_reads db.payload.get _ _ _ agree
  rw [if_neg absent, if_neg absent] at reads
  rw [clearStateBank_reads, clearStateBank_reads]
  exact reads

def carried : List SnapshotRecord → List (PayloadId × Record)
  | [] => []
  | .state _ _ :: rest => carried rest
  | .payload id bytes :: rest => (id, bytes) :: carried rest

theorem carried_append (first second : List SnapshotRecord) :
    carried (first ++ second) = carried first ++ carried second := by
  induction first with
  | nil => rfl
  | cons record rest ih =>
      cases record with
      | state key value => exact ih
      | payload id bytes => exact congrArg (List.cons _) ih

theorem carried_records (artifact : SnapshotArtifact) :
    carried artifact.records = artifact.payloads := by
  have states (entries : List ((key : StateKey) × StateVal key)) :
      carried (entries.map fun entry => .state entry.1 entry.2) = [] := by
    induction entries with
    | nil => rfl
    | cons entry rest ih => exact ih
  have payloads (entries : List (PayloadId × Record)) :
      carried (entries.map fun payload => .payload payload.1 payload.2) = entries := by
    induction entries with
    | nil => rfl
    | cons entry rest ih => exact congrArg (List.cons _) ih
  rw [SnapshotArtifact.records, carried_append, states, payloads, List.nil_append]

theorem recordPayloadOps_owners (records : List SnapshotRecord) (id : PayloadId) :
    Kv.Batch.effect (records.flatMap (db.recordPayloadOps bank)) (.owners id) =
      if id ∈ (carried records).map Prod.fst then
        some (some (((db.payload.get (.owners id)).getD PayloadOwners.default).setAppliedIn bank
          true))
      else none := by
  induction records with
  | nil => rfl
  | cons record rest ih =>
      rw [List.flatMap_cons, Kv.Batch.effect_append, ih]
      cases record with
      | state key value => exact Option.or_none
      | payload other bytes =>
          have head : Kv.Batch.effect (db.recordPayloadOps bank (.payload other bytes))
              (.owners id) = if id = other then
                some (some (((db.payload.get (.owners id)).getD PayloadOwners.default).setAppliedIn
                  bank true)) else none := by
            by_cases same : id = other
            · subst same
              simp [recordPayloadOps, Kv.Op.effect]
            · simp [recordPayloadOps, Kv.Op.effect, same, Ne.symm same]
          rw [head, or_some_ite]
          simp only [carried, List.map_cons, List.mem_cons]

theorem recordPayloadOps_bytes {content : PayloadId → Record} {records : List SnapshotRecord}
    (bodies : ∀ payload ∈ carried records, payload.2 = content payload.1) (id : PayloadId) :
    Kv.Batch.effect (records.flatMap (db.recordPayloadOps bank)) (.bytes id) =
      if id ∈ (carried records).map Prod.fst then some (some (content id)) else none := by
  induction records with
  | nil => rfl
  | cons record rest ih =>
      rw [List.flatMap_cons, Kv.Batch.effect_append]
      cases record with
      | state key value =>
          rw [ih bodies]
          exact Option.or_none
      | payload other bytes =>
          have own : bytes = content other := bodies (other, bytes) (List.mem_cons_self ..)
          have head : Kv.Batch.effect (db.recordPayloadOps bank (.payload other bytes))
              (.bytes id) = if id = other then some (some (content id)) else none := by
            by_cases same : id = other
            · subst same
              simp [recordPayloadOps, Kv.Op.effect, own]
            · simp [recordPayloadOps, Kv.Op.effect, same, Ne.symm same]
          rw [ih fun payload member => bodies payload (List.mem_cons_of_mem _ member), head,
            or_some_ite]
          simp only [carried, List.map_cons, List.mem_cons]

theorem setAppliedIn_twice (owners : PayloadOwners) :
    (owners.setAppliedIn bank true).setAppliedIn bank true = owners.setAppliedIn bank true := by
  simp [PayloadOwners.setAppliedIn]

theorem foldl_installChunk_payload {content : PayloadId → Record}
    {chunks : List (List SnapshotRecord)}
    (bodies : ∀ payload ∈ carried chunks.flatten, payload.2 = content payload.1) (id : PayloadId) :
    (chunks.foldl (installChunk bank) db).payload.get (.owners id) =
        (if id ∈ (carried chunks.flatten).map Prod.fst then
          some (((db.payload.get (.owners id)).getD PayloadOwners.default).setAppliedIn bank true)
        else db.payload.get (.owners id)) ∧
      (chunks.foldl (installChunk bank) db).payload.get (.bytes id) =
        if id ∈ (carried chunks.flatten).map Prod.fst then some (content id)
        else db.payload.get (.bytes id) := by
  induction chunks generalizing db with
  | nil => exact ⟨rfl, rfl⟩
  | cons records rest ih =>
      rw [List.flatten_cons, carried_append] at bodies
      have first : ∀ payload ∈ carried records, payload.2 = content payload.1 :=
        fun payload member => bodies payload (List.mem_append_left _ member)
      obtain ⟨owners, bytes⟩ := @ih (installChunk bank db records) fun payload member =>
        bodies payload (List.mem_append_right _ member)
      have ownersRead : (installChunk bank db records).payload.get (.owners id) =
          if id ∈ (carried records).map Prod.fst then
            some (((db.payload.get (.owners id)).getD PayloadOwners.default).setAppliedIn bank true)
          else db.payload.get (.owners id) := by
        show (db.payload.commit _).get _ = _
        rw [Kv.Store.get_commit, recordPayloadOps_owners]
        split <;> rfl
      have bytesRead : (installChunk bank db records).payload.get (.bytes id) =
          if id ∈ (carried records).map Prod.fst then some (content id)
          else db.payload.get (.bytes id) := by
        show (db.payload.commit _).get _ = _
        rw [Kv.Store.get_commit, recordPayloadOps_bytes first]
        split <;> rfl
      rw [List.foldl_cons, owners, bytes, ownersRead, bytesRead]
      simp only [List.flatten_cons, carried_append, List.map_append, List.mem_append]
      by_cases early : id ∈ (carried records).map Prod.fst
      · simp only [early, if_true, true_or, Option.getD_some, setAppliedIn_twice, ite_self,
          and_self]
      · simp only [early, if_false, false_or, and_self]

theorem snapshotPayloads_ok {ids : List PayloadId} {payloads : List (PayloadId × Record)}
    (done : db.snapshotPayloads ids = .ok payloads) :
    payloads.map Prod.fst = ids ∧
      ∀ payload ∈ payloads, db.payload.get (.bytes payload.1) = some payload.2 := by
  induction ids generalizing payloads with
  | nil =>
      cases done
      exact ⟨rfl, by simp⟩
  | cons id rest ih =>
      rw [snapshotPayloads] at done
      split at done
      · simp at done
      rename_i bytes stored
      split at done
      · simp at done
      rename_i later collected
      cases done
      obtain ⟨keys, bodies⟩ := ih collected
      refine ⟨by rw [List.map_cons, keys], ?_⟩
      intro payload member
      rcases List.mem_cons.mp member with rfl | inRest
      · exact stored
      · exact bodies payload inRest

theorem buildSnapshot_payloads {artifact : SnapshotArtifact} {built : GroupDb}
    (done : db.buildSnapshot = .ok (artifact, built)) :
    (∀ id, id ∈ artifact.payloads.map Prod.fst ↔ ∃ owners,
      db.payload.get (.owners id) = some owners ∧ owners.appliedIn db.activeBank = true) ∧
    ∀ payload ∈ artifact.payloads, db.payload.get (.bytes payload.1) = some payload.2 := by
  unfold buildSnapshot at done
  dsimp only at done
  split at done
  · simp at done
  rename_i payloads collected
  cases done
  obtain ⟨keys, bodies⟩ := snapshotPayloads_ok collected
  refine ⟨?_, bodies⟩
  intro id
  rw [keys]
  simp only [List.mem_map, List.mem_filter, Prod.exists, mem_scanOwners, exists_and_right,
    exists_eq_right]

end Snapshot

end GroupDb

end LightStream
