import LightStream.Storage.Log

/-!
What appending to the log writes: the payloads of an entry, one for each record, all of them
owned by the log.
-/

namespace LightStream

theorem mem_payloadsFrom {logId : GroupLogId} {slot : Nat} {records : List Record}
    {id : PayloadId} {bytes : Record} :
    (id, bytes) ∈ payloadsFrom logId slot records ↔
      ∃ index, records[index]? = some bytes ∧ id = ⟨logId, slot + index⟩ := by
  simp only [payloadsFrom, List.mem_mapIdx, Prod.mk.injEq, List.getElem?_eq_some_iff]
  constructor
  · rintro ⟨index, bound, rfl, rfl⟩
    exact ⟨index, ⟨bound, rfl⟩, rfl⟩
  · rintro ⟨index, ⟨bound, rfl⟩, rfl⟩
    exact ⟨index, bound, rfl, rfl⟩

theorem mem_payloadsFrom_keys {logId : GroupLogId} {slot : Nat} {records : List Record}
    {id : PayloadId} :
    id ∈ (payloadsFrom logId slot records).map Prod.fst ↔
      ∃ index < records.length, id = ⟨logId, slot + index⟩ := by
  simp only [List.mem_map, Prod.exists, exists_and_right, exists_eq_right, mem_payloadsFrom]
  constructor
  · rintro ⟨bytes, index, found, same⟩
    exact ⟨index, (List.getElem?_eq_some_iff.mp found).1, same⟩
  · rintro ⟨index, bound, same⟩
    exact ⟨records[index], index, by simp [bound], same⟩

theorem thinEntry_logId {entry : GroupEntry} {id : PayloadId} {bytes : Record}
    (member : (id, bytes) ∈ (thinEntry entry).2) : id.logId = entry.logId := by
  unfold thinEntry thinCommand at member
  split at member
  · simp at member
  · simp at member
  · split at member
    · obtain ⟨_, _, rfl⟩ := mem_payloadsFrom.mp member
      rfl
    · simp only [List.mem_flatMap] at member
      obtain ⟨_, _, inside⟩ := member
      obtain ⟨_, _, rfl⟩ := mem_payloadsFrom.mp inside
      rfl
    · simp at member

theorem thinEntry_payloadKeys (entry : GroupEntry) :
    (thinEntry entry).1.payloadKeys = (thinEntry entry).2.map Prod.fst := by
  unfold thinEntry thinCommand ThinEntry.payloadKeys
  cases entry.payload with
  | blank => rfl
  | membership membership => rfl
  | normal command =>
      cases command with
      | publish batch => rfl
      | publishMany batch =>
          dsimp only
          rw [List.flatMap_map, List.map_flatMap]
          rfl
      | _ => rfl

namespace GroupDb

theorem flatMap_appendOps (entries : List GroupEntry) :
    ((entries.map thinEntry).flatMap fun entry => appendOps entry.2) =
      appendOps (entries.flatMap fun entry => (thinEntry entry).2) := by
  simp only [appendOps, List.flatMap_map, List.flatMap_assoc]

theorem effect_appendOps_owners (payloads : List (PayloadId × Record)) (id : PayloadId) :
    Kv.Batch.effect (appendOps payloads) (.owners id) =
      if id ∈ payloads.map Prod.fst then some (some raftOwned) else none := by
  induction payloads with
  | nil => rfl
  | cons payload rest ih =>
      have split : appendOps (payload :: rest) =
          [.put (.bytes payload.1) payload.2, .put (.owners payload.1) raftOwned] ++
            appendOps rest := rfl
      rw [split, Kv.Batch.effect_append, ih]
      by_cases later : id ∈ rest.map Prod.fst
      · simp only [later, if_true, List.map_cons, List.mem_cons, or_true]
        rfl
      · by_cases same : payload.1 = id
        · subst same
          simp [later, Kv.Op.effect]
        · simp [later, same, Ne.symm same, Kv.Op.effect]

theorem effect_appendOps_bytes_of_absent {payloads : List (PayloadId × Record)} {id : PayloadId}
    (absent : id ∉ payloads.map Prod.fst) :
    Kv.Batch.effect (appendOps payloads) (.bytes id) = none := by
  rw [Kv.Batch.effect_eq_none_iff]
  intro op member sameKey
  simp only [appendOps, List.mem_flatMap, List.mem_cons, List.not_mem_nil, or_false] at member
  obtain ⟨payload, inside, rfl | rfl⟩ := member
  · simp only [Kv.Op.key_put, PayloadKey.bytes.injEq] at sameKey
    exact absent (List.mem_map.mpr ⟨payload, inside, sameKey⟩)
  · simp at sameKey

theorem effect_appendOps_bytes {payloads : List (PayloadId × Record)} {id : PayloadId}
    {bytes : Record} (member : (id, bytes) ∈ payloads)
    (unique : ∀ other, (id, other) ∈ payloads → other = bytes) :
    Kv.Batch.effect (appendOps payloads) (.bytes id) = some (some bytes) := by
  induction payloads with
  | nil => simp at member
  | cons payload rest ih =>
      have split : appendOps (payload :: rest) =
          [.put (.bytes payload.1) payload.2, .put (.owners payload.1) raftOwned] ++
            appendOps rest := rfl
      rw [split, Kv.Batch.effect_append]
      by_cases later : id ∈ rest.map Prod.fst
      · obtain ⟨⟨_, other⟩, inside, rfl⟩ := List.mem_map.mp later
        have same := unique other (List.mem_cons_of_mem _ inside)
        subst same
        rw [ih inside fun another anotherMember => unique another
          (List.mem_cons_of_mem _ anotherMember)]
        rfl
      · rw [effect_appendOps_bytes_of_absent later]
        rcases List.mem_cons.mp member with rfl | inRest
        · simp [Kv.Op.effect]
        · exact absurd (List.mem_map.mpr ⟨_, inRest, rfl⟩) later

@[simp] theorem append_payload (db : GroupDb) (entries : List GroupEntry) :
    (db.append entries).payload =
      db.payload.commit (appendOps (entries.flatMap fun entry => (thinEntry entry).2)) := by
  rw [← flatMap_appendOps]
  rfl

theorem append_owned {db : GroupDb} {entry : GroupEntry} {id : PayloadId}
    (member : id ∈ (thinEntry entry).2.map Prod.fst) :
    (db.append [entry]).payload.get (.owners id) = some raftOwned := by
  rw [append_payload, Kv.Store.get_commit, effect_appendOps_owners, if_pos]
  · rfl
  · simpa using member

end GroupDb

theorem GroupDb.append_slots {db : GroupDb} {logId : GroupLogId} {batch : ReplicatedPublishBatch}
    {slot : Nat} {publish : PublishBatch}
    (member : (slot, publish) ∈ slottedRequests 0 batch.requests) {index : Nat}
    (bound : index < publish.records.length) :
    (db.append [⟨logId, .normal (.publishMany batch)⟩]).payload.get
      (.owners ⟨logId, slot + index⟩) = some GroupDb.raftOwned := by
  refine GroupDb.append_owned ?_
  rw [← thinEntry_payloadKeys]
  simp only [thinEntry, thinCommand, ThinEntry.payloadKeys, List.mem_flatMap, List.mem_map]
  exact ⟨_, ⟨_, member, rfl⟩, mem_payloadsFrom_keys.mpr ⟨index, bound, rfl⟩⟩

end LightStream
