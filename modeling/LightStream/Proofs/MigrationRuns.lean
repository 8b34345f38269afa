import LightStream.Proofs.Fetch
import LightStream.Storage.Migration

/-!
Schema migration over crashes.  A migration passes over the record keys in their order; what it has
passed over is the cursor, and the sums so far are the retention states, all written with the
records in one batch.  So a restart goes on where the last batch ended.
-/

namespace LightStream

abbrev RecordPlace := PartitionKey × Nat

def RecordPlace.key (place : RecordPlace) : StateKey := .record place.1 place.2

def RecordPlace.bytes (place : RecordPlace) : Kv.Bytes := recordKey place.1 place.2

def RecordPlace.Sized (place : RecordPlace) : Prop := place.1.Sized ∧ place.2 ≤ u64Max

section Keys

variable {first second place : RecordPlace} {rest : StateKey → Kv.Bytes}

theorem recordPrefixText_under (place : RecordPlace) : recordPrefixText <+: place.bytes := by
  rw [RecordPlace.bytes, recordKey, recordPrefix, List.append_assoc, List.append_assoc]
  exact List.prefix_append ..

theorem RecordPlace.bytes_inj (firstSized : first.Sized) (secondSized : second.Sized)
    (same : first.bytes = second.bytes) : first = second := by
  have under : recordPrefix second.1 <+: recordKey first.1 first.2 := by
    rw [show recordKey first.1 first.2 = second.bytes from same]
    exact List.prefix_append ..
  have partition := recordPrefix_partition secondSized.1 firstSized.1 under
  obtain ⟨firstPartition, firstOffset⟩ := first
  obtain ⟨secondPartition, secondOffset⟩ := second
  obtain rfl : firstPartition = secondPartition := partition
  have below := (recordKey_le_iff firstSized.2 secondSized.2).mp (le_of_eq same)
  have above := (recordKey_le_iff secondSized.2 firstSized.2).mp (le_of_eq same.symm)
  exact Prod.ext rfl (Nat.le_antisymm below above)

theorem RecordPlace.bytes_lt_iff (firstSized : first.Sized) (secondSized : second.Sized)
    (same : first.1 = second.1) : first.bytes < second.bytes ↔ first.2 < second.2 := by
  obtain ⟨partition, firstOffset⟩ := first
  obtain ⟨other, secondOffset⟩ := second
  obtain rfl : partition = other := same
  rw [← not_le, ← not_le, not_iff_not]
  exact recordKey_le_iff secondSized.2 firstSized.2

theorem partitionFromRecordKey_bytes (sized : place.1.Sized) :
    partitionFromRecordKey place.bytes = .ok place.1 := by
  obtain ⟨⟨⟨uuid⟩, partition⟩, offset⟩ := place
  have bytes : RecordPlace.bytes ⟨⟨⟨uuid⟩, partition⟩, offset⟩ =
      recordPrefixText ++ (Kv.bigEndian 16 uuid ++ (Kv.bigEndian 4 partition ++
        Kv.bigEndian 8 offset)) := by
    rw [RecordPlace.bytes, recordKey, recordPrefix, List.append_assoc, List.append_assoc]
    rfl
  have under := recordPrefixText_under ⟨⟨⟨uuid⟩, partition⟩, offset⟩
  unfold partitionFromRecordKey
  dsimp only
  rw [if_neg, bytes, List.drop_left, List.take_left' (Kv.bigEndian_length ..),
    ← List.drop_drop, List.drop_left, List.drop_left' (Kv.bigEndian_length ..),
    List.take_left' (Kv.bigEndian_length ..), Kv.fromBigEndian_bigEndian,
    Kv.fromBigEndian_bigEndian, Nat.mod_eq_of_lt sized.1, Nat.mod_eq_of_lt sized.2]
  rw [not_or]
  constructor
  · rw [bytes]
    simp only [List.length_append, Kv.bigEndian_length, not_not]
  · rw [List.isPrefixOf_iff_prefix.mpr under]
    simp

end Keys

/-! ### The batch -/

structure RecordKeys (db : GroupDb) (places : List RecordPlace) : Prop where
  sized : ∀ place ∈ places, place.Sized
  strict : places.Pairwise fun first second => first.bytes < second.bytes
  members : ∀ place : RecordPlace, place ∈ places ↔ (db.get place.key).isSome = true

theorem migrationBatchLoop_eq {rest : StateKey → Kv.Bytes} {cursor : Option Kv.Bytes} :
    ∀ (keys records : List StateKey), records.length < migrationBatchRecords →
      migrationBatchLoop rest cursor keys records =
        records ++ (((keys.takeWhile fun key => recordPrefixText.isPrefixOf (key.stored rest)).filter
          fun key => !cursor.any (fun cursor => decide (key.stored rest ≤ cursor))).take
            (migrationBatchRecords - records.length)) := by
  intro keys
  induction keys with
  | nil =>
      intro records _
      simp [migrationBatchLoop]
  | cons key keys ih =>
      intro records room
      rw [migrationBatchLoop]
      cases under : recordPrefixText.isPrefixOf (key.stored rest) with
      | false =>
          rw [if_pos rfl, List.takeWhile_cons_of_neg (by simp [under])]
          simp
      | true =>
          have goes : (key :: keys).takeWhile
              (fun key => recordPrefixText.isPrefixOf (key.stored rest)) =
                key :: keys.takeWhile fun key => recordPrefixText.isPrefixOf (key.stored rest) := by
            rw [List.takeWhile_cons, if_pos under]
          rw [if_neg (by simp), goes]
          split
          · rename_i behind
            rw [ih records room, List.filter_cons_of_neg (by simp [behind])]
          · rename_i ahead
            rw [List.filter_cons_of_pos (by simp [ahead]),
              show migrationBatchRecords - records.length =
                (migrationBatchRecords - records.length - 1) + 1 by omega, List.take_succ_cons]
            split
            · rename_i full
              rw [List.length_append, List.length_singleton] at full
              rw [show migrationBatchRecords - records.length - 1 = 0 by omega, List.take_zero]
            · rename_i more
              rw [List.length_append, List.length_singleton] at more
              rw [ih _ (by rw [List.length_append, List.length_singleton]; omega),
                List.append_assoc, List.singleton_append, List.length_append,
                List.length_singleton, Nat.sub_add_eq]

theorem migrationRecordBatch_next {rest : StateKey → Kv.Bytes} {store : MigratingDb}
    {passed others : List RecordPlace} (keys : RecordKeys store.db (passed ++ others))
    (cursor : store.schemaMigrationCursor = passed.getLast?.map RecordPlace.bytes) :
    store.migrationRecordBatch rest =
      (others.take migrationBatchRecords).map RecordPlace.key := by
  have bytes (place : RecordPlace) : place.key.stored rest = place.bytes := rfl
  have inKeys (key : StateKey) (places : List RecordPlace) :
      key ∈ places.map RecordPlace.key ↔ ∃ place ∈ places, place.key = key := List.mem_map
  have held (key : StateKey) : ((store.db.state.get key).isSome = true ∧
      recordPrefixText <+: key.stored rest) ↔ ∃ place ∈ passed ++ others, place.key = key := by
    constructor
    · rintro ⟨present, under⟩
      obtain ⟨partition, offset, rfl⟩ := stored_record under
      exact ⟨⟨partition, offset⟩, (keys.members _).mpr present, rfl⟩
    · rintro ⟨place, member, rfl⟩
      exact ⟨(keys.members place).mp member, recordPrefixText_under place⟩
  have below (place : RecordPlace) : recordPrefixText ≤ place.bytes :=
    Kv.prefix_le (recordPrefixText_under place)
  rw [MigratingDb.migrationRecordBatch, migrationBatchLoop_eq _ _ (by decide), cursor,
    List.nil_append, List.length_nil, Nat.sub_zero, List.map_take]
  congr 1
  cases last : passed.getLast? with
  | none =>
      obtain rfl : passed = [] := List.getLast?_eq_none_iff.mp last
      rw [List.nil_append] at keys held
      have taken := @Kv.Store.iterate_under _ _ store.db.state (StateKey.stored rest)
        recordPrefixText recordPrefixText List.prefix_rfl (others.map RecordPlace.key)
        (List.pairwise_map.mpr keys.strict) fun key => by
          rw [inKeys, ← held]
          constructor
          · rintro ⟨present, under⟩
            exact ⟨present, Kv.prefix_le under, under⟩
          · rintro ⟨present, _, under⟩
            exact ⟨present, under⟩
      simp only [Option.map_none, Option.getD_none, taken, Option.any_none, Bool.not_false,
        List.filter_true]
  | some place =>
      obtain ⟨before, rfl⟩ := List.getLast?_eq_some_iff.mp last
      have strict := keys.strict
      rw [List.append_assoc, List.singleton_append, List.pairwise_append] at strict
      obtain ⟨_, later, apart⟩ := strict
      have ahead := (List.pairwise_cons.mp later).1
      have taken := @Kv.Store.iterate_under _ _ store.db.state (StateKey.stored rest)
        place.bytes recordPrefixText (recordPrefixText_under place)
        ((place :: others).map RecordPlace.key) (List.pairwise_map.mpr later) fun key => by
          rw [inKeys]
          constructor
          · rintro ⟨other, member, rfl⟩
            have present : (store.db.state.get other.key).isSome = true := by
              refine (keys.members other).mp ?_
              rw [List.append_assoc, List.singleton_append]
              exact List.mem_append_right _ member
            refine ⟨present, ?_, recordPrefixText_under other⟩
            rcases List.mem_cons.mp member with rfl | behind
            · exact le_rfl
            · exact le_of_lt (ahead other behind)
          · rintro ⟨present, from', under⟩
            obtain ⟨other, member, rfl⟩ := (held key).mp ⟨present, under⟩
            rw [List.append_assoc, List.singleton_append] at member
            rcases List.mem_append.mp member with earlier | inside
            · have above := apart other earlier place (List.mem_cons_self ..)
              exact absurd from' (not_le.mpr above)
            · exact ⟨other, inside, rfl⟩
      simp only [Option.map_some, Option.getD_some, taken, Option.any_some]
      rw [List.map_cons, List.filter_cons_of_neg (by simp [bytes]), List.filter_eq_self]
      intro key member
      obtain ⟨other, behind, rfl⟩ := (inKeys key others).mp member
      rw [Bool.not_eq_true', decide_eq_false_iff_not, not_le]
      exact ahead other behind

/-! ### The sums -/

def bytesAt (size : RecordPlace → Nat) (places : List RecordPlace) (partition : PartitionKey) :
    Nat :=
  ((places.filter fun place => place.1 = partition).map size).sum

section Sums

variable {size : RecordPlace → Nat} {partition : PartitionKey} {passed others : List RecordPlace}
  {place : RecordPlace}

theorem bytesAt_append : bytesAt size (passed ++ others) partition =
    bytesAt size passed partition + bytesAt size others partition := by
  rw [bytesAt, List.filter_append, List.map_append, List.sum_append]
  rfl

theorem bytesAt_singleton : bytesAt size [place] partition =
    if place.1 = partition then size place else 0 := by
  rw [bytesAt]
  split
  · rename_i own
    simp [own]
  · rename_i other
    simp [other]

theorem bytesAt_absent (absent : partition ∉ passed.map Prod.fst) :
    bytesAt size passed partition = 0 := by
  have none : passed.filter (fun place => place.1 = partition) = [] := by
    rw [List.filter_eq_nil_iff]
    intro place member own
    exact absent (List.mem_map.mpr ⟨place, member, by simpa using own⟩)
  rw [bytesAt, none]
  rfl

end Sums

namespace GroupDb

def payloadLength (db : GroupDb) (place : RecordPlace) : Nat :=
  match db.get (.record place.1 place.2) with
  | some record => ((db.payload.get (.bytes record.payloadKey)).getD []).length
  | none => 0

def recordOffsets (db : GroupDb) (partition : PartitionKey) : List Nat :=
  db.state.scan fun key =>
    match key with
    | .record own offset => if own = partition then some offset else none
    | _ => none

def runningBytes (db : GroupDb) (partition : PartitionKey) (offset : Nat) : Nat :=
  (((db.recordOffsets partition).filter fun other => other ≤ offset).map fun other =>
    db.payloadLength (partition, other)).sum

def totalBytes (db : GroupDb) (partition : PartitionKey) : Nat :=
  ((db.recordOffsets partition).map fun other => db.payloadLength (partition, other)).sum

variable {db : GroupDb} {partition : PartitionKey} {places : List RecordPlace}

theorem mem_recordOffsets {offset : Nat} : offset ∈ db.recordOffsets partition ↔
    (db.get (.record partition offset)).isSome = true := by
  rw [recordOffsets, Kv.Store.mem_scan]
  constructor
  · rintro ⟨key, present, found⟩
    split at found
    · rename_i own other
      rw [Option.ite_none_right_eq_some] at found
      obtain ⟨rfl, same⟩ := found
      cases same
      exact present
    · simp at found
  · intro present
    exact ⟨.record partition offset, present, by simp⟩

theorem recordOffsets_nodup : (db.recordOffsets partition).Nodup := by
  refine Kv.Store.scan_nodup fun first second entry firstIndex secondIndex => ?_
  split at firstIndex
  · split at secondIndex
    · rw [Option.ite_none_right_eq_some] at firstIndex secondIndex
      obtain ⟨rfl, firstSame⟩ := firstIndex
      obtain ⟨rfl, secondSame⟩ := secondIndex
      cases firstSame
      cases secondSame
      rfl
    · simp at secondIndex
  · simp at firstIndex

theorem bytesAt_offsets {offsets : List Nat} (distinct : places.Nodup) (nodup : offsets.Nodup)
    (same : ∀ offset, offset ∈ offsets ↔ (partition, offset) ∈ places) :
    bytesAt db.payloadLength places partition =
      (offsets.map fun other => db.payloadLength (partition, other)).sum := by
  have perm : (places.filter fun place => place.1 = partition).Perm
      (offsets.map fun other => (partition, other)) := by
    refine (List.perm_ext_iff_of_nodup (distinct.filter _) (nodup.map fun _ _ equal => ?_)).mpr
      fun place => ?_
    · simpa using equal
    · obtain ⟨own, offset⟩ := place
      simp only [List.mem_filter, List.mem_map, Prod.mk.injEq, decide_eq_true_eq]
      constructor
      · rintro ⟨member, rfl⟩
        exact ⟨offset, (same offset).mpr member, rfl, rfl⟩
      · rintro ⟨other, member, rfl, rfl⟩
        exact ⟨(same other).mp member, rfl⟩
  rw [bytesAt, (perm.map _).sum_eq, List.map_map]
  rfl

end GroupDb

theorem RecordKeys.nodup {db : GroupDb} {places : List RecordPlace} (keys : RecordKeys db places) :
    places.Nodup := by
  refine keys.strict.imp fun below same => ?_
  rw [same] at below
  exact lt_irrefl _ below

theorem RecordKeys.total {db : GroupDb} {places : List RecordPlace} (keys : RecordKeys db places)
    (partition : PartitionKey) :
    bytesAt db.payloadLength places partition = db.totalBytes partition := by
  refine GroupDb.bytesAt_offsets keys.nodup GroupDb.recordOffsets_nodup fun offset => ?_
  rw [GroupDb.mem_recordOffsets, keys.members]
  rfl

theorem RecordKeys.running {db : GroupDb} {passed later : List RecordPlace} {place : RecordPlace}
    (keys : RecordKeys db (passed ++ place :: later)) :
    bytesAt db.payloadLength (passed ++ [place]) place.1 = db.runningBytes place.1 place.2 := by
  have nodup := keys.nodup
  obtain ⟨_, ordered, apart⟩ := List.pairwise_append.mp keys.strict
  have ahead := (List.pairwise_cons.mp ordered).1
  have here := keys.sized place (by simp)
  refine GroupDb.bytesAt_offsets ?_ (GroupDb.recordOffsets_nodup.filter _) fun offset => ?_
  · exact nodup.sublist ((List.singleton_sublist.mpr (List.mem_cons_self ..)).append_left _)
  · have listed := keys.members (place.1, offset)
    rw [List.mem_filter, GroupDb.mem_recordOffsets, decide_eq_true_eq]
    rw [RecordPlace.key] at listed
    dsimp only at listed
    rw [← listed, List.mem_append, List.mem_append, List.mem_cons, List.mem_singleton]
    constructor
    · rintro ⟨earlier | same | behind, below⟩
      · exact .inl earlier
      · exact .inr same
      · have other := keys.sized _ (List.mem_append_right _ (List.mem_cons_of_mem _ behind))
        have above := (RecordPlace.bytes_lt_iff here other rfl).mp (ahead _ behind)
        dsimp only at above
        omega
    · rintro (earlier | same)
      · have other := keys.sized _ (List.mem_append_left _ earlier)
        have below := (RecordPlace.bytes_lt_iff other here rfl).mp
          (apart _ earlier place (List.mem_cons_self ..))
        exact ⟨.inl earlier, Nat.le_of_lt below⟩
      · exact ⟨.inr (.inl same), by rw [← same]⟩

/-! ### One batch -/

section Lookup

variable {partition other : PartitionKey} {retention : PartitionRetentionState}

theorem lookup_putRetention (partitions : List (PartitionKey × PartitionRetentionState)) :
    lookupRetention other (putRetention partition retention partitions) =
      if other = partition then some retention else lookupRetention other partitions := by
  induction partitions with
  | nil =>
      by_cases same : other = partition
      · simp [putRetention, lookupRetention, same]
      · simp [putRetention, lookupRetention, same, Ne.symm same]
  | cons entry rest ih =>
      obtain ⟨candidate, held⟩ := entry
      rw [putRetention]
      unfold lookupRetention at ih ⊢
      by_cases own : candidate = partition
      · subst own
        rw [if_pos rfl, List.find?_cons, List.find?_cons]
        by_cases same : other = candidate
        · simp [same]
        · simp [same, Ne.symm same]
      · rw [if_neg own, List.find?_cons, List.find?_cons]
        by_cases same : candidate = other
        · subst same
          simp [own]
        · simp only [same, decide_false]
          exact ih

theorem putRetention_keys {partitions : List (PartitionKey × PartitionRetentionState)} :
    other ∈ (putRetention partition retention partitions).map Prod.fst ↔
      other = partition ∨ other ∈ partitions.map Prod.fst := by
  induction partitions with
  | nil => simp [putRetention]
  | cons entry rest ih =>
      obtain ⟨candidate, held⟩ := entry
      rw [putRetention]
      split
      · rename_i own
        subst own
        simp
      · rw [List.map_cons, List.mem_cons, ih, List.map_cons, List.mem_cons]
        tauto

theorem putRetention_nodup {partitions : List (PartitionKey × PartitionRetentionState)}
    (nodup : (partitions.map Prod.fst).Nodup) :
    ((putRetention partition retention partitions).map Prod.fst).Nodup := by
  induction partitions with
  | nil => simp [putRetention]
  | cons entry rest ih =>
      obtain ⟨candidate, held⟩ := entry
      obtain ⟨fresh, nodup⟩ := List.nodup_cons.mp nodup
      rw [putRetention]
      split
      · exact List.nodup_cons.mpr ⟨fresh, nodup⟩
      · rename_i other
        refine List.nodup_cons.mpr ⟨?_, ih nodup⟩
        rw [putRetention_keys, not_or]
        exact ⟨other, fresh⟩

end Lookup

namespace GroupDb

def migratedRecord (db : GroupDb) (place : RecordPlace) : Option StoredRecord :=
  (db.get (.record place.1 place.2)).map fun record =>
    { record with
      payloadBytes := db.payloadLength place
      cumulativeEndBytes := db.runningBytes place.1 place.2 }

def migratedRetention (db : GroupDb) (places : List RecordPlace) (partition : PartitionKey) :
    PartitionRetentionState :=
  { db.view.retentionOf partition with
    nextBytePosition := bytesAt db.payloadLength places partition }

def migratedRows (db : GroupDb) (places : List RecordPlace) :
    List ((key : StateKey) × StateVal key) :=
  places.filterMap fun place =>
    (db.migratedRecord place).map fun record => ⟨.record place.1 place.2, record⟩

end GroupDb

/-- A store of the first schema: no record has a size yet, or has it right, and no partition a byte
position; its byte counts fit their type. -/
structure LegacyDb (store : MigratingDb) : Prop where
  schema : store.schemaVersion.getD legacySchemaVersion = legacySchemaVersion
  cursor : store.schemaMigrationCursor = none
  sized : ∀ partition offset, (store.db.get (.record partition offset)).isSome = true →
    partition.Sized ∧ offset ≤ u64Max
  payloads : ∀ partition offset (record : StoredRecord),
    store.db.get (.record partition offset) = some record →
    ∃ body, store.db.payload.get (.bytes record.payloadKey) = some body ∧
      (record.payloadBytes = 0 ∨ record.payloadBytes = body.length)
  positions : ∀ partition, (store.db.view.retentionOf partition).nextBytePosition = 0
  bounded : ∀ partition, store.db.totalBytes partition ≤ u64Max

structure Progressed (start store : MigratingDb) (passed : List RecordPlace) : Prop where
  schema : store.schemaVersion = start.schemaVersion
  cursor : store.schemaMigrationCursor = passed.getLast?.map RecordPlace.bytes
  payload : store.db.payload = start.db.payload
  migrated : ∀ place ∈ passed,
    store.db.get (.record place.1 place.2) = start.db.migratedRecord place
  left : ∀ place ∉ passed,
    store.db.get (.record place.1 place.2) = start.db.get (.record place.1 place.2)
  retention : ∀ partition, store.db.get (.retention partition) =
    if partition ∈ passed.map Prod.fst then some (start.db.migratedRetention passed partition)
    else start.db.get (.retention partition)
  others : ∀ key : StateKey, key.family ∉ [StateFamily.record, .retention] →
    store.db.get key = start.db.get key

theorem Progressed.retentionOf {start store : MigratingDb} {passed : List RecordPlace}
    (legacy : LegacyDb start) (progressed : Progressed start store passed)
    (partition : PartitionKey) :
    store.db.view.retentionOf partition = start.db.migratedRetention passed partition := by
  have read := progressed.retention partition
  have position := legacy.positions partition
  rw [GroupView.retentionOf, GroupDb.view_get, read]
  split
  · rfl
  · rename_i absent
    rw [GroupDb.migratedRetention, bytesAt_absent absent, ← position]
    rfl

structure Gathered (start : GroupDb) (passed taken : List RecordPlace) (batch : MigrationBatch) :
    Prop where
  partitions : ∀ partition, lookupRetention partition batch.partitions =
    if partition ∈ taken.map Prod.fst then
      some (start.migratedRetention (passed ++ taken) partition)
    else none
  distinct : (batch.partitions.map Prod.fst).Nodup
  write : batch.write = Kv.loads (start.migratedRows taken)
  lastKey : batch.lastKey = taken.getLast?.map RecordPlace.bytes

theorem migrateRecord_gathers {start store : MigratingDb} {passed taken later : List RecordPlace}
    {place : RecordPlace} {batch : MigrationBatch} {rest : StateKey → Kv.Bytes}
    (legacy : LegacyDb start) (keys : RecordKeys start.db (passed ++ taken ++ place :: later))
    (progressed : Progressed start store passed)
    (gathered : Gathered start.db passed taken batch) :
    ∃ next, store.db.migrateRecord rest batch place.key = .ok next ∧
      Gathered start.db passed (taken ++ [place]) next := by
  have inside : place ∈ passed ++ taken ++ place :: later := by simp
  have here := keys.sized place inside
  have fresh : place ∉ passed := by
    have nodup := keys.nodup
    rw [List.append_assoc] at nodup
    intro before
    exact (List.nodup_append.mp nodup).2.2 place before place (by simp) rfl
  obtain ⟨record, found⟩ := Option.isSome_iff_exists.mp ((keys.members place).mp inside)
  have found : start.db.get (.record place.1 place.2) = some record := found
  obtain ⟨body, payload, known⟩ := legacy.payloads _ _ record found
  have length : start.db.payloadLength place = body.length := by
    rw [GroupDb.payloadLength, found]
    dsimp only
    rw [payload, Option.getD_some]
  have bytes : store.db.migratedBytes record = .ok (start.db.payloadLength place) := by
    unfold GroupDb.migratedBytes
    rw [progressed.payload, length]
    split
    · rw [payload]
    · rename_i some
      rw [known.resolve_left some]
  -- the position behind the record is the sum so far
  have sum : bytesAt start.db.payloadLength (passed ++ taken) place.1 +
      start.db.payloadLength place = start.db.runningBytes place.1 place.2 := by
    rw [← keys.running, @bytesAt_append _ _ (passed ++ taken) [place], bytesAt_singleton,
      if_pos rfl]
  have fits : start.db.runningBytes place.1 place.2 ≤ u64Max := by
    refine le_trans ?_ (legacy.bounded place.1)
    rw [← keys.total, ← keys.running,
      show passed ++ taken ++ place :: later = passed ++ taken ++ [place] ++ later by simp,
      @bytesAt_append _ _ (passed ++ taken ++ [place]) later]
    exact Nat.le_add_right ..
  have held : (lookupRetention place.1 batch.partitions).getD
      (store.db.view.retentionOf place.1) =
        start.db.migratedRetention (passed ++ taken) place.1 := by
    rw [gathered.partitions]
    split
    · rfl
    · rename_i absent
      rw [Option.getD_none, progressed.retentionOf legacy, GroupDb.migratedRetention,
        GroupDb.migratedRetention, bytesAt_append, bytesAt_absent absent, Nat.add_zero]
  have added : checkedAdd (start.db.migratedRetention (passed ++ taken) place.1).nextBytePosition
      (start.db.payloadLength place) = some (start.db.runningBytes place.1 place.2) := by
    rw [checkedAdd_some]
    exact ⟨sum, fits⟩
  have read : store.db.get (.record place.1 place.2) = some record := by
    rw [progressed.left place fresh, found]
  have written : start.db.migratedRecord place = some { record with
      payloadBytes := start.db.payloadLength place
      cumulativeEndBytes := start.db.runningBytes place.1 place.2 } := by
    rw [GroupDb.migratedRecord, found]
    rfl
  have parsed : partitionFromRecordKey (place.key.stored rest) = .ok place.1 :=
    partitionFromRecordKey_bytes here.1
  have result : store.db.migrateRecord rest batch place.key = .ok
      ⟨putRetention place.1 { start.db.migratedRetention (passed ++ taken) place.1 with
            nextBytePosition := start.db.runningBytes place.1 place.2 } batch.partitions,
        batch.write ++ [.put (.record place.1 place.2) { record with
          payloadBytes := start.db.payloadLength place
          cumulativeEndBytes := start.db.runningBytes place.1 place.2 }],
        some (place.key.stored rest)⟩ := by
    unfold GroupDb.migrateRecord
    rw [parsed]
    dsimp only [RecordPlace.key]
    rw [read]
    dsimp only
    rw [bytes]
    dsimp only
    rw [held, added]
  refine ⟨_, result, ?_⟩
  constructor
  · intro partition
    dsimp only
    rw [lookup_putRetention, ← List.append_assoc]
    by_cases own : partition = place.1
    · subst own
      rw [if_pos rfl, if_pos (by simp), GroupDb.migratedRetention, GroupDb.migratedRetention,
        keys.running]
    · have outside : partition ∉ [place].map Prod.fst := by simpa using own
      rw [if_neg own, gathered.partitions]
      by_cases earlier : partition ∈ taken.map Prod.fst
      · rw [if_pos earlier, if_pos (by rw [List.map_append]; exact List.mem_append_left _ earlier),
          GroupDb.migratedRetention, GroupDb.migratedRetention,
          @bytesAt_append _ _ (passed ++ taken) [place], bytesAt_absent outside, Nat.add_zero]
      · rw [if_neg earlier, if_neg (by
          rw [List.map_append, List.mem_append, not_or]
          exact ⟨earlier, outside⟩)]
  · exact putRetention_nodup gathered.distinct
  · dsimp only
    rw [gathered.write, GroupDb.migratedRows, GroupDb.migratedRows, List.filterMap_append,
      Kv.loads, Kv.loads, List.map_append, List.filterMap_cons, written]
    rfl
  · dsimp only
    rw [List.getLast?_concat]
    rfl

theorem migrateRecords_gathers {start store : MigratingDb} {rest : StateKey → Kv.Bytes}
    (legacy : LegacyDb start) {passed : List RecordPlace}
    (progressed : Progressed start store passed) :
    ∀ {places taken later : List RecordPlace} {batch : MigrationBatch},
      RecordKeys start.db (passed ++ taken ++ (places ++ later)) →
      Gathered start.db passed taken batch →
      ∃ next, store.db.migrateRecords rest (places.map RecordPlace.key) batch = .ok next ∧
        Gathered start.db passed (taken ++ places) next := by
  intro places
  induction places with
  | nil =>
      intro taken later batch _ gathered
      rw [List.append_nil]
      exact ⟨batch, rfl, gathered⟩
  | cons place places ih =>
      intro taken later batch keys gathered
      obtain ⟨middle, one, first⟩ := migrateRecord_gathers legacy keys progressed gathered
      have shifted : passed ++ taken ++ (place :: places ++ later) =
          passed ++ (taken ++ [place]) ++ (places ++ later) := by simp
      rw [shifted] at keys
      obtain ⟨next, done, all⟩ := ih keys first
      rw [List.append_assoc, List.singleton_append] at all
      refine ⟨next, ?_, all⟩
      rw [List.map_cons, GroupDb.migrateRecords, one]
      exact done

theorem lookupRetention_mem {partition : PartitionKey} {retention : PartitionRetentionState}
    {partitions : List (PartitionKey × PartitionRetentionState)}
    (nodup : (partitions.map Prod.fst).Nodup) :
    lookupRetention partition partitions = some retention ↔
      (partition, retention) ∈ partitions := by
  unfold lookupRetention
  induction partitions with
  | nil => simp
  | cons entry rest ih =>
      obtain ⟨candidate, held⟩ := entry
      obtain ⟨fresh, nodup⟩ := List.nodup_cons.mp nodup
      rw [List.find?_cons]
      by_cases same : candidate = partition
      · subst same
        have outside : (candidate, retention) ∉ rest := fun member =>
          fresh (List.mem_map.mpr ⟨_, member, rfl⟩)
        simp [outside, eq_comm]
      · simp only [same, decide_false]
        rw [ih nodup, List.mem_cons, Prod.mk.injEq]
        constructor
        · exact .inr
        · rintro (⟨rfl, _⟩ | later)
          · exact absurd rfl same
          · exact later

theorem mem_migratedRows {start : GroupDb} {places : List RecordPlace} {key : StateKey}
    {value : StateVal key} : ⟨key, value⟩ ∈ start.migratedRows places ↔
      ∃ place ∈ places, ∃ record, start.migratedRecord place = some record ∧
        (⟨.record place.1 place.2, record⟩ : (key : StateKey) × StateVal key) = ⟨key, value⟩ := by
  simp only [GroupDb.migratedRows, List.mem_filterMap, Option.map_eq_some_iff]

section Step

variable {start store : MigratingDb} {passed taken others : List RecordPlace}
  {batch : MigrationBatch} {rest : StateKey → Kv.Bytes}

def batchRows (start : GroupDb) (taken : List RecordPlace) (batch : MigrationBatch) :
    List ((key : StateKey) × StateVal key) :=
  start.migratedRows taken ++ batch.partitions.map fun entry => ⟨.retention entry.1, entry.2⟩

theorem batchRows_record {place : RecordPlace} (member : place ∈ taken)
    (present : (start.db.get (.record place.1 place.2)).isSome = true) :
    Kv.Batch.effect (Kv.loads (batchRows start.db taken batch)) (.record place.1 place.2) =
      some (start.db.migratedRecord place) := by
  obtain ⟨record, found⟩ := Option.isSome_iff_exists.mp present
  have migrated : start.db.migratedRecord place = some { record with
      payloadBytes := start.db.payloadLength place
      cumulativeEndBytes := start.db.runningBytes place.1 place.2 } := by
    rw [GroupDb.migratedRecord, found]
    rfl
  rw [migrated]
  refine Kv.effect_loads_of_mem (List.mem_append_left _
    (mem_migratedRows.mpr ⟨place, member, _, migrated, rfl⟩)) fun value inside => ?_
  rcases List.mem_append.mp inside with row | row
  · obtain ⟨⟨own, offset⟩, _, other, stored, same⟩ := mem_migratedRows.mp row
    simp only [Sigma.mk.injEq, StateKey.record.injEq] at same
    obtain ⟨⟨rfl, rfl⟩, same⟩ := same
    rw [← eq_of_heq same]
    exact Option.some.inj (stored.symm.trans migrated)
  · obtain ⟨entry, _, same⟩ := List.mem_map.mp row
    simp at same

theorem batchRows_other_record {place : RecordPlace} (outside : place ∉ taken) :
    Kv.Batch.effect (Kv.loads (batchRows start.db taken batch)) (.record place.1 place.2) = none := by
  refine Kv.effect_loads_of_absent fun value inside => ?_
  rcases List.mem_append.mp inside with row | row
  · obtain ⟨⟨own, offset⟩, member, other, _, same⟩ := mem_migratedRows.mp row
    simp only [Sigma.mk.injEq, StateKey.record.injEq] at same
    obtain ⟨⟨rfl, rfl⟩, _⟩ := same
    exact outside member
  · obtain ⟨entry, _, same⟩ := List.mem_map.mp row
    simp at same

theorem batchRows_retention (gathered : Gathered start.db passed taken batch)
    (partition : PartitionKey) :
    Kv.Batch.effect (Kv.loads (batchRows start.db taken batch)) (.retention partition) =
      if partition ∈ taken.map Prod.fst then
        some (some (start.db.migratedRetention (passed ++ taken) partition))
      else none := by
  have held := gathered.partitions partition
  have only {value : PartitionRetentionState} (inside :
      (⟨.retention partition, value⟩ : (key : StateKey) × StateVal key) ∈
        batchRows start.db taken batch) : lookupRetention partition batch.partitions = some value := by
    rcases List.mem_append.mp inside with row | row
    · obtain ⟨place, _, other, _, same⟩ := mem_migratedRows.mp row
      simp at same
    · obtain ⟨⟨own, retention⟩, member, same⟩ := List.mem_map.mp row
      simp only [Sigma.mk.injEq, StateKey.retention.injEq] at same
      obtain ⟨rfl, same⟩ := same
      rw [← eq_of_heq same]
      exact (lookupRetention_mem gathered.distinct).mpr member
  split
  · rename_i taken'
    rw [if_pos taken'] at held
    refine Kv.effect_loads_of_mem (List.mem_append_right _ (List.mem_map.mpr
      ⟨_, (lookupRetention_mem gathered.distinct).mp held, rfl⟩)) fun value inside => ?_
    exact Option.some.inj ((only inside).symm.trans held)
  · rename_i left
    rw [if_neg left] at held
    refine Kv.effect_loads_of_absent fun value inside => ?_
    have found := only inside
    rw [held] at found
    simp at found

theorem batchRows_elsewhere {key : StateKey}
    (outside : key.family ∉ [StateFamily.record, .retention]) :
    Kv.Batch.effect (Kv.loads (batchRows start.db taken batch)) key = none := by
  refine Kv.effect_loads_of_absent fun value inside => ?_
  rcases List.mem_append.mp inside with row | row
  · obtain ⟨place, _, other, _, same⟩ := mem_migratedRows.mp row
    cases same
    simp [StateKey.family] at outside
  · obtain ⟨entry, _, same⟩ := List.mem_map.mp row
    cases same
    simp [StateKey.family] at outside

theorem Progressed.keys (progressed : Progressed start store passed)
    (keys : RecordKeys start.db (passed ++ others)) : RecordKeys store.db (passed ++ others) := by
  refine ⟨keys.sized, keys.strict, fun place => ?_⟩
  have present : (store.db.get (.record place.1 place.2)).isSome =
      (start.db.get (.record place.1 place.2)).isSome := by
    by_cases before : place ∈ passed
    · rw [progressed.migrated place before, GroupDb.migratedRecord, Option.isSome_map]
    · rw [progressed.left place before]
  have listed := keys.members place
  rw [RecordPlace.key] at listed ⊢
  rw [listed, present]

theorem migrateStep_progress (legacy : LegacyDb start) (progressed : Progressed start store passed)
    (keys : RecordKeys start.db (passed ++ others)) :
    (others = [] → store.migrateStep rest = .ok ({ store with
      schemaVersion := some currentSchemaVersion
      schemaMigrationCursor := none }, true)) ∧
    (others ≠ [] → ∃ next, store.migrateStep rest = .ok (next, false) ∧
      Progressed start next (passed ++ others.take migrationBatchRecords)) := by
  have batch := @migrationRecordBatch_next rest store passed others (progressed.keys keys)
    progressed.cursor
  constructor
  · rintro rfl
    rw [MigratingDb.migrateStep, batch]
    rfl
  · intro some
    have nonempty : others.take migrationBatchRecords ≠ [] := by
      intro none
      rcases List.take_eq_nil_iff.mp none with zero | empty
      · simp [migrationBatchRecords] at zero
      · exact some empty
    have whole : passed ++ [] ++ (others.take migrationBatchRecords ++
        others.drop migrationBatchRecords) = passed ++ others := by
      rw [List.append_nil, List.take_append_drop]
    rw [← whole] at keys
    have begun : Gathered start.db passed [] ⟨[], [], none⟩ := by
      refine ⟨fun partition => ?_, List.nodup_nil, rfl, rfl⟩
      simp [lookupRetention]
    obtain ⟨gathered, done, all⟩ := @migrateRecords_gathers start store rest legacy passed
      progressed _ _ _ _ keys begun
    rw [List.nil_append] at all
    generalize others.take migrationBatchRecords = taken at *
    have written : gathered.write ++ gathered.partitions.map (fun entry =>
        (.put (.retention entry.1) entry.2 : Kv.Op StateKey StateVal)) =
          Kv.loads (batchRows start.db taken gathered) := by
      rw [all.write, batchRows, Kv.loads, Kv.loads, List.map_append, List.map_map]
      rfl
    refine ⟨{ store with
      schemaMigrationCursor := gathered.lastKey
      db := store.db.commit ⟨gathered.write ++ gathered.partitions.map fun entry =>
        .put (.retention entry.1) entry.2, []⟩ }, ?_, ?_⟩
    · rw [MigratingDb.migrateStep, batch, if_neg (by simpa using nonempty), done]
    · have read (key : StateKey) : (store.db.commit ⟨gathered.write ++ gathered.partitions.map
          fun entry => .put (.retention entry.1) entry.2, []⟩).get key =
          (Kv.Batch.effect (Kv.loads (batchRows start.db taken gathered)) key).getD
            (store.db.get key) := by
        rw [GroupDb.get_commit, written]
      constructor
      · exact progressed.schema
      · dsimp only
        rw [all.lastKey, List.getLast?_append_of_ne_nil _ nonempty]
      · exact progressed.payload
      · intro place member
        rw [read]
        by_cases now : place ∈ taken
        · rw [batchRows_record now ((keys.members place).mp (by simp [now]))]
          rfl
        · rw [batchRows_other_record now]
          exact progressed.migrated place ((List.mem_append.mp member).resolve_right now)
      · intro place outside
        rw [List.mem_append, not_or] at outside
        rw [read, batchRows_other_record outside.2]
        exact progressed.left place outside.1
      · intro partition
        rw [read, batchRows_retention all, List.map_append]
        by_cases now : partition ∈ taken.map Prod.fst
        · rw [if_pos now, if_pos (List.mem_append_right _ now)]
          rfl
        · have same : start.db.migratedRetention (passed ++ taken) partition =
              start.db.migratedRetention passed partition := by
            rw [GroupDb.migratedRetention, GroupDb.migratedRetention, bytesAt_append,
              bytesAt_absent now, Nat.add_zero]
          rw [if_neg now, Option.getD_none, progressed.retention, same]
          by_cases before : partition ∈ passed.map Prod.fst
          · rw [if_pos before, if_pos (List.mem_append_left _ before)]
          · rw [if_neg before, if_neg (by
              rw [List.mem_append, not_or]
              exact ⟨before, now⟩)]
      · intro key outside
        rw [read, batchRows_elsewhere outside]
        exact progressed.others key outside

end Step

/-! ### The whole migration -/

structure Migrated (start final : MigratingDb) : Prop where
  schema : final.schemaVersion = some currentSchemaVersion
  cursor : final.schemaMigrationCursor = none
  records : ∀ partition offset (record : StoredRecord),
    start.db.get (.record partition offset) = some record →
    final.db.get (.record partition offset) = some { record with
      payloadBytes := start.db.payloadLength (partition, offset)
      cumulativeEndBytes := start.db.runningBytes partition offset }
  absent : ∀ partition offset, start.db.get (.record partition offset) = none →
    final.db.get (.record partition offset) = none
  positions : ∀ partition, final.db.view.retentionOf partition =
    { start.db.view.retentionOf partition with
      nextBytePosition := start.db.totalBytes partition }
  untouched : ∀ partition, (∀ offset, start.db.get (.record partition offset) = none) →
    final.db.get (.retention partition) = start.db.get (.retention partition)
  others : ∀ key : StateKey, key.family ∉ [StateFamily.record, .retention] →
    final.db.get key = start.db.get key
  payload : final.db.payload = start.db.payload

/-- The states of a store that is migrated by one run after another, each broken off behind some
of its write batches. -/
inductive Crashed (rest : StateKey → Kv.Bytes) (start : MigratingDb) : MigratingDb → Prop
  | untouched : Crashed rest start start
  | written {store next : MigratingDb} {returned : Bool} (crashed : Crashed rest start store)
      (running : store.schemaVersion.getD legacySchemaVersion = legacySchemaVersion)
      (step : store.migrateStep rest = .ok (next, returned)) : Crashed rest start next

section Runs

variable {start store final : MigratingDb} {passed others places : List RecordPlace}
  {rest : StateKey → Kv.Bytes}

theorem LegacyDb.keys (legacy : LegacyDb start) : ∃ places, RecordKeys start.db places := by
  let places : List RecordPlace := (start.db.state.keys.filterMap fun key =>
    match key with
    | .record partition offset => some (partition, offset)
    | _ => none).insertionSort fun first second => first.bytes ≤ second.bytes
  have perm := List.perm_insertionSort (fun first second : RecordPlace => first.bytes ≤ second.bytes)
    (start.db.state.keys.filterMap fun key =>
      match key with
      | .record partition offset => some (partition, offset)
      | _ => none)
  have members (place : RecordPlace) : place ∈ places ↔
      (start.db.get place.key).isSome = true := by
    rw [show places = _ from rfl, perm.mem_iff, List.mem_filterMap]
    constructor
    · rintro ⟨key, member, found⟩
      split at found
      · cases found
        exact (start.db.state.memKeys _).mp member
      · simp at found
    · intro present
      exact ⟨place.key, (start.db.state.memKeys _).mpr present, rfl⟩
  have sized (place : RecordPlace) (member : place ∈ places) : place.Sized :=
    legacy.sized _ _ ((members place).mp member)
  have nodup : places.Nodup := by
    refine perm.nodup_iff.mpr (start.db.state.nodup.filterMap ?_)
    intro first second place firstFound secondFound
    rw [Option.mem_def] at firstFound secondFound
    split at firstFound
    · split at secondFound
      · cases firstFound
        cases secondFound
        rfl
      · simp at secondFound
    · simp at firstFound
  have total : Std.Total fun first second : RecordPlace => first.bytes ≤ second.bytes :=
    ⟨fun first second => le_total first.bytes second.bytes⟩
  have trans : IsTrans RecordPlace fun first second => first.bytes ≤ second.bytes :=
    ⟨fun _ _ _ below above => le_trans below above⟩
  have sorted : places.Pairwise fun first second => first.bytes ≤ second.bytes :=
    List.pairwise_insertionSort _ _
  refine ⟨places, sized, ?_, members⟩
  refine (List.pairwise_and_iff.mpr ⟨sorted, nodup⟩).imp_of_mem ?_
  rintro first second firstMember secondMember ⟨below, apart⟩
  refine lt_of_le_of_ne below fun same => apart ?_
  exact RecordPlace.bytes_inj (sized _ firstMember) (sized _ secondMember) same

theorem LegacyDb.begun (legacy : LegacyDb start) : Progressed start start [] := by
  refine ⟨rfl, legacy.cursor, rfl, by simp, fun _ _ => rfl, fun partition => ?_, fun _ _ => rfl⟩
  simp

theorem Progressed.finish (legacy : LegacyDb start) (keys : RecordKeys start.db passed)
    (progressed : Progressed start store passed) :
    Migrated start { store with
      schemaVersion := some currentSchemaVersion
      schemaMigrationCursor := none } := by
  constructor
  · rfl
  · rfl
  · intro partition offset record found
    have member : (partition, offset) ∈ passed := by
      refine (keys.members (partition, offset)).mpr ?_
      rw [RecordPlace.key, found]
      rfl
    have read := progressed.migrated _ member
    rw [GroupDb.migratedRecord, found] at read
    exact read
  · intro partition offset missing
    have outside : (partition, offset) ∉ passed := by
      intro member
      have present := (keys.members (partition, offset)).mp member
      rw [RecordPlace.key, missing] at present
      simp at present
    exact (progressed.left _ outside).trans missing
  · intro partition
    have read := progressed.retentionOf legacy partition
    rw [GroupDb.migratedRetention, keys.total] at read
    exact read
  · intro partition none
    have outside : partition ∉ passed.map Prod.fst := by
      intro member
      obtain ⟨⟨own, offset⟩, inside, rfl⟩ := List.mem_map.mp member
      have present := (keys.members (own, offset)).mp inside
      rw [RecordPlace.key, none offset] at present
      simp at present
    have read := progressed.retention partition
    rw [if_neg outside] at read
    exact read
  · exact progressed.others
  · exact progressed.payload

theorem migrateLoop_returns (legacy : LegacyDb start) : ∀ (fuel : Nat) {store : MigratingDb}
    {passed others : List RecordPlace}, RecordKeys start.db (passed ++ others) →
      Progressed start store passed → others.length ≤ fuel →
      ∃ final, Migrated start final ∧
        ∀ more, MigratingDb.migrateLoop rest (fuel + 1 + more) store = .ok (some final) := by
  intro fuel
  induction fuel with
  | zero =>
      intro store passed others keys progressed enough
      obtain rfl : others = [] := List.eq_nil_of_length_eq_zero (by omega)
      have returns := (@migrateStep_progress start store passed [] rest legacy progressed keys).1 rfl
      rw [List.append_nil] at keys
      refine ⟨_, progressed.finish legacy keys, fun more => ?_⟩
      rw [show 0 + 1 + more = more + 1 by omega, MigratingDb.migrateLoop, returns]
  | succ fuel ih =>
      intro store passed others keys progressed enough
      obtain ⟨returns, goes⟩ :=
        @migrateStep_progress start store passed others rest legacy progressed keys
      by_cases none : others = []
      · subst none
        rw [List.append_nil] at keys
        refine ⟨_, progressed.finish legacy keys, fun more => ?_⟩
        rw [show fuel + 1 + 1 + more = fuel + 1 + more + 1 by omega, MigratingDb.migrateLoop,
          returns rfl]
      · obtain ⟨next, stepped, further⟩ := goes none
        rw [← List.take_append_drop migrationBatchRecords others, ← List.append_assoc] at keys
        have some := List.length_pos_iff.mpr none
        have limit : migrationBatchRecords = 1024 := rfl
        obtain ⟨final, migrated, done⟩ := ih keys further (by
          rw [List.length_drop]
          omega)
        refine ⟨final, migrated, fun more => ?_⟩
        rw [show fuel + 1 + 1 + more = fuel + 1 + more + 1 by omega, MigratingDb.migrateLoop, stepped]
        exact done more

theorem Crashed.progressed (legacy : LegacyDb start) (keys : RecordKeys start.db places)
    (crashed : Crashed rest start store) :
    (∃ passed others, passed ++ others = places ∧ Progressed start store passed) ∨
      Migrated start store := by
  induction crashed with
  | untouched => exact .inl ⟨[], places, rfl, legacy.begun⟩
  | written crashed running step ih =>
      rcases ih with ⟨passed, others, rfl, progressed⟩ | migrated
      · obtain ⟨returns, goes⟩ := migrateStep_progress legacy progressed keys
        by_cases none : others = []
        · subst none
          rw [returns rfl] at step
          cases step
          rw [List.append_nil] at keys
          exact .inr (progressed.finish legacy keys)
        · obtain ⟨further, stepped, next⟩ := goes none
          rw [stepped] at step
          cases step
          refine .inl ⟨_, others.drop migrationBatchRecords, ?_, next⟩
          rw [List.append_assoc, List.take_append_drop]
      · rw [migrated.schema] at running
        simp [legacySchemaVersion, currentSchemaVersion] at running

/-- Wherever earlier runs of the migration of a legacy store were broken off between two write
batches, a further run returns: the schema is the current one, no cursor is left, every record has
the length of its payload and the running sum of its partition, every partition the total, and
everything else is as it was. -/
theorem migration_resumes (legacy : LegacyDb start) (crashed : Crashed rest start store) :
    ∃ final enough, (∀ fuel, enough ≤ fuel → store.migrateSchema rest fuel = .ok (some final)) ∧
      Migrated start final := by
  obtain ⟨places, keys⟩ := legacy.keys
  rcases crashed.progressed legacy keys with ⟨passed, others, rfl, progressed⟩ | migrated
  · obtain ⟨final, migrated, done⟩ :=
      @migrateLoop_returns start rest legacy others.length store passed others keys progressed le_rfl
    refine ⟨final, others.length + 1, fun fuel enough => ?_, migrated⟩
    obtain ⟨more, rfl⟩ := Nat.exists_eq_add_of_le enough
    have schema : store.schemaVersion.getD legacySchemaVersion = legacySchemaVersion := by
      rw [progressed.schema]
      exact legacy.schema
    rw [MigratingDb.migrateSchema, schema, if_neg (by decide), if_neg (by decide)]
    exact done more
  · refine ⟨store, 0, fun fuel _ => ?_, migrated⟩
    rw [MigratingDb.migrateSchema, migrated.schema]
    rfl

end Runs

def legacyPayload (slot : Nat) : PayloadId := ⟨⟨1, 1, 1⟩, slot⟩

def legacyStore : MigratingDb where
  schemaVersion := none
  schemaMigrationCursor := none
  db := GroupDb.freshData.commit
    ⟨[.put (.record GroupDb.samplePartition 4) ⟨legacyPayload 0, 0, 0⟩,
        .put (.record GroupDb.samplePartition 5) ⟨legacyPayload 1, 0, 0⟩],
      [.put (.bytes (legacyPayload 0)) [7, 7], .put (.bytes (legacyPayload 1)) [7]]⟩

theorem legacyStore_record (partition : PartitionKey) (offset : Nat) :
    legacyStore.db.get (.record partition offset) =
      if partition = GroupDb.samplePartition ∧ offset = 4 then some ⟨legacyPayload 0, 0, 0⟩
      else if partition = GroupDb.samplePartition ∧ offset = 5 then
        some ⟨legacyPayload 1, 0, 0⟩
      else none := by
  by_cases first : partition = GroupDb.samplePartition ∧ offset = 4
  · obtain ⟨rfl, rfl⟩ := first
    rfl
  · by_cases second : partition = GroupDb.samplePartition ∧ offset = 5
    · obtain ⟨rfl, rfl⟩ := second
      rfl
    · rw [if_neg first, if_neg second, legacyStore, GroupDb.get_commit,
        Kv.Batch.effect_eq_none_iff.mpr]
      · rfl
      · intro op member same
        simp only [List.mem_cons, List.not_mem_nil, or_false] at member
        rcases member with rfl | rfl
        · cases same
          exact first ⟨rfl, rfl⟩
        · cases same
          exact second ⟨rfl, rfl⟩

theorem legacyStore_legacy : LegacyDb legacyStore := by
  constructor
  · rfl
  · rfl
  · intro partition offset present
    rw [legacyStore_record] at present
    split at present
    · rename_i first
      obtain ⟨rfl, rfl⟩ := first
      exact ⟨⟨by decide, by decide⟩, by decide⟩
    · split at present
      · rename_i second
        obtain ⟨rfl, rfl⟩ := second
        exact ⟨⟨by decide, by decide⟩, by decide⟩
      · simp at present
  · intro partition offset record found
    rw [legacyStore_record] at found
    split at found
    · cases found
      exact ⟨[7, 7], rfl, .inl rfl⟩
    · split at found
      · cases found
        exact ⟨[7], rfl, .inl rfl⟩
      · simp at found
  · intro partition
    rfl
  · intro partition
    by_cases own : partition = GroupDb.samplePartition
    · subst own
      decide +kernel
    · have none : legacyStore.db.recordOffsets partition = [] := by
        refine List.eq_nil_iff_forall_not_mem.mpr fun offset member => ?_
        rw [GroupDb.mem_recordOffsets, legacyStore_record, if_neg fun both => own both.1,
          if_neg fun both => own both.1] at member
        simp at member
      rw [GroupDb.totalBytes, none]
      exact Nat.zero_le _

/-- The sample is broken off behind its batch, and a further run brings it to its end. -/
theorem migration_resumes_sample : ∃ store final,
    Crashed (fun _ => []) legacyStore store ∧ store.schemaMigrationCursor ≠ none ∧
      Migrated legacyStore final ∧
      final.db.get (.record GroupDb.samplePartition 5) = some ⟨legacyPayload 1, 1, 3⟩ := by
  have legacy := legacyStore_legacy
  obtain ⟨places, keys⟩ := legacy.keys
  have some : places ≠ [] := by
    refine @List.ne_nil_of_mem _ (GroupDb.samplePartition, 5) _ ?_
    rw [keys.members, RecordPlace.key, legacyStore_record]
    rfl
  obtain ⟨store, stepped, further⟩ := (migrateStep_progress legacy legacy.begun keys).2 some
  have crashed : Crashed (fun _ => []) legacyStore store := .written .untouched rfl stepped
  obtain ⟨final, _, _, migrated⟩ := migration_resumes legacy crashed
  refine ⟨store, final, crashed, ?_, migrated, ?_⟩
  · rw [further.cursor, List.nil_append, ne_eq, Option.map_eq_none_iff, List.getLast?_eq_none_iff,
      List.take_eq_nil_iff, not_or]
    exact ⟨by decide, some⟩
  · have read := migrated.records GroupDb.samplePartition 5 ⟨legacyPayload 1, 0, 0⟩
      (by rw [legacyStore_record]; rfl)
    have running : legacyStore.db.runningBytes GroupDb.samplePartition 5 = 3 := by decide +kernel
    rw [running] at read
    exact read

end LightStream
