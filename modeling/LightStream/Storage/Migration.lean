import LightStream.Storage.Reader

/-!
Schema migration of a store: `migrate_schema` and `migration_record_batch` of
`light-stream-storage`.  Records of the first schema have neither their size nor their byte
position; the migration fills both in, batch after batch, with a durable cursor.
-/

namespace LightStream

def legacySchemaVersion : Nat := 1
def currentSchemaVersion : Nat := 2
def migrationBatchRecords : Nat := 1024

structure MigratingDb where
  schemaVersion : Option Nat
  schemaMigrationCursor : Option Kv.Bytes
  db : GroupDb

def recordPrefixText : Kv.Bytes := ascii "record/"

def partitionFromRecordKey (key : Kv.Bytes) : Except IoError PartitionKey :=
  let expected := recordPrefixText.length + 16 + 4 + 8
  if key.length ≠ expected ∨ recordPrefixText.isPrefixOf key = false then
    .error (.other "invalid record key during schema migration")
  else
    let streamStart := recordPrefixText.length
    let streamEnd := streamStart + 16
    .ok ⟨⟨Kv.fromBigEndian ((key.drop streamStart).take 16)⟩,
      Kv.fromBigEndian ((key.drop streamEnd).take 4)⟩

def migrationBatchLoop (rest : StateKey → Kv.Bytes) (cursor : Option Kv.Bytes) :
    List StateKey → List StateKey → List StateKey
  | [], records => records
  | key :: keys, records =>
      if recordPrefixText.isPrefixOf (key.stored rest) = false then records
      else if cursor.any (fun cursor => decide (key.stored rest ≤ cursor)) then
        migrationBatchLoop rest cursor keys records
      else if (records ++ [key]).length = migrationBatchRecords then records ++ [key]
      else migrationBatchLoop rest cursor keys (records ++ [key])

/-- What one iteration of `migrate_schema` has gathered. -/
structure MigrationBatch where
  partitions : List (PartitionKey × PartitionRetentionState)
  write : StateBatch
  lastKey : Option Kv.Bytes

def putRetention (partition : PartitionKey) (retention : PartitionRetentionState) :
    List (PartitionKey × PartitionRetentionState) → List (PartitionKey × PartitionRetentionState)
  | [] => [(partition, retention)]
  | (candidate, held) :: others =>
      if candidate = partition then (candidate, retention) :: others
      else (candidate, held) :: putRetention partition retention others

def lookupRetention (partition : PartitionKey)
    (partitions : List (PartitionKey × PartitionRetentionState)) :
    Option PartitionRetentionState :=
  (partitions.find? fun entry => entry.1 = partition).map Prod.snd

namespace GroupDb

/-- The size of a record: as stored, or that of its payload where none is stored. -/
def migratedBytes (db : GroupDb) (record : StoredRecord) : Except IoError Nat :=
  if record.payloadBytes = 0 then
    match db.payload.get (.bytes record.payloadKey) with
    | none => .error (.other "migration record payload is missing")
    | some payload => .ok payload.length
  else .ok record.payloadBytes

def migrateRecord (db : GroupDb) (rest : StateKey → Kv.Bytes) (batch : MigrationBatch)
    (key : StateKey) : Except IoError MigrationBatch :=
  match partitionFromRecordKey (key.stored rest) with
  | .error error => .error error
  | .ok partition =>
      match key with
      | .record own offset =>
          match db.get (.record own offset) with
          | none => .error .decode
          | some record =>
              match db.migratedBytes record with
              | .error error => .error error
              | .ok payloadBytes =>
                  let retention := (lookupRetention partition batch.partitions).getD
                    (db.view.retentionOf partition)
                  match checkedAdd retention.nextBytePosition payloadBytes with
                  | none => .error (.other "partition byte position overflow during migration")
                  | some position =>
                      .ok ⟨putRetention partition { retention with nextBytePosition := position }
                          batch.partitions,
                        batch.write ++ [.put (.record own offset)
                          { record with payloadBytes, cumulativeEndBytes := position }],
                        some (key.stored rest)⟩
      | _ => .error .decode

def migrateRecords (db : GroupDb) (rest : StateKey → Kv.Bytes) :
    List StateKey → MigrationBatch → Except IoError MigrationBatch
  | [], batch => .ok batch
  | key :: keys, batch =>
      match db.migrateRecord rest batch key with
      | .error error => .error error
      | .ok next => db.migrateRecords rest keys next

end GroupDb

namespace MigratingDb

def migrationRecordBatch (store : MigratingDb) (rest : StateKey → Kv.Bytes) : List StateKey :=
  migrationBatchLoop rest store.schemaMigrationCursor
    (store.db.state.iterate (StateKey.stored rest)
      (store.schemaMigrationCursor.getD recordPrefixText)) []

/-- One iteration of `migrate_schema` and its write batch; true where the migration returns. -/
def migrateStep (store : MigratingDb) (rest : StateKey → Kv.Bytes) :
    Except IoError (MigratingDb × Bool) :=
  let records := store.migrationRecordBatch rest
  if records = [] then
    .ok ({ store with
      schemaVersion := some currentSchemaVersion
      schemaMigrationCursor := none }, true)
  else
    match store.db.migrateRecords rest records ⟨[], [], none⟩ with
    | .error error => .error error
    | .ok batch =>
        .ok ({ store with
          schemaMigrationCursor := batch.lastKey
          db := store.db.commit ⟨batch.write ++ batch.partitions.map fun entry =>
            .put (.retention entry.1) entry.2, []⟩ }, false)

/-- The loop of `migrate_schema`; none where the fuel runs out before it returns. -/
def migrateLoop (rest : StateKey → Kv.Bytes) : Nat → MigratingDb →
    Except IoError (Option MigratingDb)
  | 0, _ => .ok none
  | fuel + 1, store =>
      match store.migrateStep rest with
      | .error error => .error error
      | .ok (next, true) => .ok (some next)
      | .ok (next, false) => migrateLoop rest fuel next

def migrateSchema (store : MigratingDb) (rest : StateKey → Kv.Bytes) (fuel : Nat) :
    Except IoError (Option MigratingDb) :=
  let schema := store.schemaVersion.getD legacySchemaVersion
  if schema = currentSchemaVersion then .ok (some store)
  else if schema ≠ legacySchemaVersion then
    .error (.other ("unsupported record schema " ++ toString schema))
  else migrateLoop rest fuel store

end MigratingDb

end LightStream
