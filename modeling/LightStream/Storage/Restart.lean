import LightStream.Storage.Snapshot

/-!
An installation as the batches it writes, one synchronous write after another, and what a restart
makes of the store: `migrate_state_banks`, which `open_store` runs.
-/

namespace LightStream

namespace GroupDb

def switchTo (bank : StateBank) (artifact : SnapshotArtifact) (db : GroupDb) : GroupDb :=
  { db with currentSnapshot := some artifact, activeBank := bank }

def writeAll (db : GroupDb) (batches : List (GroupDb → GroupDb)) : GroupDb :=
  batches.foldl (fun store batch => batch store) db

def clearBatches (db : GroupDb) (bank : StateBank) : List (GroupDb → GroupDb) :=
  (db.clearStateBankWrites bank).map fun write store => store.writeSync write

def loadBatches (encodedBytes : SnapshotRecord → Nat) (db : GroupDb)
    (artifact : SnapshotArtifact) : List (GroupDb → GroupDb) :=
  db.clearBatches db.activeBank.inactive ++
    (Kv.chunk (installFull encodedBytes) artifact.records []).map
      fun records store => installChunk db.activeBank.inactive store records

def installBatches (encodedBytes : SnapshotRecord → Nat) (db : GroupDb)
    (artifact : SnapshotArtifact) : List (GroupDb → GroupDb) :=
  let load := db.loadBatches encodedBytes artifact
  let switch := switchTo db.activeBank.inactive artifact
  load ++ switch :: (switch (db.writeAll load)).clearBatches db.activeBank

/-- What `install_snapshot` leaves when the reader fails behind the given records: the chunk that
is pending is not written. -/
def interruptedInstall (encodedBytes : SnapshotRecord → Nat) (db : GroupDb)
    (read : List SnapshotRecord) : GroupDb :=
  (Kv.fullChunks (installFull encodedBytes) read []).foldl (installChunk db.activeBank.inactive)
    (db.clearStateBank db.activeBank.inactive)

def migrateOwners (entry : PayloadId × PayloadOwners) : PayloadBatch :=
  let owners :=
    if entry.2.appliedState = true then entry.2.setAppliedIn .a true else entry.2
  if owners.reachable then [.put (.owners entry.1) owners]
  else [.delete (.owners entry.1), .delete (.bytes entry.1)]

def migratePayloadOwnerBanks (db : GroupDb) : GroupDb :=
  (Kv.chunk (fun pending => pending.length == 1024) (scanOwners db.payload) []).foldl
    (fun store entries => store.writeSync ⟨.a, [], entries.flatMap migrateOwners⟩) db

end GroupDb

/-- What the files of a group hold: the state of a store without banks, and the bank that the
metadata names.  `db.activeBank` is the bank of the running process. -/
structure StoreFiles where
  legacyState : StateStore
  activeStateBank : Option StateBank
  db : GroupDb

namespace StoreFiles

def migrateStateBanks (files : StoreFiles) : StoreFiles :=
  match files.activeStateBank with
  | some bank =>
      { files with legacyState := Kv.Store.empty, db := { files.db with activeBank := bank } }
  | none =>
      let copied := (Kv.chunk (fun pending => pending.length == 1024) files.legacyState.entries
        []).foldl (fun store entries => store.writeSync ⟨.a, Kv.loads entries, []⟩) files.db
      { legacyState := Kv.Store.empty
        activeStateBank := some .a
        db := { copied.migratePayloadOwnerBanks with activeBank := .a } }

end StoreFiles

/-- The files that a crash leaves of a store, with whatever a process last had in memory. -/
def GroupDb.files (db : GroupDb) (legacyState : StateStore) (memory : StateBank) : StoreFiles :=
  ⟨legacyState, some db.activeBank, { db with activeBank := memory }⟩

end LightStream
