import LightStream.Storage.Log

/-!
Snapshots.  A snapshot carries the active state bank and the payloads it owns; installing one
fills the inactive bank, switches to it in one write, and clears the bank that was active.
Every list of writes below is the sequence of synchronous batches that the source issues.
-/

namespace LightStream

instance : LinearOrder PayloadId :=
  LinearOrder.lift'
    (fun id => (toLex (id.logId.term, toLex (id.logId.nodeId, toLex (id.logId.index, id.slot))) :
      Nat ×ₗ Nat ×ₗ Nat ×ₗ Nat))
    fun first second same => by
      obtain ⟨⟨_, _, _⟩, _⟩ := first
      obtain ⟨⟨_, _, _⟩, _⟩ := second
      simp_all

def ownersIndex : PayloadKey → Option PayloadId
  | .owners id => some id
  | .bytes _ => none

theorem ownersIndex_some {key : PayloadKey} {id : PayloadId} :
    ownersIndex key = some id ↔ key = .owners id := by
  cases key <;> simp [ownersIndex]

def scanOwners (payload : PayloadStore) : List (PayloadId × PayloadOwners) :=
  (payload.scan ownersIndex).filterMap fun id =>
    (payload.get (.owners id)).map fun owners => (id, owners)

inductive SnapshotRecord where
  | state (key : StateKey) (value : StateVal key)
  | payload (id : PayloadId) (bytes : Record)

def SnapshotRecord.stateOps : SnapshotRecord → StateBatch
  | .state key value => [.put key value]
  | .payload _ _ => []

/-- The records of an artifact in the order they are written and read. -/
def SnapshotArtifact.records (artifact : SnapshotArtifact) : List SnapshotRecord :=
  artifact.state.map (fun entry => .state entry.1 entry.2) ++
    artifact.payloads.map fun payload => .payload payload.1 payload.2

/-- One synchronous batch on a state bank and the payload column family. -/
structure SyncWrite where
  bank : StateBank
  state : StateBatch
  payload : PayloadBatch

namespace GroupDb

def writeSync (db : GroupDb) (write : SyncWrite) : GroupDb :=
  { db with
    banks := Function.update db.banks write.bank ((db.banks write.bank).commit write.state)
    payload := db.payload.commit write.payload }

/-- The payload entries of a snapshot: the bytes of each id, all of which must exist. -/
def snapshotPayloads (db : GroupDb) : List PayloadId → Except IoError (List (PayloadId × Record))
  | [] => .ok []
  | id :: rest =>
      match db.payload.get (.bytes id) with
      | none => .error (.other "snapshot payload bytes are missing")
      | some bytes =>
          match db.snapshotPayloads rest with
          | .error error => .error error
          | .ok payloads => .ok ((id, bytes) :: payloads)

def buildSnapshot (db : GroupDb) : Except IoError (SnapshotArtifact × GroupDb) :=
  let owned := (scanOwners db.payload).filter fun entry => entry.2.appliedIn db.activeBank
  match db.snapshotPayloads (owned.map Prod.fst) with
  | .error error => .error error
  | .ok payloads =>
      let artifact : SnapshotArtifact :=
        { formatVersion := storageFormatVersion
          identity := db.identity
          metadata := ⟨db.get .applied, (db.get .membership).getD GroupMembership.default⟩
          state := db.state.entries
          payloads := payloads }
      .ok (artifact, { db with currentSnapshot := some artifact })

/-- The owners after a bank lets go of a payload, with the writes that store them. -/
def clearOwners (bank : StateBank) (entry : PayloadId × PayloadOwners) : PayloadBatch :=
  let owners := entry.2.setAppliedIn bank false
  if owners.reachable then [.put (.owners entry.1) owners]
  else [.delete (.owners entry.1), .delete (.bytes entry.1)]

/-- The batches of `clear_state_bank`: the bank's keys, then the payloads it owns, both in
chunks of 1024. -/
def clearStateBankWrites (db : GroupDb) (bank : StateBank) : List SyncWrite :=
  let owned := (scanOwners db.payload).filter fun entry => entry.2.appliedIn bank
  (Kv.chunk (fun pending => pending.length == 1024) (db.banks bank).keys []).map
      (fun keys => ⟨bank, keys.map .delete, []⟩) ++
    (Kv.chunk (fun pending => pending.length == 1024) owned []).map
      fun entries => ⟨bank, [], entries.flatMap (clearOwners bank)⟩

def clearStateBank (db : GroupDb) (bank : StateBank) : GroupDb :=
  (db.clearStateBankWrites bank).foldl writeSync db

/-- The payload writes of one record: its bytes, and the bank as one more owner. -/
def recordPayloadOps (db : GroupDb) (bank : StateBank) : SnapshotRecord → PayloadBatch
  | .state _ _ => []
  | .payload id bytes =>
      let owners := (db.payload.get (.owners id)).getD PayloadOwners.default
      [.put (.bytes id) bytes, .put (.owners id) (owners.setAppliedIn bank true)]

/-- One chunk of records, with the owners read before the chunk is written. -/
def installChunk (bank : StateBank) (db : GroupDb) (records : List SnapshotRecord) : GroupDb :=
  db.writeSync ⟨bank, records.flatMap SnapshotRecord.stateOps,
    records.flatMap (db.recordPayloadOps bank)⟩

/-- When the pending batch of an installation is written: at 1024 records or 8 MiB of encoded
keys and values, whose sizes `encodedBytes` gives. -/
def installFull (encodedBytes : SnapshotRecord → Nat) (pending : List SnapshotRecord) : Bool :=
  pending.length == 1024 || decide ((pending.map encodedBytes).sum ≥ 8 * 1024 * 1024)

def installSnapshot (encodedBytes : SnapshotRecord → Nat) (db : GroupDb) (metadata : SnapshotMeta)
    (artifact : SnapshotArtifact) : Except IoError GroupDb :=
  if artifact.formatVersion ≠ storageFormatVersion ∨ artifact.identity ≠ db.identity then
    .error (.other "snapshot identity or format mismatch")
  else if artifact.metadata ≠ metadata then .error (.other "snapshot metadata mismatch")
  else
    let target := db.activeBank.inactive
    let cleared := db.clearStateBank target
    let loaded := (Kv.chunk (installFull encodedBytes) artifact.records []).foldl
      (installChunk target) cleared
    let switched := { loaded with currentSnapshot := some artifact, activeBank := target }
    .ok (switched.clearStateBank db.activeBank)

end GroupDb

end LightStream
