import LightStream.Storage.Apply

/-!
The Raft log of a replica.  Publish entries are stored thin: their records go to the payload
column family, where the log is one of the owners.
-/

namespace LightStream

def payloadsFrom (logId : GroupLogId) (slot : Nat) (records : List Record) :
    List (PayloadId × Record) :=
  records.mapIdx fun index record => (⟨logId, slot + index⟩, record)

def thinPublish (logId : GroupLogId) (slot : Nat) (digest : PublishFingerprint)
    (batch : PublishBatch) : ThinPublish where
  cluster := batch.cluster
  partition := batch.partition
  request := batch.request
  fingerprint := digest
  payloadKeys := (payloadsFrom logId slot batch.records).map Prod.fst
  bookmark := batch.bookmark

/-- The requests of a batch, each with the payload slot its records start at. -/
def slottedRequests : Nat → List PublishBatch → List (Nat × PublishBatch)
  | _, [] => []
  | slot, publish :: rest => (slot, publish) :: slottedRequests (slot + publish.records.length) rest

def thinCommand (logId : GroupLogId) : GroupCommand → ThinCommand × List (PayloadId × Record)
  | .publish batch =>
      (.publish (thinPublish logId 0 (legacyFingerprint batch) batch),
        payloadsFrom logId 0 batch.records)
  | .publishMany batch =>
      let slotted := slottedRequests 0 batch.requests
      (.publishMany (slotted.map fun entry =>
          thinPublish logId entry.1 (fingerprint entry.2) entry.2),
        slotted.flatMap fun entry => payloadsFrom logId entry.1 entry.2.records)
  | command => (.other command, [])

def thinEntry (entry : GroupEntry) : ThinEntry × List (PayloadId × Record) :=
  match entry.payload with
  | .blank => (⟨entry.logId, .blank⟩, [])
  | .membership membership => (⟨entry.logId, .membership membership⟩, [])
  | .normal command =>
      let thin := thinCommand entry.logId command
      (⟨entry.logId, .normal thin.1⟩, thin.2)

def ThinEntry.payloadKeys (entry : ThinEntry) : List PayloadId :=
  match entry.payload with
  | .normal (.publish request) => request.payloadKeys
  | .normal (.publishMany requests) => requests.flatMap ThinPublish.payloadKeys
  | _ => []

namespace GroupDb

def raftOwned : PayloadOwners := { PayloadOwners.default with raftLog := true }

def appendOps (payloads : List (PayloadId × Record)) : PayloadBatch :=
  payloads.flatMap fun payload =>
    [.put (.bytes payload.1) payload.2, .put (.owners payload.1) raftOwned]

def append (db : GroupDb) (entries : List GroupEntry) : GroupDb :=
  let thin := entries.map thinEntry
  { db with
    raftLog := db.raftLog.commit (thin.map fun entry => .put entry.1.logId.index entry.1)
    payload := db.payload.commit (thin.flatMap fun entry => appendOps entry.2) }

/-- Gives up the log's ownership of payloads, reading each owners record as committed. -/
def releaseRaft (db : GroupDb) : List PayloadId → Except IoError PayloadBatch
  | [] => .ok []
  | id :: rest =>
      match db.payload.get (.owners id) with
      | none => .error (.other "missing payload ownership record")
      | some owners =>
          match db.releaseRaft rest with
          | .error error => .error error
          | .ok ops =>
              let released : PayloadOwners := { owners with raftLog := false }
              if released.reachable then .ok (.put (.owners id) released :: ops)
              else .ok (.delete (.bytes id) :: .delete (.owners id) :: ops)

def logIndexes (db : GroupDb) (start : Nat) (stop : Option Nat) : List Nat :=
  db.raftLog.scan fun index =>
    if start ≤ index ∧ (stop.all fun bound => decide (index < bound)) = true then some index
    else none

def removeLogRange (db : GroupDb) (start : Nat) (stop : Option Nat) (purged : Option GroupLogId) :
    Except IoError GroupDb :=
  let indexes := db.logIndexes start stop
  let payloadKeys := (indexes.filterMap fun index => db.raftLog.get index).flatMap
    ThinEntry.payloadKeys
  match db.releaseRaft payloadKeys with
  | .error error => .error error
  | .ok ops =>
      .ok { db with
        raftLog := db.raftLog.commit (indexes.map .delete)
        payload := db.payload.commit ops
        purged := purged.or db.purged }

def truncateAfter (db : GroupDb) (lastLogId : Option GroupLogId) : Except IoError GroupDb :=
  let start := match lastLogId with
    | none => 0
    | some last => saturatingAdd last.index 1
  db.removeLogRange start none none

def purge (db : GroupDb) (logId : GroupLogId) : Except IoError GroupDb :=
  db.removeLogRange 0 (some (saturatingAdd logId.index 1)) (some logId)

end GroupDb

end LightStream
