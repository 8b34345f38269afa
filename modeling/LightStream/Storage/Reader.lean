import LightStream.Kv.Ordered
import LightStream.Storage.Leases

/-!
Reading committed records: `CommittedStateReader::fetch` of `light-stream-storage`.  The keys of
the state column family are bytes here, since a fetch iterates over them in their order.
-/

namespace LightStream

def maxFetchRecords : Nat := 1024
def maxFetchBytes : Nat := 8 * 1024 * 1024

structure FetchPage where
  partition : PartitionKey
  records : List CommittedRecord
  nextOffset : Nat
deriving DecidableEq

def ascii (text : String) : Kv.Bytes := text.toList.map Char.toNat

def recordPrefix (partition : PartitionKey) : Kv.Bytes :=
  ascii "record/" ++ Kv.bigEndian 16 partition.stream.uuid ++ Kv.bigEndian 4 partition.partition

def recordKey (partition : PartitionKey) (offset : Nat) : Kv.Bytes :=
  recordPrefix partition ++ Kv.bigEndian 8 offset

def StateKey.label : StateKey → String
  | .applied => "applied"
  | .membership => "membership"
  | .bootstrap => "bootstrap"
  | .dataGroupPool => "data-group-pool"
  | .maxStreams => "max-streams"
  | .maxPartitions => "max-partitions"
  | .assignmentCursor => "assignment-cursor"
  | .catalogRevision => "catalog-revision"
  | .stream _ => "stream/"
  | .streamName _ => "stream-name/"
  | .createIntent _ => "create-intent/"
  | .nextOffset _ => "next-offset"
  | .record _ _ => "record/"
  | .receipt _ _ => "receipt/"
  | .session _ _ _ => "session/"
  | .mutationReceipt _ => "mutation-receipt/"
  | .mutationSession _ _ => "mutation-session/"
  | .checkpoint _ _ => "checkpoint/"
  | .bookmarkId _ => "bookmark/id/"
  | .bookmarkName _ _ => "bookmark/name/"
  | .bookmarkOrder _ _ => "bookmark/order/"
  | .bookmarkPublication _ => "bookmark/publication/"
  | .streamBookmarkId _ => "stream-bookmark/id/"
  | .streamBookmarkName _ _ => "stream-bookmark/name/"
  | .streamBookmarkOrder _ _ => "stream-bookmark/order/"
  | .streamBookmarkPublication _ => "stream-bookmark/publication/"
  | .retention _ => "retention/"
  | .reclaimHint _ => "retention-reclaim-hint/"
  | .leaseClock => "lease-clock"
  | .leaseBudget => "lease-budget"
  | .operationalProof => "operational-proof"
  | .clusterTopology => "cluster-topology"
  | .securityPolicy => "security-policy"
  | .activeAdministration => "administration/active"
  | .administrationRequest _ => "administration/request/"
  | .activeExport => "export/active"
  | .exportEpoch => "export/epoch"
  | .exportReceipt _ => "export/receipt/"
  | .exportSession _ _ => "export/session/"
  | .mutationFence => "export/mutation-fence"
  | .leaseId _ => "lease/id/"
  | .leaseRequest _ => "lease/request/"

/-- The bytes of a state key.  `rest` is what follows the text of a key of another family than the
records: its identities and digests. -/
def StateKey.stored (rest : StateKey → Kv.Bytes) : StateKey → Kv.Bytes
  | .record partition offset => recordKey partition offset
  | key => ascii key.label ++ rest key

def GroupDb.decodeRecord (db : GroupDb) : StateKey → Option StoredRecord
  | .record partition offset => db.get (.record partition offset)
  | _ => none

/-- The loop of `fetch`, over the keys from its start on. -/
def GroupDb.fetchLoop (db : GroupDb) (rest : StateKey → Kv.Bytes) (head : Kv.Bytes) (limit : Nat) :
    List StateKey → List CommittedRecord → Nat → Except DomainError (List CommittedRecord)
  | [], records, _ => .ok records
  | key :: keys, records, payloadBytes =>
      if head.isPrefixOf (key.stored rest) = false ∨ records.length ≥ limit then .ok records
      else
        match db.decodeRecord key with
        | none => .error (.storage "invalid record value")
        | some stored =>
            match db.payload.get (.bytes stored.payloadKey) with
            | none => .error (.storage "committed record payload is missing")
            | some payload =>
                if records ≠ [] ∧ saturatingAdd payloadBytes payload.length > maxFetchBytes then
                  .ok records
                else
                  let bytes := key.stored rest
                  db.fetchLoop rest head limit keys
                    (records ++ [⟨Kv.fromBigEndian (bytes.drop (bytes.length - 8)), payload⟩])
                    (saturatingAdd payloadBytes payload.length)

def GroupDb.fetch (db : GroupDb) (rest : StateKey → Kv.Bytes) (cluster : ClusterId)
    (partition : PartitionKey) (offset limit : Nat) : Except DomainError FetchPage :=
  if limit = 0 ∨ limit > maxFetchRecords then
    .error (.invalidRange ("fetch limit must be between 1 and " ++ toString maxFetchRecords))
  else
    match db.get .bootstrap with
    | none => .error .notBootstrapped
    | some spec =>
        if cluster ≠ db.identity.clusterId ∨ cluster ≠ spec.cluster then
          .error (.identityMismatch "fetch cluster does not match the data group")
        else
          let floor := (db.view.retentionOf partition).logicalFloor
          if offset < floor then .error (.cursorExpired offset floor)
          else
            match db.fetchLoop rest (recordPrefix partition) limit
                (db.state.iterate (StateKey.stored rest) (recordKey partition offset)) [] 0 with
            | .error error => .error error
            | .ok records =>
                .ok ⟨partition, records,
                  (records.getLast?.map fun record => record.offset + 1).getD offset⟩

def StoredPublishOutcome.outcome : StoredPublishOutcome → Except DomainError PublishReceipt
  | .legacy stored => .ok stored.receipt
  | .versioned stored => stored.result.asResult

def GroupDb.receipt (db : GroupDb) (partition : PartitionKey) (request : ProducerRequestId) :
    Except DomainError PublishReceipt :=
  match db.get (.receipt partition request) with
  | none => .error .receiptNotFound
  | some stored => stored.outcome

def GroupDb.replayLease (db : GroupDb) (partition : PartitionKey) (id : ReplayLeaseId) :
    Except DomainError ReplayLease :=
  match db.get (.leaseId id) with
  | none => .error (.replayLeaseNotFound id)
  | some lease =>
      if lease.range.partition ≠ partition then .error .replayLeaseRangeViolation else .ok lease

/-- The loop of `fetch_protected`: as that of `fetch`, up to the end of the range of the lease. -/
def GroupDb.fetchProtectedLoop (db : GroupDb) (rest : StateKey → Kv.Bytes) (head : Kv.Bytes)
    (limit stop : Nat) :
    List StateKey → List CommittedRecord → Nat → Except DomainError (List CommittedRecord)
  | [], records, _ => .ok records
  | key :: keys, records, payloadBytes =>
      if head.isPrefixOf (key.stored rest) = false ∨ records.length ≥ limit then .ok records
      else
        let bytes := key.stored rest
        let offset := Kv.fromBigEndian (bytes.drop (bytes.length - 8))
        if offset ≥ stop then .ok records
        else
          match db.decodeRecord key with
          | none => .error (.storage "invalid record value")
          | some stored =>
              match db.payload.get (.bytes stored.payloadKey) with
              | none => .error (.storage "protected record payload is missing")
              | some payload =>
                  if records ≠ [] ∧ saturatingAdd payloadBytes payload.length > maxFetchBytes then
                    .ok records
                  else
                    db.fetchProtectedLoop rest head limit stop keys (records ++ [⟨offset, payload⟩])
                      (saturatingAdd payloadBytes payload.length)

def GroupDb.fetchProtected (db : GroupDb) (rest : StateKey → Kv.Bytes) (cluster : ClusterId)
    (partition : PartitionKey) (id : ReplayLeaseId) (offset limit : Nat) :
    Except DomainError FetchPage :=
  if limit = 0 ∨ limit > maxFetchRecords then
    .error (.invalidRange ("fetch limit must be between 1 and " ++ toString maxFetchRecords))
  else
    match db.get .bootstrap with
    | none => .error .notBootstrapped
    | some spec =>
        if cluster ≠ db.identity.clusterId ∨ cluster ≠ spec.cluster then
          .error (.identityMismatch "fetch cluster does not match the data group")
        else
          match db.get (.leaseId id) with
          | none => .error (.replayLeaseNotFound id)
          | some lease =>
              if lease.request.cluster ≠ cluster ∨ lease.range.partition ≠ partition then
                .error .replayLeaseRangeViolation
              else
                match db.get .leaseClock with
                | none => .error .leaseClockUnavailable
                | some clock =>
                    if leaseIsEffectivelyActive lease clock then
                      if offset = lease.range.stop then .ok ⟨partition, [], offset⟩
                      else if lease.range.contains offset then
                        match db.fetchProtectedLoop rest (recordPrefix partition) limit
                            lease.range.stop
                            (db.state.iterate (StateKey.stored rest) (recordKey partition offset))
                            [] 0 with
                        | .error error => .error error
                        | .ok records =>
                            .ok ⟨partition, records,
                              (records.getLast?.map fun record => record.offset + 1).getD offset⟩
                      else .error .replayLeaseRangeViolation
                    else
                      .error (.replayLeaseInactive lease.id
                        (if lease.lifecycle = .active then .expired else lease.lifecycle))

end LightStream
