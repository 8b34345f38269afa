import LightStream.Codec.Text
import LightStream.Hash.Sha256
import LightStream.Storage.Reader

/-!
The keys of the state column family as bytes: the key functions of `light-stream-storage`, which a
`StateKey` stands for, and the scan of the keys under a prefix.
-/

namespace LightStream

open Kv (Bytes)

namespace StateKeys

def sha256 (body : Bytes) : Bytes := (Sha256.digest (body.map UInt8.ofNat)).map UInt8.toNat

def textBytes (text : String) : Bytes := text.toByteArray.data.toList.map UInt8.toNat

def uuidBytes (uuid : Nat) : Bytes := Kv.bigEndian 16 uuid

def partitionBytes (partition : PartitionKey) : Bytes :=
  uuidBytes partition.stream.uuid ++ Kv.bigEndian 4 partition.partition

/-! ### What is hashed -/

def requestJson (principal : PrincipalId) (session sequence : Nat) : Bytes :=
  ascii "\x7b\"principal\":" ++ (Codec.jsonString (textBytes principal.text) ++
    (ascii ",\"session\":\"" ++ (Codec.uuidText session ++
      (ascii "\",\"sequence\":" ++ (Codec.decimal sequence ++ ascii "\x7d")))))

def producerJson (request : ProducerRequestId) : Bytes :=
  requestJson request.principal request.session.uuid request.sequence

def mutationJson (request : MutationRequestId) : Bytes :=
  requestJson request.principal request.session.uuid request.sequence

def receiptBody (partition : PartitionKey) (request : ProducerRequestId) : Bytes :=
  partitionBytes partition ++ producerJson request

def sessionBody (partition : PartitionKey) (principal : PrincipalId)
    (session : ProducerSessionId) : Bytes :=
  partitionBytes partition ++ (textBytes principal.text ++ uuidBytes session.uuid)

def mutationSessionBody (principal : PrincipalId) (session : MutationSessionId) : Bytes :=
  textBytes principal.text ++ uuidBytes session.uuid

/-! ### The key functions -/

def nextOffsetKey (partition : PartitionKey) : Bytes :=
  ascii "next-offset" ++ partitionBytes partition

def retentionKey (partition : PartitionKey) : Bytes :=
  ascii "retention/" ++ partitionBytes partition

def retentionReclaimHintKey (partition : PartitionKey) : Bytes :=
  ascii "retention-reclaim-hint/" ++ partitionBytes partition

def streamKey (stream : StreamId) : Bytes := ascii "stream/" ++ uuidBytes stream.uuid

def streamNameKey (name : StreamName) : Bytes := ascii "stream-name/" ++ textBytes name.text

def createIntentKey (request : CatalogRequestId) : Bytes :=
  ascii "create-intent/" ++ uuidBytes request.uuid

def administrationRequestKey (request : AdministrationRequestId) : Bytes :=
  ascii "administration/request/" ++ uuidBytes request.uuid

def exportReceiptKey (request : MutationRequestId) : Bytes :=
  ascii "export/receipt/" ++ sha256 (mutationJson request)

def exportSessionKey (request : MutationRequestId) : Bytes :=
  ascii "export/session/" ++ sha256 (mutationSessionBody request.principal request.session)

def receiptKey (partition : PartitionKey) (request : ProducerRequestId) : Bytes :=
  ascii "receipt/" ++ sha256 (receiptBody partition request)

def sessionKey (partition : PartitionKey) (request : ProducerRequestId) : Bytes :=
  ascii "session/" ++ sha256 (sessionBody partition request.principal request.session)

def mutationReceiptKey (request : MutationRequestId) : Bytes :=
  ascii "mutation-receipt/" ++ sha256 (mutationJson request)

def mutationSessionKey (request : MutationRequestId) : Bytes :=
  ascii "mutation-session/" ++ sha256 (mutationSessionBody request.principal request.session)

def checkpointBytes (partition : PartitionKey) (consumer : ConsumerId) : Bytes :=
  ascii "checkpoint/" ++ (partitionBytes partition ++
    (Kv.bigEndian 4 (textBytes consumer.text).length ++ textBytes consumer.text))

def checkpointKey (key : CheckpointKey) : Except IoError Bytes :=
  if (textBytes key.consumer.text).length < 2 ^ 32 then
    .ok (checkpointBytes key.partition key.consumer)
  else .error (.other "out of range integral type conversion attempted")

/-- The UUID of a lease identity; a derived one is the start of the digest of its request. -/
def leaseUuid : ReplayLeaseId → Nat
  | .uuid value => value
  | .derived request => Kv.fromBigEndian ((sha256 (mutationJson request)).take 16)

def replayLeaseIdKey (id : ReplayLeaseId) : Bytes := ascii "lease/id/" ++ uuidBytes (leaseUuid id)

def replayLeaseRequestKey (request : MutationRequestId) : Bytes :=
  ascii "lease/request/" ++ sha256 (mutationJson request)

/-- The UUID of a bookmark identity, as `publish_bookmark_id` derives it. -/
def bookmarkUuid : BookmarkId → Nat
  | .uuid value => value
  | .derived logId requestOrdinal =>
      Kv.fromBigEndian ((sha256 (Kv.bigEndian 8 logId.term ++ Kv.bigEndian 8 logId.nodeId ++
        Kv.bigEndian 8 logId.index ++ ascii "bookmark" ++
        ((requestOrdinal.map (Kv.bigEndian 8)).getD []))).take 16)

def bookmarkIdKey (id : BookmarkId) : Bytes := ascii "bookmark/id/" ++ uuidBytes (bookmarkUuid id)

def bookmarkNamePrefix (partition : PartitionKey) : Bytes :=
  ascii "bookmark/name/" ++ partitionBytes partition

def bookmarkNameKey (partition : PartitionKey) (name : BookmarkName) : Bytes :=
  bookmarkNamePrefix partition ++ textBytes name.text

def bookmarkOrderPrefix (partition : PartitionKey) : Bytes :=
  ascii "bookmark/order/" ++ partitionBytes partition

def bookmarkOrderKey (partition : PartitionKey) (publication : Nat) : Bytes :=
  bookmarkOrderPrefix partition ++ Kv.bigEndian 8 publication

def bookmarkPublicationKey (partition : PartitionKey) : Bytes :=
  ascii "bookmark/publication/" ++ partitionBytes partition

def streamBookmarkIdKey (id : BookmarkId) : Bytes :=
  ascii "stream-bookmark/id/" ++ uuidBytes (bookmarkUuid id)

def streamBookmarkNameKey (stream : StreamId) (name : BookmarkName) : Bytes :=
  ascii "stream-bookmark/name/" ++ (uuidBytes stream.uuid ++ textBytes name.text)

def streamBookmarkOrderPrefix (stream : StreamId) : Bytes :=
  ascii "stream-bookmark/order/" ++ uuidBytes stream.uuid

def streamBookmarkOrderKey (stream : StreamId) (publication : Nat) : Bytes :=
  streamBookmarkOrderPrefix stream ++ Kv.bigEndian 8 publication

def streamBookmarkPublicationKey (stream : StreamId) : Bytes :=
  ascii "stream-bookmark/publication/" ++ uuidBytes stream.uuid

end StateKeys

open StateKeys

/-- The stored bytes of a state key.  A session key does not depend on the sequence of the request
that it is built from. -/
def StateKey.bytes : StateKey → Bytes
  | .applied => ascii "applied"
  | .membership => ascii "membership"
  | .bootstrap => ascii "bootstrap"
  | .dataGroupPool => ascii "data-group-pool"
  | .maxStreams => ascii "max-streams"
  | .maxPartitions => ascii "max-partitions"
  | .assignmentCursor => ascii "assignment-cursor"
  | .catalogRevision => ascii "catalog-revision"
  | .stream owner => streamKey owner
  | .streamName name => streamNameKey name
  | .createIntent request => createIntentKey request
  | .nextOffset partition => nextOffsetKey partition
  | .record partition offset => recordKey partition offset
  | .receipt partition request => receiptKey partition request
  | .session partition principal opened => StateKeys.sessionKey partition ⟨principal, opened, 0⟩
  | .mutationReceipt request => mutationReceiptKey request
  | .mutationSession principal opened => StateKeys.mutationSessionKey ⟨principal, opened, 0⟩
  | .checkpoint partition consumer => checkpointBytes partition consumer
  | .bookmarkId id => bookmarkIdKey id
  | .bookmarkName partition name => bookmarkNameKey partition name
  | .bookmarkOrder partition publication => bookmarkOrderKey partition publication
  | .bookmarkPublication partition => bookmarkPublicationKey partition
  | .streamBookmarkId id => streamBookmarkIdKey id
  | .streamBookmarkName owner name => streamBookmarkNameKey owner name
  | .streamBookmarkOrder owner publication => streamBookmarkOrderKey owner publication
  | .streamBookmarkPublication owner => streamBookmarkPublicationKey owner
  | .retention partition => retentionKey partition
  | .reclaimHint partition => retentionReclaimHintKey partition
  | .leaseClock => ascii "lease-clock"
  | .leaseBudget => ascii "lease-budget"
  | .operationalProof => ascii "operational-proof"
  | .clusterTopology => ascii "cluster-topology"
  | .securityPolicy => ascii "security-policy"
  | .activeAdministration => ascii "administration/active"
  | .administrationRequest request => administrationRequestKey request
  | .activeExport => ascii "export/active"
  | .exportEpoch => ascii "export/epoch"
  | .exportReceipt request => exportReceiptKey request
  | .exportSession principal opened => StateKeys.exportSessionKey ⟨principal, opened, 0⟩
  | .mutationFence => ascii "export/mutation-fence"
  | .leaseId id => replayLeaseIdKey id
  | .leaseRequest request => replayLeaseRequestKey request

/-- `GroupDb::scan_prefix` over the state column family: the keys it returns, in its order. -/
def GroupDb.scanPrefix (db : GroupDb) (head : Bytes) : List StateKey :=
  (db.state.iterate StateKey.bytes head).takeWhile fun key => head.isPrefixOf key.bytes

end LightStream
