import LightStream.Codec.Layout
import LightStream.Storage.StateKeys

/-!
How the keys of the state column family are laid out: each is the label of its shape and then
parts, which are numbers of a fixed width, digests and, only in the last place, a text.  No label
starts another one, so a key tells its shape, and then its parts.
-/

namespace LightStream

open Kv (Bytes)

open StateKeys

inductive KeyShape where
  | applied
  | membership
  | bootstrap
  | dataGroupPool
  | maxStreams
  | maxPartitions
  | assignmentCursor
  | catalogRevision
  | stream
  | streamName
  | createIntent
  | nextOffset
  | record
  | receipt
  | session
  | mutationReceipt
  | mutationSession
  | checkpoint
  | bookmarkId
  | bookmarkName
  | bookmarkOrder
  | bookmarkPublication
  | streamBookmarkId
  | streamBookmarkName
  | streamBookmarkOrder
  | streamBookmarkPublication
  | retention
  | reclaimHint
  | leaseClock
  | leaseBudget
  | operationalProof
  | clusterTopology
  | securityPolicy
  | activeAdministration
  | administrationRequest
  | activeExport
  | exportEpoch
  | exportReceipt
  | exportSession
  | mutationFence
  | leaseId
  | leaseRequest
deriving DecidableEq

def KeyShape.label : KeyShape → String
  | .applied => "applied"
  | .membership => "membership"
  | .bootstrap => "bootstrap"
  | .dataGroupPool => "data-group-pool"
  | .maxStreams => "max-streams"
  | .maxPartitions => "max-partitions"
  | .assignmentCursor => "assignment-cursor"
  | .catalogRevision => "catalog-revision"
  | .stream => "stream/"
  | .streamName => "stream-name/"
  | .createIntent => "create-intent/"
  | .nextOffset => "next-offset"
  | .record => "record/"
  | .receipt => "receipt/"
  | .session => "session/"
  | .mutationReceipt => "mutation-receipt/"
  | .mutationSession => "mutation-session/"
  | .checkpoint => "checkpoint/"
  | .bookmarkId => "bookmark/id/"
  | .bookmarkName => "bookmark/name/"
  | .bookmarkOrder => "bookmark/order/"
  | .bookmarkPublication => "bookmark/publication/"
  | .streamBookmarkId => "stream-bookmark/id/"
  | .streamBookmarkName => "stream-bookmark/name/"
  | .streamBookmarkOrder => "stream-bookmark/order/"
  | .streamBookmarkPublication => "stream-bookmark/publication/"
  | .retention => "retention/"
  | .reclaimHint => "retention-reclaim-hint/"
  | .leaseClock => "lease-clock"
  | .leaseBudget => "lease-budget"
  | .operationalProof => "operational-proof"
  | .clusterTopology => "cluster-topology"
  | .securityPolicy => "security-policy"
  | .activeAdministration => "administration/active"
  | .administrationRequest => "administration/request/"
  | .activeExport => "export/active"
  | .exportEpoch => "export/epoch"
  | .exportReceipt => "export/receipt/"
  | .exportSession => "export/session/"
  | .mutationFence => "export/mutation-fence"
  | .leaseId => "lease/id/"
  | .leaseRequest => "lease/request/"

def StateKey.shape : StateKey → KeyShape
  | .applied => .applied
  | .membership => .membership
  | .bootstrap => .bootstrap
  | .dataGroupPool => .dataGroupPool
  | .maxStreams => .maxStreams
  | .maxPartitions => .maxPartitions
  | .assignmentCursor => .assignmentCursor
  | .catalogRevision => .catalogRevision
  | .stream _ => .stream
  | .streamName _ => .streamName
  | .createIntent _ => .createIntent
  | .nextOffset _ => .nextOffset
  | .record _ _ => .record
  | .receipt _ _ => .receipt
  | .session _ _ _ => .session
  | .mutationReceipt _ => .mutationReceipt
  | .mutationSession _ _ => .mutationSession
  | .checkpoint _ _ => .checkpoint
  | .bookmarkId _ => .bookmarkId
  | .bookmarkName _ _ => .bookmarkName
  | .bookmarkOrder _ _ => .bookmarkOrder
  | .bookmarkPublication _ => .bookmarkPublication
  | .streamBookmarkId _ => .streamBookmarkId
  | .streamBookmarkName _ _ => .streamBookmarkName
  | .streamBookmarkOrder _ _ => .streamBookmarkOrder
  | .streamBookmarkPublication _ => .streamBookmarkPublication
  | .retention _ => .retention
  | .reclaimHint _ => .reclaimHint
  | .leaseClock => .leaseClock
  | .leaseBudget => .leaseBudget
  | .operationalProof => .operationalProof
  | .clusterTopology => .clusterTopology
  | .securityPolicy => .securityPolicy
  | .activeAdministration => .activeAdministration
  | .administrationRequest _ => .administrationRequest
  | .activeExport => .activeExport
  | .exportEpoch => .exportEpoch
  | .exportReceipt _ => .exportReceipt
  | .exportSession _ _ => .exportSession
  | .mutationFence => .mutationFence
  | .leaseId _ => .leaseId
  | .leaseRequest _ => .leaseRequest


def KeyShape.all : List KeyShape :=
  [.applied, .membership, .bootstrap, .dataGroupPool, .maxStreams, .maxPartitions,
    .assignmentCursor, .catalogRevision, .stream, .streamName, .createIntent, .nextOffset,
    .record, .receipt, .session, .mutationReceipt, .mutationSession, .checkpoint, .bookmarkId,
    .bookmarkName, .bookmarkOrder, .bookmarkPublication, .streamBookmarkId, .streamBookmarkName,
    .streamBookmarkOrder, .streamBookmarkPublication, .retention, .reclaimHint, .leaseClock,
    .leaseBudget, .operationalProof, .clusterTopology, .securityPolicy, .activeAdministration,
    .administrationRequest, .activeExport, .exportEpoch, .exportReceipt, .exportSession,
    .mutationFence, .leaseId, .leaseRequest]

theorem KeyShape.mem_all (shape : KeyShape) : shape ∈ all := by
  cases shape <;> decide

theorem KeyShape.all_apart : ∀ first ∈ all, ∀ second ∈ all,
    (ascii first.label).isPrefixOf (ascii second.label) = true → first = second := by
  decide +kernel

theorem KeyShape.labels_apart {first second : KeyShape}
    (under : ascii first.label <+: ascii second.label) : first = second :=
  all_apart first (mem_all first) second (mem_all second) (List.isPrefixOf_iff_prefix.mpr under)

/-! ### Parts -/

inductive HashedBody where
  | receipt (partition : PartitionKey) (request : ProducerRequestId)
  | session (partition : PartitionKey) (principal : PrincipalId) (opened : ProducerSessionId)
  | mutation (request : MutationRequestId)
  | mutationSession (principal : PrincipalId) (opened : MutationSessionId)
deriving DecidableEq

def HashedBody.bytes : HashedBody → Bytes
  | .receipt partition request => receiptBody partition request
  | .session partition principal opened => sessionBody partition principal opened
  | .mutation request => mutationJson request
  | .mutationSession principal opened => mutationSessionBody principal opened

def HashedBody.Sized : HashedBody → Prop
  | .receipt partition request =>
      partition.stream.uuid < 256 ^ 16 ∧ partition.partition < 256 ^ 4 ∧
        request.session.uuid < 256 ^ 16
  | .session partition _ opened =>
      partition.stream.uuid < 256 ^ 16 ∧ partition.partition < 256 ^ 4 ∧ opened.uuid < 256 ^ 16
  | .mutation request => request.session.uuid < 256 ^ 16
  | .mutationSession _ opened => opened.uuid < 256 ^ 16

inductive HashedKind where
  | receipt
  | session
  | mutation
  | mutationSession
deriving DecidableEq

def HashedBody.kind : HashedBody → HashedKind
  | .receipt _ _ => .receipt
  | .session _ _ _ => .session
  | .mutation _ => .mutation
  | .mutationSession _ _ => .mutationSession

inductive KeyPart where
  | number (width value : Nat)
  | text (text : String)
  | digest (body : HashedBody)
deriving DecidableEq

inductive PartKind where
  | number (width : Nat)
  | text
  | digest (body : HashedKind)
deriving DecidableEq

namespace KeyPart

def bytes : KeyPart → Bytes
  | number width value => Kv.bigEndian width value
  | text content => textBytes content
  | digest body => sha256 body.bytes

def kind : KeyPart → PartKind
  | number width _ => .number width
  | text _ => .text
  | digest body => .digest body.kind

def Sized : KeyPart → Prop
  | number width value => value < 256 ^ width
  | text _ => True
  | digest body => body.Sized

def partition (partition : PartitionKey) : List KeyPart :=
  [number 16 partition.stream.uuid, number 4 partition.partition]

end KeyPart

def StateKey.parts : StateKey → List KeyPart
  | .stream owner => [.number 16 owner.uuid]
  | .streamName name => [.text name.text]
  | .createIntent request => [.number 16 request.uuid]
  | .nextOffset partition => KeyPart.partition partition
  | .record partition offset => KeyPart.partition partition ++ [.number 8 offset]
  | .receipt partition request => [.digest (.receipt partition request)]
  | .session partition principal opened => [.digest (.session partition principal opened)]
  | .mutationReceipt request => [.digest (.mutation request)]
  | .mutationSession principal opened => [.digest (.mutationSession principal opened)]
  | .checkpoint partition consumer => KeyPart.partition partition ++
      [.number 4 (textBytes consumer.text).length, .text consumer.text]
  | .bookmarkId id => [.number 16 (bookmarkUuid id)]
  | .bookmarkName partition name => KeyPart.partition partition ++ [.text name.text]
  | .bookmarkOrder partition publication =>
      KeyPart.partition partition ++ [.number 8 publication]
  | .bookmarkPublication partition => KeyPart.partition partition
  | .streamBookmarkId id => [.number 16 (bookmarkUuid id)]
  | .streamBookmarkName owner name => [.number 16 owner.uuid, .text name.text]
  | .streamBookmarkOrder owner publication => [.number 16 owner.uuid, .number 8 publication]
  | .streamBookmarkPublication owner => [.number 16 owner.uuid]
  | .retention partition => KeyPart.partition partition
  | .reclaimHint partition => KeyPart.partition partition
  | .administrationRequest request => [.number 16 request.uuid]
  | .exportReceipt request => [.digest (.mutation request)]
  | .exportSession principal opened => [.digest (.mutationSession principal opened)]
  | .leaseId id => [.number 16 (leaseUuid id)]
  | .leaseRequest request => [.digest (.mutation request)]
  | _ => []

def KeyShape.kinds : KeyShape → List PartKind
  | .stream | .createIntent | .bookmarkId | .streamBookmarkId | .streamBookmarkPublication
  | .administrationRequest | .leaseId => [.number 16]
  | .nextOffset | .bookmarkPublication | .retention | .reclaimHint => [.number 16, .number 4]
  | .record | .bookmarkOrder => [.number 16, .number 4, .number 8]
  | .streamBookmarkOrder => [.number 16, .number 8]
  | .streamName => [.text]
  | .streamBookmarkName => [.number 16, .text]
  | .bookmarkName => [.number 16, .number 4, .text]
  | .checkpoint => [.number 16, .number 4, .number 4, .text]
  | .receipt => [.digest .receipt]
  | .session => [.digest .session]
  | .mutationReceipt | .exportReceipt | .leaseRequest => [.digest .mutation]
  | .mutationSession | .exportSession => [.digest .mutationSession]
  | _ => []

/-- A key whose numbers have the widths of their types, and the length of whose text is written in
full. -/
def StateKey.Sized (key : StateKey) : Prop := ∀ part ∈ key.parts, part.Sized

/-- The key with the identities that the store derives as the UUIDs that they are there. -/
def StateKey.identified : StateKey → StateKey
  | .bookmarkId id => .bookmarkId (.uuid (bookmarkUuid id))
  | .streamBookmarkId id => .streamBookmarkId (.uuid (bookmarkUuid id))
  | .leaseId id => .leaseId (.uuid (leaseUuid id))
  | key => key

def KeyShape.key : KeyShape → List KeyPart → Option StateKey
  | .applied, [] => some .applied
  | .membership, [] => some .membership
  | .bootstrap, [] => some .bootstrap
  | .dataGroupPool, [] => some .dataGroupPool
  | .maxStreams, [] => some .maxStreams
  | .maxPartitions, [] => some .maxPartitions
  | .assignmentCursor, [] => some .assignmentCursor
  | .catalogRevision, [] => some .catalogRevision
  | .stream, [.number _ owner] => some (.stream ⟨owner⟩)
  | .streamName, [.text name] => some (.streamName ⟨name⟩)
  | .createIntent, [.number _ request] => some (.createIntent ⟨request⟩)
  | .nextOffset, [.number _ owner, .number _ part] => some (.nextOffset ⟨⟨owner⟩, part⟩)
  | .record, [.number _ owner, .number _ part, .number _ offset] =>
      some (.record ⟨⟨owner⟩, part⟩ offset)
  | .receipt, [.digest (.receipt partition request)] => some (.receipt partition request)
  | .session, [.digest (.session partition principal opened)] =>
      some (.session partition principal opened)
  | .mutationReceipt, [.digest (.mutation request)] => some (.mutationReceipt request)
  | .mutationSession, [.digest (.mutationSession principal opened)] =>
      some (.mutationSession principal opened)
  | .checkpoint, [.number _ owner, .number _ part, .number _ _, .text consumer] =>
      some (.checkpoint ⟨⟨owner⟩, part⟩ ⟨consumer⟩)
  | .bookmarkId, [.number _ id] => some (.bookmarkId (.uuid id))
  | .bookmarkName, [.number _ owner, .number _ part, .text name] =>
      some (.bookmarkName ⟨⟨owner⟩, part⟩ ⟨name⟩)
  | .bookmarkOrder, [.number _ owner, .number _ part, .number _ publication] =>
      some (.bookmarkOrder ⟨⟨owner⟩, part⟩ publication)
  | .bookmarkPublication, [.number _ owner, .number _ part] =>
      some (.bookmarkPublication ⟨⟨owner⟩, part⟩)
  | .streamBookmarkId, [.number _ id] => some (.streamBookmarkId (.uuid id))
  | .streamBookmarkName, [.number _ owner, .text name] =>
      some (.streamBookmarkName ⟨owner⟩ ⟨name⟩)
  | .streamBookmarkOrder, [.number _ owner, .number _ publication] =>
      some (.streamBookmarkOrder ⟨owner⟩ publication)
  | .streamBookmarkPublication, [.number _ owner] => some (.streamBookmarkPublication ⟨owner⟩)
  | .retention, [.number _ owner, .number _ part] => some (.retention ⟨⟨owner⟩, part⟩)
  | .reclaimHint, [.number _ owner, .number _ part] => some (.reclaimHint ⟨⟨owner⟩, part⟩)
  | .leaseClock, [] => some .leaseClock
  | .leaseBudget, [] => some .leaseBudget
  | .operationalProof, [] => some .operationalProof
  | .clusterTopology, [] => some .clusterTopology
  | .securityPolicy, [] => some .securityPolicy
  | .activeAdministration, [] => some .activeAdministration
  | .administrationRequest, [.number _ request] => some (.administrationRequest ⟨request⟩)
  | .activeExport, [] => some .activeExport
  | .exportEpoch, [] => some .exportEpoch
  | .exportReceipt, [.digest (.mutation request)] => some (.exportReceipt request)
  | .exportSession, [.digest (.mutationSession principal opened)] =>
      some (.exportSession principal opened)
  | .mutationFence, [] => some .mutationFence
  | .leaseId, [.number _ id] => some (.leaseId (.uuid id))
  | .leaseRequest, [.digest (.mutation request)] => some (.leaseRequest request)
  | _, _ => none

theorem KeyShape.key_parts (key : StateKey) :
    key.shape.key key.parts = some key.identified := by
  cases key <;> rfl

theorem StateKey.kinds_parts (key : StateKey) : key.parts.map KeyPart.kind = key.shape.kinds := by
  cases key <;> rfl

theorem StateKey.bytes_parts (key : StateKey) :
    key.bytes = ascii key.shape.label ++ key.parts.flatMap KeyPart.bytes := by
  cases key <;>
    simp [StateKey.bytes, StateKey.parts, StateKey.shape, KeyShape.label, KeyPart.bytes,
      KeyPart.partition, HashedBody.bytes, partitionBytes, uuidBytes, streamKey, streamNameKey,
      createIntentKey, nextOffsetKey, recordKey, recordPrefix, receiptKey, StateKeys.sessionKey,
      mutationReceiptKey, StateKeys.mutationSessionKey, checkpointBytes, bookmarkIdKey,
      bookmarkNameKey, bookmarkNamePrefix, bookmarkOrderKey, bookmarkOrderPrefix,
      bookmarkPublicationKey, streamBookmarkIdKey, streamBookmarkNameKey, streamBookmarkOrderKey,
      streamBookmarkOrderPrefix, streamBookmarkPublicationKey, retentionKey,
      retentionReclaimHintKey, administrationRequestKey, exportReceiptKey,
      StateKeys.exportSessionKey, replayLeaseIdKey, replayLeaseRequestKey]

end LightStream
