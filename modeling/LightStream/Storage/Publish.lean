import LightStream.Storage.Leases

/-!
Publishing: the batched transaction of `PublishMany`, with its overlay caches over the
committed store, and the single `Publish` command of the first generation.
-/

namespace LightStream

def publishBookmarkId (logId : GroupLogId) (requestOrdinal : Option Nat) : BookmarkId :=
  .derived logId requestOrdinal

/-- The caches and the write batch of `PublishApplyTxn`.  An absent entry of a cache falls
through to the committed store. -/
structure PublishApplyTxn where
  write : WriteBatch
  nextOffsets : PartitionKey → Option Nat
  retentions : PartitionKey → Option PartitionRetentionState
  sessions : PartitionKey × PrincipalId × ProducerSessionId → Option SessionState
  outcomes : PartitionKey × ProducerRequestId → Option VersionedStoredPublishOutcome
  bookmarkNames : PartitionKey × BookmarkName → Option (Option BookmarkId)
  bookmarkIds : BookmarkId → Option (Option CommittedBookmark)
  bookmarkPublications : PartitionKey → Option Nat

def sessionIndex (batch : PublishBatch) : PartitionKey × PrincipalId × ProducerSessionId :=
  (batch.partition, batch.request.principal, batch.request.session)

def receiptIndex (batch : PublishBatch) : PartitionKey × ProducerRequestId :=
  (batch.partition, batch.request)

def expiredRequest (request : ProducerRequestId) (sequence : Nat) : ProducerRequestId :=
  { request with sequence }

/-- What a stored outcome answers to a body: `prior_publish_outcome` after its lookup. -/
def StoredPublishOutcome.answer (stored : StoredPublishOutcome) (batch : PublishBatch) :
    Except DomainError PublishReceipt :=
  match stored with
  | .versioned stored =>
      if stored.fingerprint = LightStream.fingerprint batch then stored.result.asResult
      else .error .receiptConflict
  | .legacy stored =>
      if stored.fingerprint = legacyFingerprint batch ∧
          stored.receipt.bookmark.map CommittedBookmark.name = batch.bookmark then
        .ok stored.receipt
      else .error .receiptConflict

namespace PublishApplyTxn

def new : PublishApplyTxn where
  write := .empty
  nextOffsets := fun _ => none
  retentions := fun _ => none
  sessions := fun _ => none
  outcomes := fun _ => none
  bookmarkNames := fun _ => none
  bookmarkIds := fun _ => none
  bookmarkPublications := fun _ => none

variable (view : GroupView)

def priorOutcome (txn : PublishApplyTxn) (batch : PublishBatch) :
    Option (Except DomainError PublishReceipt) :=
  match txn.outcomes (receiptIndex batch) with
  | some stored => some ((StoredPublishOutcome.versioned stored).answer batch)
  | none =>
      (view.get (.receipt batch.partition batch.request)).map fun stored => stored.answer batch

def session (txn : PublishApplyTxn) (batch : PublishBatch) : SessionState × PublishApplyTxn :=
  match txn.sessions (sessionIndex batch) with
  | some session => (session, txn)
  | none =>
      let session :=
        (view.get (sessionKey batch.partition batch.request)).getD SessionState.default
      (session,
        { txn with sessions := Function.update txn.sessions (sessionIndex batch) (some session) })

def putState (txn : PublishApplyTxn) (ops : StateBatch) : PublishApplyTxn :=
  { txn with write := ⟨txn.write.state ++ ops, txn.write.payload⟩ }

def storeOutcome (txn : PublishApplyTxn) (batch : PublishBatch) (result : StoredPublishResult) :
    PublishApplyTxn :=
  let stored : VersionedStoredPublishOutcome := ⟨LightStream.fingerprint batch, result⟩
  { txn.putState [.put (.receipt batch.partition batch.request) (.versioned stored)] with
    outcomes := Function.update txn.outcomes (receiptIndex batch) (some stored) }

def advanceSession (txn : PublishApplyTxn) (batch : PublishBatch) (session : SessionState) :
    PublishApplyTxn :=
  let advanced := session.advance view.receiptWindow batch.request.sequence
  let kept : PublishApplyTxn :=
    match advanced.2 with
    | none => txn
    | some expired =>
        let request := expiredRequest batch.request expired
        { txn.putState [.delete (.receipt batch.partition request)] with
          outcomes := Function.update txn.outcomes (batch.partition, request) none }
  { kept.putState [.put (sessionKey batch.partition batch.request) advanced.1] with
    sessions := Function.update kept.sessions (sessionIndex batch) (some advanced.1) }

/-- Stores an outcome and advances the session: the end of every path that records. -/
def record (txn : PublishApplyTxn) (batch : PublishBatch) (session : SessionState)
    (result : StoredPublishResult) : PublishApplyTxn :=
  (txn.storeOutcome batch result).advanceSession view batch session

def bookmarkNameIsUsed (txn : PublishApplyTxn) (partition : PartitionKey)
    (name : BookmarkName) : Bool × PublishApplyTxn :=
  match txn.bookmarkNames (partition, name) with
  | some existing => (existing.isSome, txn)
  | none =>
      let existing := view.get (.bookmarkName partition name)
      (existing.isSome,
        { txn with
          bookmarkNames := Function.update txn.bookmarkNames (partition, name) (some existing) })

def nextOffset (txn : PublishApplyTxn) (partition : PartitionKey) : Nat × PublishApplyTxn :=
  match txn.nextOffsets partition with
  | some first => (first, txn)
  | none =>
      let first := view.nextOffsetOf partition
      (first, { txn with nextOffsets := Function.update txn.nextOffsets partition (some first) })

def retention (txn : PublishApplyTxn) (partition : PartitionKey) :
    PartitionRetentionState × PublishApplyTxn :=
  match txn.retentions partition with
  | some retention => (retention, txn)
  | none =>
      let retention := view.retentionOf partition
      (retention, { txn with retentions := Function.update txn.retentions partition (some retention) })

def bookmarkId (txn : PublishApplyTxn) (id : BookmarkId) :
    Option CommittedBookmark × PublishApplyTxn :=
  match txn.bookmarkIds id with
  | some existing => (existing, txn)
  | none =>
      let existing := view.get (.bookmarkId id)
      (existing, { txn with bookmarkIds := Function.update txn.bookmarkIds id (some existing) })

def bookmarkPublication (txn : PublishApplyTxn) (partition : PartitionKey) :
    Nat × PublishApplyTxn :=
  match txn.bookmarkPublications partition with
  | some publication => (publication, txn)
  | none =>
      let publication := (view.get (.bookmarkPublication partition)).getD 0
      (publication,
        { txn with
          bookmarkPublications :=
            Function.update txn.bookmarkPublications partition (some publication) })

def createPublishBookmark (txn : PublishApplyTxn) (logId : GroupLogId) (requestOrdinal : Nat)
    (partition : PartitionKey) (name : BookmarkName) (offset : Nat) :
    Except IoError (Except DomainError CommittedBookmark × PublishApplyTxn) :=
  let id := publishBookmarkId logId (some requestOrdinal)
  let existing := txn.bookmarkId view id
  if existing.1.isSome = true then .ok (.error .bookmarkNameConflict, existing.2)
  else
    let previous := existing.2.bookmarkPublication view partition
    match checkedAdd previous.1 1 with
    | none => .error (.other "bookmark publication sequence overflow")
    | some publication =>
        let bookmark := CommittedBookmark.published id name
          ⟨view.identity.clusterId, partition, offset⟩ publication
        let txn := previous.2
        .ok (.ok bookmark,
          { txn.putState [.put (.bookmarkId id) bookmark, .put (.bookmarkName partition name) id,
              .put (.bookmarkOrder partition publication) bookmark,
              .put (.bookmarkPublication partition) publication] with
            bookmarkNames := Function.update txn.bookmarkNames (partition, name) (some (some id))
            bookmarkIds := Function.update txn.bookmarkIds id (some (some bookmark))
            bookmarkPublications :=
              Function.update txn.bookmarkPublications partition (some publication) })

def publishBookmark (txn : PublishApplyTxn) (logId : GroupLogId) (requestOrdinal : Nat)
    (batch : PublishBatch) (offset : Nat) :
    Except IoError (Except DomainError (Option CommittedBookmark) × PublishApplyTxn) :=
  match batch.bookmark with
  | none => .ok (.ok none, txn)
  | some name =>
      match txn.createPublishBookmark view logId requestOrdinal batch.partition name offset with
      | .error error => .error error
      | .ok (.error error, txn) => .ok (.error error, txn)
      | .ok (.ok bookmark, txn) => .ok (.ok (some bookmark), txn)

end PublishApplyTxn

namespace GroupView

/-- The record loop of both publish commands, from a payload slot and an offset: takes
ownership of each payload for the active bank and stores its record. -/
def storeRecords (view : GroupView) (logId : GroupLogId) (partition : PartitionKey) :
    List Record → Nat → Nat → PartitionRetentionState → WriteBatch →
      Except IoError (PartitionRetentionState × WriteBatch)
  | [], _, _, retention, write => .ok (retention, write)
  | record :: rest, slot, offset, retention, write =>
      match view.owners ⟨logId, slot⟩ with
      | none => .error (.other "applied entry payload is missing ownership")
      | some owners =>
          match checkedAdd retention.nextBytePosition record.length with
          | none => .error (.other "partition byte position overflow")
          | some position =>
              view.storeRecords logId partition rest (slot + 1) (offset + 1)
                { retention with nextBytePosition := position }
                ⟨write.state ++
                    [.put (.record partition offset) ⟨⟨logId, slot⟩, record.length, position⟩],
                  write.payload ++
                    [.put (.owners ⟨logId, slot⟩) (owners.setAppliedIn view.activeBank true)]⟩

def clusterMismatch : DomainError :=
  .identityMismatch "publish cluster does not match the data group"

/-- The records, the new tail and the receipt of an accepted request. -/
def publishRecords (view : GroupView) (logId : GroupLogId) (txn : PublishApplyTxn)
    (firstPayloadSlot : Nat) (batch : PublishBatch) (session : SessionState)
    (retention : PartitionRetentionState) (range : CommittedRecordRange)
    (bookmark : Option CommittedBookmark) :
    Except IoError (PublishItemOutcome × PublishApplyTxn) :=
  match view.storeRecords logId batch.partition batch.records firstPayloadSlot range.first
      retention txn.write with
  | .error error => .error error
  | .ok (retention, write) =>
      let stored : PublishApplyTxn :=
        { txn with
          write := ⟨write.state ++ [.put (.nextOffset batch.partition) range.next,
            .put (.retention batch.partition) retention], write.payload⟩
          nextOffsets := Function.update txn.nextOffsets batch.partition (some range.next)
          retentions := Function.update txn.retentions batch.partition (some retention) }
      let receipt : PublishReceipt := ⟨batch.request, range, bookmark⟩
      .ok (⟨batch.request, .ok receipt⟩, stored.record view batch session (.published receipt))

def publishNew (view : GroupView) (logId : GroupLogId) (txn : PublishApplyTxn)
    (requestOrdinal firstPayloadSlot : Nat) (batch : PublishBatch) (session : SessionState) :
    Except IoError (PublishItemOutcome × PublishApplyTxn) :=
  let refuse (txn : PublishApplyTxn) (rejection : StoredPublishRejection) (error : DomainError) :
      Except IoError (PublishItemOutcome × PublishApplyTxn) :=
    .ok (⟨batch.request, .error error⟩, txn.record view batch session (.rejected rejection))
  let first := txn.nextOffset view batch.partition
  match CommittedRecordRange.new batch.partition first.1 batch.records.length with
  | .error (.invalidRange reason) => refuse first.2 (.invalidRange reason) (.invalidRange reason)
  | .error error => .error (.domain error)
  | .ok range =>
      let retention := first.2.retention view batch.partition
      match checkedAdd retention.1.nextBytePosition (payloadTotal batch.records) with
      | none =>
          refuse retention.2 (.invalidRange "partition byte position overflow")
            (.invalidRange "partition byte position overflow")
      | some _ =>
          match retention.2.publishBookmark view logId requestOrdinal batch range.next with
          | .error error => .error error
          | .ok (.error error, txn) => refuse txn .bookmarkNameConflict error
          | .ok (.ok bookmark, txn) =>
              view.publishRecords logId txn firstPayloadSlot batch session retention.1 range
                bookmark

def applyOne (view : GroupView) (logId : GroupLogId) (txn : PublishApplyTxn)
    (requestOrdinal firstPayloadSlot : Nat) (batch : PublishBatch) :
    Except IoError (PublishItemOutcome × PublishApplyTxn) :=
  if batch.cluster ≠ view.identity.clusterId then
    .ok (⟨batch.request, .error clusterMismatch⟩, txn)
  else
    match txn.priorOutcome view batch with
    | some result => .ok (⟨batch.request, result⟩, txn)
    | none =>
        let session := txn.session view batch
        if session.1.covers batch.request.sequence then
          .ok (⟨batch.request, .error .receiptExpired⟩, session.2)
        else
          match batch.bookmark with
          | none =>
              view.publishNew logId session.2 requestOrdinal firstPayloadSlot batch session.1
          | some name =>
              let used := session.2.bookmarkNameIsUsed view batch.partition name
              if used.1 then
                .ok (⟨batch.request, .error .bookmarkNameConflict⟩,
                  used.2.record view batch session.1 (.rejected .bookmarkNameConflict))
              else view.publishNew logId used.2 requestOrdinal firstPayloadSlot batch session.1

/-- One request of the loop in `apply_publish_many`: the cluster check against the bootstrap
spec, then `apply_one`. -/
def publishItem (view : GroupView) (logId : GroupLogId) (cluster : ClusterId)
    (txn : PublishApplyTxn) (requestOrdinal firstPayloadSlot : Nat) (publish : PublishBatch) :
    Except IoError (PublishItemOutcome × PublishApplyTxn) :=
  if publish.cluster ≠ cluster then .ok (⟨publish.request, .error clusterMismatch⟩, txn)
  else view.applyOne logId txn requestOrdinal firstPayloadSlot publish

def publishLoop (view : GroupView) (logId : GroupLogId) (cluster : ClusterId) :
    List PublishBatch → Nat → Nat → PublishApplyTxn →
      Except IoError (List PublishItemOutcome × PublishApplyTxn)
  | [], _, _, txn => .ok ([], txn)
  | publish :: rest, requestOrdinal, firstPayloadSlot, txn =>
      match view.publishItem logId cluster txn requestOrdinal firstPayloadSlot publish with
      | .error error => .error error
      | .ok (outcome, txn) =>
          match view.publishLoop logId cluster rest (requestOrdinal + 1)
              (firstPayloadSlot + publish.records.length) txn with
          | .error error => .error error
          | .ok (outcomes, txn) => .ok (outcome :: outcomes, txn)

def applyPublishMany (view : GroupView) (logId : GroupLogId) (batch : ReplicatedPublishBatch) :
    Applied :=
  if view.identity.kind ≠ .data then
    reject (.identityMismatch "publish reached the control group")
  else
    match view.get .bootstrap with
    | none => reject .notBootstrapped
    | some spec =>
        match view.publishLoop logId spec.cluster batch.requests 0 0 PublishApplyTxn.new with
        | .error error => .error error
        | .ok (outcomes, txn) => .ok (.publishedMany outcomes, txn.write)

/-- The receipt, the session and the evicted receipt of `apply_publish`. -/
def publishReceiptWrites (view : GroupView) (batch : PublishBatch) (receipt : PublishReceipt)
    (session : SessionState) : StateBatch :=
  let advanced := session.advance view.receiptWindow batch.request.sequence
  .put (.receipt batch.partition batch.request) (.legacy ⟨legacyFingerprint batch, receipt⟩) ::
    match advanced.2 with
    | none => [.put (sessionKey batch.partition batch.request) advanced.1]
    | some expired =>
        [.delete (.receipt batch.partition (expiredRequest batch.request expired)),
          .put (sessionKey batch.partition batch.request) advanced.1]

def publishUnbatched (view : GroupView) (logId : GroupLogId) (batch : PublishBatch)
    (session : SessionState) (range : CommittedRecordRange) (bookmark : Option CommittedBookmark)
    (writes : StateBatch) : Applied :=
  match view.storeRecords logId batch.partition batch.records 0 range.first
      (view.retentionOf batch.partition) ⟨writes, []⟩ with
  | .error error => .error error
  | .ok (retention, write) =>
      let receipt : PublishReceipt := ⟨batch.request, range, bookmark⟩
      .ok (.published receipt,
        ⟨write.state ++ [.put (.nextOffset batch.partition) range.next,
            .put (.retention batch.partition) retention] ++
            view.publishReceiptWrites batch receipt session, write.payload⟩)

def publishUnbatchedNew (view : GroupView) (logId : GroupLogId) (batch : PublishBatch)
    (session : SessionState) : Applied :=
  match CommittedRecordRange.new batch.partition (view.nextOffsetOf batch.partition)
      batch.records.length with
  | .error error => .error (.domain error)
  | .ok range =>
      match batch.bookmark with
      | none => view.publishUnbatched logId batch session range none []
      | some name =>
          match view.createBookmarkRecord (publishBookmarkId logId none) batch.partition name
              range.next range.next with
          | .error error => .error error
          | .ok (.bookmark bookmark, write) =>
              view.publishUnbatched logId batch session range (some bookmark) write.state
          | .ok (.rejected error, write) => .ok (.rejected error, write)
          | .ok (_, _) => .error (.other "unexpected bookmark apply result")

/-- `apply_publish`: reads its receipt as the first generation stored it, so a receipt of the
versioned format fails to decode. -/
def applyPublish (view : GroupView) (logId : GroupLogId) (batch : PublishBatch) : Applied :=
  if view.identity.kind ≠ .data then
    reject (.identityMismatch "publish reached the control group")
  else
    match view.get .bootstrap with
    | none => reject .notBootstrapped
    | some spec =>
        if batch.cluster ≠ view.identity.clusterId ∨ batch.cluster ≠ spec.cluster then
          reject clusterMismatch
        else
          match view.get (.receipt batch.partition batch.request) with
          | some (.versioned _) => .error .decode
          | some (.legacy existing) =>
              if existing.fingerprint = legacyFingerprint batch then
                reply (.published existing.receipt) []
              else reject .receiptConflict
          | none =>
              let session :=
                (view.get (sessionKey batch.partition batch.request)).getD SessionState.default
              if session.covers batch.request.sequence then reject .receiptExpired
              else view.publishUnbatchedNew logId batch session

end GroupView

end LightStream
