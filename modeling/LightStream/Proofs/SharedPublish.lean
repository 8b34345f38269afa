import LightStream.Proofs.SharedState

/-!
Publishing on the shared state: a transaction of the replica and one over the shared state take
the same steps.
-/

namespace LightStream

variable {count : LogCount}

namespace GroupView

variable {view : GroupView} {logId : GroupLogId}

theorem storeRecords_shared {partition : PartitionKey} {records : List Record} {slot offset : Nat}
    {retention final : PartitionRetentionState} {write written : WriteBatch}
    (done : view.storeRecords logId partition records slot offset retention write =
      .ok (final, written)) (payload : PayloadBatch) : ∃ moved,
    (view.shared count).storeRecords logId partition records slot offset (retention.shared count)
      ⟨sharedOps count write.state, payload⟩ =
        .ok (final.shared count, ⟨sharedOps count written.state, moved⟩) := by
  induction records generalizing slot offset retention write payload with
  | nil =>
      cases done
      exact ⟨payload, rfl⟩
  | cons record rest ih =>
      unfold storeRecords at done ⊢
      have owned : (view.shared count).owners ⟨logId, slot⟩ = some (count.owners ⟨logId, slot⟩) :=
        rfl
      have position : (retention.shared count).nextBytePosition = retention.nextBytePosition := rfl
      rw [owned]
      dsimp only
      rw [position]
      split at done
      · simp at done
      split at done
      · simp at done
      obtain ⟨moved, stored⟩ := ih done (payload ++
        [.put (.owners ⟨logId, slot⟩) ((count.owners ⟨logId, slot⟩).setAppliedIn .a true)])
      refine ⟨moved, ?_⟩
      rw [← stored, sharedOps_append]
      rfl

end GroupView

namespace PublishApplyTxn

variable {view : GroupView} {logId : GroupLogId}

def sharedWith (count : LogCount) (txn : PublishApplyTxn) (payload : PayloadBatch) :
    PublishApplyTxn :=
  { txn with
    write := ⟨sharedOps count txn.write.state, payload⟩
    retentions := fun partition =>
      (txn.retentions partition).map (PartitionRetentionState.shared count) }

def Follows (count : LogCount) {α : Type}
    (concrete abstract : Except IoError (α × PublishApplyTxn)) : Prop :=
  ∀ answer txn, concrete = .ok (answer, txn) → ∃ payload,
    abstract = .ok (answer, txn.sharedWith count payload)

theorem follows_ok {α : Type} (answer : α) (txn : PublishApplyTxn) (payload : PayloadBatch) :
    Follows count (.ok (answer, txn)) (.ok (answer, txn.sharedWith count payload)) := by
  rintro _ _ ⟨⟩
  exact ⟨payload, rfl⟩

theorem follows_error {α : Type} (error : IoError)
    (abstract : Except IoError (α × PublishApplyTxn)) :
    Follows count (.error error) abstract := by
  intro answer txn impossible
  simp at impossible

variable (txn : PublishApplyTxn) (payload : PayloadBatch) (batch : PublishBatch)

theorem putState_shared {families : List StateFamily} {ops : StateBatch}
    (within : Within families ops) (outside : .retention ∉ families) :
    (txn.sharedWith count payload).putState ops = (txn.putState ops).sharedWith count payload := by
  simp only [putState, sharedWith, sharedOps_append, sharedOps_same within outside]

theorem record_shared (session : SessionState) (result : StoredPublishResult) :
    (txn.sharedWith count payload).record (view.shared count) batch session result =
      (txn.record view batch session result).sharedWith count payload := by
  have window : (view.shared count).receiptWindow = view.receiptWindow := rfl
  unfold record advanceSession storeOutcome
  rw [window]
  generalize session.advance view.receiptWindow batch.request.sequence = advanced
  obtain ⟨next, evicted⟩ := advanced
  cases evicted with
  | none =>
      simp only [putState, sharedWith, sharedOps_append]
      rfl
  | some expired =>
      simp only [putState, sharedWith, sharedOps_append]
      rfl

theorem session_shared : (txn.sharedWith count payload).session (view.shared count) batch =
    ((txn.session view batch).1, (txn.session view batch).2.sharedWith count payload) := by
  have cached : (txn.sharedWith count payload).sessions = txn.sessions := rfl
  unfold session
  rw [cached]
  cases txn.sessions (sessionIndex batch) <;> rfl

theorem bookmarkNameIsUsed_shared (partition : PartitionKey) (name : BookmarkName) :
    (txn.sharedWith count payload).bookmarkNameIsUsed (view.shared count) partition name =
      ((txn.bookmarkNameIsUsed view partition name).1,
        (txn.bookmarkNameIsUsed view partition name).2.sharedWith count payload) := by
  have cached : (txn.sharedWith count payload).bookmarkNames = txn.bookmarkNames := rfl
  unfold bookmarkNameIsUsed
  rw [cached]
  cases txn.bookmarkNames (partition, name) <;> rfl

theorem nextOffset_shared (partition : PartitionKey) :
    (txn.sharedWith count payload).nextOffset (view.shared count) partition =
      ((txn.nextOffset view partition).1,
        (txn.nextOffset view partition).2.sharedWith count payload) := by
  have cached : (txn.sharedWith count payload).nextOffsets = txn.nextOffsets := rfl
  unfold nextOffset
  rw [cached]
  cases txn.nextOffsets partition <;> rfl

theorem update_shared (partition : PartitionKey) (retention : PartitionRetentionState) :
    (fun other => (Function.update txn.retentions partition (some retention) other).map
        (PartitionRetentionState.shared count)) =
      Function.update
        (fun other => (txn.retentions other).map (PartitionRetentionState.shared count))
        partition (some (retention.shared count)) := by
  funext other
  by_cases same : other = partition
  · subst same
    rw [Function.update_self, Function.update_self]
    rfl
  · rw [Function.update_of_ne same, Function.update_of_ne same]

theorem retention_shared (partition : PartitionKey) :
    (txn.sharedWith count payload).retention (view.shared count) partition =
      (((txn.retention view partition).1.shared count),
        (txn.retention view partition).2.sharedWith count payload) := by
  have cached : (txn.sharedWith count payload).retentions partition =
      (txn.retentions partition).map (PartitionRetentionState.shared count) := rfl
  unfold retention
  rw [cached]
  cases txn.retentions partition with
  | some retention => rfl
  | none =>
      simp only [Option.map_none, GroupView.shared_retentionOf, sharedWith, update_shared]

theorem bookmarkId_shared (id : BookmarkId) :
    (txn.sharedWith count payload).bookmarkId (view.shared count) id =
      ((txn.bookmarkId view id).1, (txn.bookmarkId view id).2.sharedWith count payload) := by
  have cached : (txn.sharedWith count payload).bookmarkIds = txn.bookmarkIds := rfl
  unfold bookmarkId
  rw [cached]
  cases txn.bookmarkIds id <;> rfl

theorem bookmarkPublication_shared (partition : PartitionKey) :
    (txn.sharedWith count payload).bookmarkPublication (view.shared count) partition =
      ((txn.bookmarkPublication view partition).1,
        (txn.bookmarkPublication view partition).2.sharedWith count payload) := by
  have cached : (txn.sharedWith count payload).bookmarkPublications =
      txn.bookmarkPublications := rfl
  unfold bookmarkPublication
  rw [cached]
  cases txn.bookmarkPublications partition <;> rfl

theorem createPublishBookmark_shared (ordinal : Nat) (partition : PartitionKey)
    (name : BookmarkName) (offset : Nat) :
    Follows count (txn.createPublishBookmark view logId ordinal partition name offset)
      ((txn.sharedWith count payload).createPublishBookmark (view.shared count) logId ordinal
        partition name
        offset) := by
  unfold createPublishBookmark
  simp only [bookmarkId_shared, bookmarkPublication_shared]
  split
  · exact follows_ok _ _ payload
  split
  · exact follows_error _ _
  · rintro _ _ ⟨⟩
    refine ⟨payload, ?_⟩
    rw [putState_shared _ _ (show Within [.bookmark] _ by simp [StateKey.family]) (by decide)]
    rfl

theorem publishBookmark_shared (ordinal offset : Nat) :
    Follows count (txn.publishBookmark view logId ordinal batch offset)
      ((txn.sharedWith count payload).publishBookmark (view.shared count) logId ordinal batch
        offset) := by
  unfold publishBookmark
  split
  · exact follows_ok _ _ payload
  split
  · exact follows_error _ _
  · rename_i created
    rintro _ _ ⟨⟩
    obtain ⟨moved, shared⟩ := createPublishBookmark_shared txn payload ordinal _ _ _ _ _ created
    rw [shared]
    exact ⟨moved, rfl⟩
  · rename_i created
    rintro _ _ ⟨⟩
    obtain ⟨moved, shared⟩ := createPublishBookmark_shared txn payload ordinal _ _ _ _ _ created
    rw [shared]
    exact ⟨moved, rfl⟩

end PublishApplyTxn

namespace GroupView

open PublishApplyTxn (Follows follows_ok follows_error)

variable {view : GroupView} {logId : GroupLogId} (payload : PayloadBatch)

theorem publishRecords_shared (txn : PublishApplyTxn) (slot : Nat) (batch : PublishBatch)
    (session : SessionState) (retention : PartitionRetentionState) (range : CommittedRecordRange)
    (bookmark : Option CommittedBookmark) :
    Follows count (view.publishRecords logId txn slot batch session retention range bookmark)
      ((view.shared count).publishRecords logId (txn.sharedWith count payload) slot batch session
        (retention.shared count) range bookmark) := by
  unfold publishRecords
  split
  · exact follows_error _ _
  rename_i final written stored
  rintro _ _ ⟨⟩
  obtain ⟨moved, shared⟩ := storeRecords_shared stored payload
  have start : (txn.sharedWith count payload).write =
      ⟨sharedOps count txn.write.state, payload⟩ := rfl
  rw [start, shared]
  refine ⟨moved, ?_⟩
  dsimp only
  rw [← PublishApplyTxn.record_shared]
  simp only [PublishApplyTxn.sharedWith, sharedOps_append, PublishApplyTxn.update_shared]
  rfl

theorem publishNew_shared (txn : PublishApplyTxn) (ordinal slot : Nat) (batch : PublishBatch)
    (session : SessionState) :
    Follows count (view.publishNew logId txn ordinal slot batch session)
      ((view.shared count).publishNew logId (txn.sharedWith count payload) ordinal slot batch
        session) := by
  have position (partition : PartitionKey) (txn : PublishApplyTxn) :
      ((txn.retention view partition).1.shared count).nextBytePosition =
        (txn.retention view partition).1.nextBytePosition := rfl
  unfold publishNew
  simp only [PublishApplyTxn.nextOffset_shared, PublishApplyTxn.retention_shared,
    PublishApplyTxn.record_shared, position]
  split
  · exact follows_ok _ _ payload
  · exact follows_error _ _
  split
  · exact follows_ok _ _ payload
  split
  · exact follows_error _ _
  · rename_i created
    rintro _ _ ⟨⟩
    obtain ⟨moved, shared⟩ := PublishApplyTxn.publishBookmark_shared _ payload _ _ _ _ _ created
    rw [shared]
    exact ⟨moved, by rw [← PublishApplyTxn.record_shared]⟩
  · rename_i created
    intro answer next done
    obtain ⟨moved, shared⟩ := PublishApplyTxn.publishBookmark_shared _ payload _ _ _ _ _ created
    rw [shared]
    exact publishRecords_shared moved _ _ _ _ _ _ _ answer next done

theorem applyOne_shared (txn : PublishApplyTxn) (ordinal slot : Nat) (batch : PublishBatch) :
    Follows count (view.applyOne logId txn ordinal slot batch)
      ((view.shared count).applyOne logId (txn.sharedWith count payload) ordinal slot batch) := by
  have identity : (view.shared count).identity = view.identity := rfl
  have prior : (txn.sharedWith count payload).priorOutcome (view.shared count) batch =
      txn.priorOutcome view batch := rfl
  unfold applyOne
  simp only [identity, prior, PublishApplyTxn.session_shared,
    PublishApplyTxn.bookmarkNameIsUsed_shared, PublishApplyTxn.record_shared]
  split
  · exact follows_ok _ _ payload
  split
  · exact follows_ok _ _ payload
  split
  · exact follows_ok _ _ payload
  split
  · exact publishNew_shared payload _ _ _ _ _
  split
  · exact follows_ok _ _ payload
  · exact publishNew_shared payload _ _ _ _ _

theorem publishLoop_shared (cluster : ClusterId) (requests : List PublishBatch)
    (ordinal slot : Nat) (txn : PublishApplyTxn) :
    Follows count (view.publishLoop logId cluster requests ordinal slot txn)
      ((view.shared count).publishLoop logId cluster requests ordinal slot
        (txn.sharedWith count payload)) := by
  induction requests generalizing ordinal slot txn payload with
  | nil => exact follows_ok _ _ payload
  | cons publish rest ih =>
      have item : Follows count (view.publishItem logId cluster txn ordinal slot publish)
          ((view.shared count).publishItem logId cluster (txn.sharedWith count payload) ordinal
            slot publish) := by
        unfold publishItem
        split
        · exact follows_ok _ _ payload
        · exact applyOne_shared payload _ _ _ _
      unfold publishLoop
      split
      · exact follows_error _ _
      rename_i outcome middle first
      obtain ⟨moved, shared⟩ := item _ _ first
      rw [shared]
      dsimp only
      split
      · exact follows_error _ _
      rename_i later
      rintro _ _ ⟨⟩
      obtain ⟨final, followed⟩ := ih moved _ _ _ _ _ later
      rw [followed]
      exact ⟨final, rfl⟩

theorem applyPublishMany_shared (batch : ReplicatedPublishBatch) :
    Refines count (view.applyPublishMany logId batch)
      ((view.shared count).applyPublishMany logId batch) := by
  have identity : (view.shared count).identity = view.identity := rfl
  have spec : (view.shared count).get .bootstrap = view.get .bootstrap := rfl
  unfold applyPublishMany
  rw [identity, spec]
  split
  · exact refines_reject _
  split
  · exact refines_reject _
  split
  · exact refines_error _ _
  rename_i looped
  rintro _ _ ⟨⟩
  obtain ⟨moved, shared⟩ := publishLoop_shared [] _ _ _ _ _ _ _ looped
  have start : (PublishApplyTxn.sharedWith count) .new [] = .new := rfl
  rw [start] at shared
  rw [shared]
  exact ⟨_, moved, rfl, rfl⟩

theorem publishUnbatched_shared (batch : PublishBatch) (session : SessionState)
    (range : CommittedRecordRange) (bookmark : Option CommittedBookmark) {writes : StateBatch}
    (bookmarks : Within [.bookmark] writes) :
    Refines count (view.publishUnbatched logId batch session range bookmark writes)
      ((view.shared count).publishUnbatched logId batch session range bookmark writes) := by
  unfold publishUnbatched
  split
  · exact refines_error _ _
  rename_i final written stored
  rintro _ _ ⟨⟩
  obtain ⟨moved, shared⟩ := storeRecords_shared stored []
  dsimp only at shared
  rw [sharedOps_same bookmarks (by decide)] at shared
  rw [shared_retentionOf, shared]
  have receipt : Within [.receipt, .session] (view.publishReceiptWrites batch
      ⟨batch.request, range, bookmark⟩ session) := by
    unfold publishReceiptWrites
    dsimp only
    split <;> simp [StateKey.family]
  refine ⟨_, moved, ?_, rfl⟩
  simp only [sharedOps_append, sharedOps_same receipt (by decide)]
  rfl

theorem applyPublish_shared (batch : PublishBatch) :
    Refines count (view.applyPublish logId batch)
      ((view.shared count).applyPublish logId batch) := by
  have identity : (view.shared count).identity = view.identity := rfl
  have spec : (view.shared count).get .bootstrap = view.get .bootstrap := rfl
  have receipt : (view.shared count).get (.receipt batch.partition batch.request) =
      view.get (.receipt batch.partition batch.request) := rfl
  have stored : (view.shared count).get (sessionKey batch.partition batch.request) =
      view.get (sessionKey batch.partition batch.request) := rfl
  have tail : (view.shared count).nextOffsetOf batch.partition =
      view.nextOffsetOf batch.partition := rfl
  have bookmark (name : BookmarkName) (offset : Nat) :
      (view.shared count).createBookmarkRecord (publishBookmarkId logId none) batch.partition name
          offset
          offset =
        view.createBookmarkRecord (publishBookmarkId logId none) batch.partition name offset
          offset := rfl
  unfold applyPublish
  simp only [identity, spec, receipt, stored]
  split
  · exact refines_reject _
  split
  · exact refines_reject _
  split
  · exact refines_reject _
  split
  · exact refines_error _ _
  · split
    · exact refines_reply _ []
    · exact refines_reject _
  split
  · exact refines_reject _
  unfold publishUnbatchedNew
  simp only [tail, bookmark]
  split
  · exact refines_error _ _
  split
  · exact publishUnbatched_shared batch _ _ _ (within_nil _)
  split
  · exact refines_error _ _
  · rename_i created
    exact publishUnbatched_shared batch _ _ _
      (createBookmarkRecord_footprint _ _ _ _ _ _ _ created).1
  · rename_i error write created
    rintro _ _ ⟨⟩
    have bookmarks := (createBookmarkRecord_footprint _ _ _ _ _ _ _ created).1
    exact ⟨_, write.payload, by rw [sharedOps_same bookmarks (by decide)], rfl⟩
  · exact refines_error _ _

end GroupView

end LightStream
