import LightStream.Proofs.PublishTxn

/-!
The batched transaction against a plain interpreter of the batch: no caches, each request on the
state that the requests before it left.
-/

namespace LightStream

namespace GroupView

variable {view : GroupView} {logId : GroupLogId} {cluster : ClusterId}

/-- What the transaction remembers too well: a receipt that the batch evicted, as it was stored
before the batch. -/
def evictedReceipt (view : GroupView) (cluster : ClusterId) (written : WriteBatch)
    (batch : PublishBatch) : Option StoredPublishOutcome :=
  if batch.cluster = cluster ∧ batch.cluster = view.identity.clusterId ∧
      written.state.effect (.receipt batch.partition batch.request) = some none then
    view.get (.receipt batch.partition batch.request)
  else none

def plainItem (view : GroupView) (logId : GroupLogId) (cluster : ClusterId)
    (written : WriteBatch) (requestOrdinal slot : Nat) (batch : PublishBatch) : PublishStep :=
  match view.evictedReceipt cluster written batch with
  | some stored => .ok (⟨batch.request, stored.answer batch⟩, .empty)
  | none => (view.after written.state).publishSpec logId cluster requestOrdinal slot batch

def plainLoop (view : GroupView) (logId : GroupLogId) (cluster : ClusterId) :
    List PublishBatch → Nat → Nat → WriteBatch →
      Except IoError (List PublishItemOutcome × WriteBatch)
  | [], _, _, written => .ok ([], written)
  | batch :: rest, requestOrdinal, slot, written =>
      match view.plainItem logId cluster written requestOrdinal slot batch with
      | .error error => .error error
      | .ok (outcome, write) =>
          (view.plainLoop logId cluster rest (requestOrdinal + 1) (slot + batch.records.length)
            (written.append write)).map fun done => (outcome :: done.1, done.2)

theorem publishItem_plain {txn : PublishApplyTxn} (sound : txn.Sound view)
    (requestOrdinal slot : Nat) (batch : PublishBatch) :
    Simulates view txn (view.plainItem logId cluster txn.write requestOrdinal slot batch)
      (view.publishItem logId cluster txn requestOrdinal slot batch) := by
  unfold plainItem
  cases evicted : view.evictedReceipt cluster txn.write batch with
  | some stored =>
      unfold evictedReceipt at evicted
      split at evicted
      · rename_i deleted
        obtain ⟨own, located, deleted⟩ := deleted
        have stale : txn.Stale view batch := ⟨deleted, by rw [evicted]; rfl⟩
        obtain ⟨found, known, answered⟩ :=
          publishItem_stale sound logId cluster requestOrdinal slot batch stale own located
        obtain rfl : found = stored := Option.some.inj (known.symm.trans evicted)
        rw [answered]
        exact .done _ _ _ sound (by simp [WriteBatch.append, WriteBatch.empty])
      · cases evicted
  | none =>
      by_cases foreign : batch.cluster = cluster ∧ batch.cluster = view.identity.clusterId
      · apply publishItem_simulates sound
        rintro ⟨deleted, found⟩
        rw [evictedReceipt, if_pos ⟨foreign.1, foreign.2, deleted⟩] at evicted
        rw [evicted] at found
        cases found
      -- a request of another cluster is refused before its receipt is looked at
      · have refused : view.publishItem logId cluster txn requestOrdinal slot batch =
            .ok (⟨batch.request, .error clusterMismatch⟩, txn) := by
          unfold publishItem applyOne
          by_cases other : batch.cluster = cluster
          · rw [if_neg (by simpa using other), if_pos fun located => foreign ⟨other, located⟩]
          · rw [if_pos other]
        rw [refused, publishSpec, if_pos (by tauto)]
        exact .done _ _ _ sound (by simp [WriteBatch.append, WriteBatch.empty])

theorem publishLoop_plain : ∀ {requests : List PublishBatch} {requestOrdinal slot : Nat}
    {txn : PublishApplyTxn}, txn.Sound view →
    (view.publishLoop logId cluster requests requestOrdinal slot txn).map
        (fun done => (done.1, done.2.write)) =
      view.plainLoop logId cluster requests requestOrdinal slot txn.write := by
  intro requests
  induction requests with
  | nil =>
      intro requestOrdinal slot txn _
      rfl
  | cons batch rest ih =>
      intro requestOrdinal slot txn sound
      have item := @publishItem_plain view logId cluster txn sound requestOrdinal slot batch
      rw [publishLoop, plainLoop]
      generalize view.plainItem logId cluster txn.write requestOrdinal slot batch = plain at item
      generalize view.publishItem logId cluster txn requestOrdinal slot batch = step at item
      cases item with
      | failed error => rfl
      | done outcome write next nextSound written =>
          dsimp only
          rw [← written, ← ih nextSound]
          cases view.publishLoop logId cluster rest (requestOrdinal + 1)
            (slot + batch.records.length) next <;> rfl

def applyPublishPlain (view : GroupView) (logId : GroupLogId) (batch : ReplicatedPublishBatch) :
    Applied :=
  if view.identity.kind ≠ .data then
    reject (.identityMismatch "publish reached the control group")
  else
    match view.get .bootstrap with
    | none => reject .notBootstrapped
    | some spec =>
        (view.plainLoop logId spec.cluster batch.requests 0 0 .empty).map
          fun done => (.publishedMany done.1, done.2)

/-- `apply_publish_many` is the plain interpreter: whatever the batch, its caches change neither an
answer nor a write nor a failure, but for the answer from a receipt that the same batch evicted. -/
theorem publishMany_plain (view : GroupView) (logId : GroupLogId) (batch : ReplicatedPublishBatch) :
    view.applyPublishMany logId batch = view.applyPublishPlain logId batch := by
  unfold applyPublishMany applyPublishPlain
  by_cases kind : view.identity.kind ≠ .data
  · rw [if_pos kind, if_pos kind]
  rw [if_neg kind, if_neg kind]
  cases view.get .bootstrap with
  | none => rfl
  | some spec =>
      have loop := @publishLoop_plain view logId spec.cluster batch.requests 0 0 _
        (@PublishApplyTxn.new_sound view)
      rw [show PublishApplyTxn.new.write = .empty from rfl] at loop
      dsimp only
      rw [← loop]
      cases view.publishLoop logId spec.cluster batch.requests 0 0 PublishApplyTxn.new <;> rfl

end GroupView

end LightStream
