import LightStream.Proofs.LogSpec
import LightStream.Proofs.Receipts

/-!
Retries over runs of publish commands.  In a run of `PublishMany` commands every request is
decided once.  In a run of both generations a retry of a stored request answers as its receipt
says, unless a `Publish` meets a receipt that it cannot read or compares only in part.
-/

namespace LightStream

namespace GroupView

variable {view : GroupView} {logId : GroupLogId} {cluster : ClusterId}

theorem publishTrace_error : ∀ {requests : List PublishBatch} {requestOrdinal slot : Nat}
      {txn : PublishApplyTxn} {error : IoError}, txn.Sound view →
      (∀ entry ∈ slottedRequests slot requests,
        SlotsOwned view logId entry.1 entry.2.records.length) →
      view.publishTrace logId cluster requests requestOrdinal slot txn = .error error →
      error = publicationOverflow := by
  intro requests
  induction requests with
  | nil =>
      intro requestOrdinal slot txn error _ _ failed
      simp [publishTrace] at failed
  | cons publish rest ih =>
      intro requestOrdinal slot txn error sound owned failed
      rw [slottedRequests] at owned
      rw [publishTrace] at failed
      split at failed
      · rename_i itemError itemFailed
        cases failed
        exact publishItem_error sound (owned _ (List.mem_cons_self ..)) itemFailed
      rename_i outcome next item
      split at failed
      · rename_i restError restFailed
        cases failed
        exact ih (publishItem_cases sound item).1
          (fun entry member => owned entry (List.mem_cons_of_mem _ member)) restFailed
      · simp at failed

/-- The answer to a retry of a stored request: its outcome for the same body, a conflict for
any other. -/
def retryAnswer (earlier : Occurrence) (batch : PublishBatch) : Except DomainError PublishReceipt :=
  if fingerprint batch = fingerprint earlier.batch then earlier.result
  else .error .receiptConflict

theorem ItemCase.answers {txn : PublishApplyTxn} {requestOrdinal slot : Nat}
    {batch : PublishBatch} {outcome : PublishItemOutcome} {write : WriteBatch}
    {earlier : Occurrence} (located : view.identity.clusterId = cluster)
    (item : ItemCase view txn logId cluster requestOrdinal slot batch outcome write)
    (remembered : earlier.Remembered (txn.committed view)) (base : earlier.BaseHolds view)
    (partition : batch.partition = earlier.batch.partition)
    (request : batch.request = earlier.batch.request) (own : batch.cluster = cluster)
    (present : (view.get (.receipt batch.partition batch.request)).isSome = true) :
    outcome.result = retryAnswer earlier batch := by
  have baseReceipt := base
  unfold Occurrence.BaseHolds at baseReceipt
  have pendingReceipt := remembered.receipt
  rw [← partition, ← request] at baseReceipt pendingReceipt
  cases item with
  | stale _ evicted stored found => exact (baseReceipt stored found).answer batch
  | current current done =>
      have fresh := current own (own.trans located.symm)
      cases done with
      | foreign mismatch =>
          exact absurd (mismatch.elim id fun other same => other (same.trans located.symm))
            (by simpa using own)
      | answered _ stored found => exact (pendingReceipt stored found).answer batch
      | expired _ absent =>
          rw [PublishApplyTxn.committed_absent fresh absent] at present
          simp at present
      | refused _ absent newer =>
          exact absurd ⟨partition, request⟩ (remembered.other_request newer)
      | accepted _ absent newer =>
          exact absurd ⟨partition, request⟩ (remembered.other_request newer)

theorem publishTrace_answers (located : view.identity.clusterId = cluster)
    {earlier : Occurrence} (base : earlier.BaseHolds view)
    (present : (view.get
      (.receipt earlier.batch.partition earlier.batch.request)).isSome = true) :
    ∀ {requests : List PublishBatch} {requestOrdinal slot : Nat} {txn last : PublishApplyTxn}
      {trace : List Occurrence}, txn.Sound view → earlier.Remembered (txn.committed view) →
      view.publishTrace logId cluster requests requestOrdinal slot txn = .ok (trace, last) →
      ∀ later ∈ trace, later.batch.partition = earlier.batch.partition →
        later.batch.request = earlier.batch.request → later.batch.cluster = cluster →
        later.result = retryAnswer earlier later.batch := by
  intro requests
  induction requests with
  | nil =>
      intro requestOrdinal slot txn last trace sound remembered traced
      cases traced
      simp
  | cons publish rest ih =>
      intro requestOrdinal slot txn last trace sound remembered traced
      rw [publishTrace] at traced
      split at traced
      · simp at traced
      rename_i outcome next item
      split at traced
      · simp at traced
      rename_i others final tail
      cases traced
      obtain ⟨nextSound, write, written, itemCase⟩ := publishItem_cases sound item
      have kept := (itemCase.remembers located written).1 earlier remembered
      intro later member
      rcases List.mem_cons.mp member with rfl | inRest
      · intro partition request own
        refine itemCase.answers located remembered base partition request own ?_
        dsimp only at partition request
        rw [partition, request]
        exact present
      · exact ih nextSound kept tail later inRest

end GroupView

def ReplicatedPublishBatch.single (batch : PublishBatch) : ReplicatedPublishBatch where
  requests := [batch]
  nonempty := by simp
  requestCount := by simp [maxRequestsPerReplicatedPublish]
  recordCount := by
    have count := batch.valid.count
    simp only [maxRecordsPerPublish, maxRecordsPerReplicatedPublish, List.map_cons, List.map_nil,
      List.sum_cons, List.sum_nil] at count ⊢
    omega
  payloadBytes := by
    have total := batch.valid.total
    simp only [maxPublishBytes, maxReplicatedPublishBytes, List.map_cons, List.map_nil,
      List.sum_cons, List.sum_nil] at total ⊢
    omega

def sampleCluster : ClusterId := ⟨1⟩

def sampleSpec : BootstrapSpec := ⟨sampleCluster, ⟨1⟩, ⟨"events"⟩⟩

def sampleData (window : Nat) : GroupDb :=
  (GroupDb.create ⟨storageFormatVersion, sampleCluster, dataGroupId, .data⟩ window).commit
    ⟨[.put .bootstrap sampleSpec, .put .mutationFence MutationFenceState.default], []⟩

theorem sampleData_serving (window : Nat) : (sampleData window).Serving sampleSpec :=
  ⟨rfl, rfl, rfl, rfl⟩

def samplePublish (cluster : ClusterId) (sequence : Nat) (bookmark : Option BookmarkName) :
    PublishBatch where
  cluster := cluster
  partition := ⟨⟨1⟩, 0⟩
  request := ⟨⟨"writer"⟩, ⟨1⟩, sequence⟩
  records := [[7]]
  bookmark := bookmark
  valid := sampleRecords_valid

namespace GroupDb

variable {db : GroupDb} {spec : BootstrapSpec}

theorem publishMany_occurrences_error {logId : GroupLogId} {batch : ReplicatedPublishBatch}
    {error : IoError}
    (failed : (db.append [⟨logId, .normal (.publishMany batch)⟩]).occurrences spec logId
      (.publishMany batch) = .error error) : error = GroupView.publicationOverflow := by
  simp only [occurrences] at failed
  split at failed
  · rename_i traceError traceFailed
    cases failed
    refine GroupView.publishTrace_error PublishApplyTxn.new_sound ?_ traceFailed
    rintro ⟨slot, publish⟩ member index bound
    rw [view_owners, append_slots member bound]
    rfl
  · simp at failed

/-- What a `Publish` needs of the receipt of its request: none, or one of its own generation
that either differs in what the first generation hashes or has the same bookmark name. -/
def Readable (db : GroupDb) : PublishCommand → Prop
  | .publishMany _ => True
  | .publish batch =>
      ∀ stored, db.get (.receipt batch.partition batch.request) = some stored →
        ∃ receipt, stored = .legacy receipt ∧ (receipt.fingerprint ≠ legacyFingerprint batch ∨
          receipt.receipt.bookmark.map CommittedBookmark.name = batch.bookmark)

theorem publishRun_remembers : ∀ {commands : List (GroupLogId × PublishCommand)} {db last : GroupDb}
      {answers : List (ApplyResult × List Occurrence)}, db.Serving spec →
      db.publishRun spec commands = .ok (answers, last) →
      last.Serving spec ∧
      (∀ earlier : Occurrence, earlier.Remembered db.view → earlier.Remembered last.view) ∧
      ∀ this ∈ answers.flatMap Prod.snd, this.writes ≠ [] → this.Remembered last.view := by
  intro commands
  induction commands with
  | nil =>
      intro db last answers serving ran
      cases ran
      exact ⟨serving, fun earlier remembered => remembered, by simp⟩
  | cons entry rest ih =>
      intro db last answers serving ran
      obtain ⟨logId, command⟩ := entry
      rw [publishRun] at ran
      split at ran
      · simp at ran
      rename_i first traced
      split at ran
      · simp at ran
      rename_i result next applied
      split at ran
      · simp at ran
      rename_i others final tail
      cases ran
      have logged := serving.append [⟨logId, .normal command.command⟩]
      have advances : Advances spec (db.append [⟨logId, .normal command.command⟩]) next first := by
        cases command with
        | publish batch => exact publish_advances logged traced applied
        | publishMany batch => exact (publishMany_advances logged traced applied).1
      obtain ⟨atEnd, kept, stored⟩ := ih advances.serving tail
      refine ⟨atEnd, ?_, ?_⟩
      · intro earlier remembered
        exact kept earlier (advances.kept earlier (remembered.of_get fun _ _ => rfl))
      · intro this member recorded
        rcases List.mem_append.mp member with inFirst | inOthers
        · exact kept this (advances.stored this inFirst recorded)
        · exact stored this inOthers recorded

theorem storeRecords_error {view : GroupView} {logId : GroupLogId} {partition : PartitionKey} :
    ∀ {records : List Record} {slot offset : Nat} {retention : PartitionRetentionState}
      {write : WriteBatch} {error : IoError},
      view.storeRecords logId partition records slot offset retention write = .error error →
      ∃ message, error = .other message := by
  intro records
  induction records with
  | nil =>
      intro slot offset retention write error failed
      simp [GroupView.storeRecords] at failed
  | cons record rest ih =>
      intro slot offset retention write error failed
      rw [GroupView.storeRecords] at failed
      split at failed
      · cases failed
        exact ⟨_, rfl⟩
      split at failed
      · cases failed
        exact ⟨_, rfl⟩
      · exact ih failed

theorem createBookmarkRecord_error {view : GroupView} {id : BookmarkId} {partition : PartitionKey}
    {name : BookmarkName} {offset maximumOffset : Nat} {error : IoError} :
    view.createBookmarkRecord id partition name offset maximumOffset ≠ .error error := by
  unfold GroupView.createBookmarkRecord reject reply
  repeat' split
  all_goals simp

theorem publishUnbatched_decode {view : GroupView} {logId : GroupLogId} {batch : PublishBatch}
    {session : SessionState} {range : CommittedRecordRange} {bookmark : Option CommittedBookmark}
    {writes : StateBatch} :
    view.publishUnbatched logId batch session range bookmark writes ≠ .error .decode := by
  unfold GroupView.publishUnbatched
  split
  · rename_i error failed
    obtain ⟨message, rfl⟩ := storeRecords_error failed
    simp
  · simp

theorem applyPublish_decode {view : GroupView} {logId : GroupLogId} {batch : PublishBatch}
    (failed : view.applyPublish logId batch = .error .decode) :
    ∃ stored, view.get (.receipt batch.partition batch.request) = some (.versioned stored) := by
  unfold GroupView.applyPublish reject reply at failed
  split at failed
  · simp at failed
  split at failed
  · simp at failed
  split at failed
  · simp at failed
  split at failed
  · rename_i stored found
    exact ⟨stored, found⟩
  · split at failed <;> simp at failed
  · dsimp only at failed
    split at failed
    · simp at failed
    exfalso
    unfold GroupView.publishUnbatchedNew at failed
    split at failed
    · simp at failed
    split at failed
    · exact publishUnbatched_decode failed
    split at failed
    · rename_i error created
      exact createBookmarkRecord_error created
    · exact publishUnbatched_decode failed
    · simp at failed
    · simp at failed

theorem publishMany_no_decode (serving : db.Serving spec) (logId : GroupLogId)
    (batch : ReplicatedPublishBatch) :
    (db.append [⟨logId, .normal (.publishMany batch)⟩]).applyEntry
      ⟨logId, .normal (.publishMany batch)⟩ ≠ .error .decode := by
  intro failed
  have logged := serving.append [⟨logId, .normal (.publishMany batch)⟩]
  rw [applyEntry_publishMany logged] at failed
  split at failed
  · rename_i error traceFailed
    cases failed
    have occurrencesFailed : (db.append [⟨logId, .normal (.publishMany batch)⟩]).occurrences
        spec logId (.publishMany batch) = .error .decode := by
      simp only [occurrences]
      rw [traceFailed]
    have overflow := publishMany_occurrences_error occurrencesFailed
    simp [GroupView.publicationOverflow] at overflow
  · simp at failed

theorem publish_no_decode (serving : db.Serving spec) {logId : GroupLogId} {batch : PublishBatch}
    (readable : db.Readable (.publish batch)) :
    db.applyEntry ⟨logId, .normal (.publish batch)⟩ ≠ .error .decode := by
  intro failed
  rw [applyEntry_publish serving] at failed
  split at failed
  · rename_i error applied
    cases failed
    obtain ⟨stored, found⟩ := applyPublish_decode applied
    obtain ⟨receipt, legacy, _⟩ := readable (.versioned stored) found
    simp at legacy
  · simp at failed

theorem publish_answers (serving : db.Serving spec) (logId : GroupLogId) {batch : PublishBatch}
    (readable : db.Readable (.publish batch)) {earlier : Occurrence}
    (remembered : earlier.Remembered db.view) (own : batch.cluster = spec.cluster)
    (partition : batch.partition = earlier.batch.partition)
    (request : batch.request = earlier.batch.request)
    (present : (db.get (.receipt batch.partition batch.request)).isSome = true) :
    db.occurrences spec logId (.publish batch) =
      .ok [⟨batch, GroupView.retryAnswer earlier batch, []⟩] := by
  obtain ⟨stored, found⟩ := Option.isSome_iff_exists.mp present
  obtain ⟨receipt, rfl, compared⟩ := readable stored found
  have holds : earlier.Holds (.legacy receipt) := by
    refine remembered.receipt _ ?_
    rw [← partition, ← request]
    exact found
  have answer := holds.answer batch
  have bootstrapped : db.view.get .bootstrap = some spec := serving.bootstrapped
  have kind : db.view.identity.kind = .data := serving.kind
  have located : db.view.identity.clusterId = spec.cluster := serving.located
  have stored : db.view.get (.receipt batch.partition batch.request) = some (.legacy receipt) :=
    found
  rw [GroupView.retryAnswer, ← answer]
  simp only [occurrences, GroupView.applyPublish, kind, bootstrapped, located, own, stored, ne_eq,
    not_true_eq_false, or_self, if_false, StoredPublishOutcome.answer]
  by_cases sameBody : receipt.fingerprint = legacyFingerprint batch
  · have sameName := compared.resolve_left (by simpa using sameBody)
    simp [sameBody, sameName, reply]
  · simp [sameBody, reject, reply]

/-- Applying a command after a run does not fail to decode, and its retries of requests that the
run committed, while their receipts are stored, answer with the original receipt for the same body
and with a conflict for every other. -/
def Interoperates (next : GroupDb) (spec : BootstrapSpec)
    (answers : List (ApplyResult × List Occurrence)) (logId : GroupLogId)
    (command : PublishCommand) : Prop :=
  (next.append [⟨logId, .normal command.command⟩]).applyEntry ⟨logId, .normal command.command⟩ ≠
      .error .decode ∧
    ∀ earlier ∈ answers.flatMap Prod.snd, ∀ receipt, earlier.result = .ok receipt →
      earlier.writes ≠ [] →
      (next.get (.receipt earlier.batch.partition earlier.batch.request)).isSome = true →
      ∀ retried, (next.append [⟨logId, .normal command.command⟩]).occurrences spec logId command =
        .ok retried →
      ∀ later ∈ retried, later.batch.cluster = spec.cluster →
        later.batch.partition = earlier.batch.partition →
        later.batch.request = earlier.batch.request →
        later.result = if fingerprint later.batch = fingerprint earlier.batch then .ok receipt
          else .error .receiptConflict

/-- The two generations of publish commands interoperate over runs that mix them, as long as the
next command can read its receipt. -/
theorem publish_generations_interoperate (db next : GroupDb) (spec : BootstrapSpec)
    (commands : List (GroupLogId × PublishCommand)) (answers : List (ApplyResult × List Occurrence))
    (serving : db.Serving spec) (ran : db.publishRun spec commands = .ok (answers, next))
    (logId : GroupLogId) (command : PublishCommand) (readable : next.Readable command) :
    next.Interoperates spec answers logId command := by
  obtain ⟨atEnd, _, stored⟩ := publishRun_remembers serving ran
  have logged := atEnd.append [⟨logId, .normal command.command⟩]
  refine ⟨?_, ?_⟩
  · cases command with
    | publishMany batch => exact publishMany_no_decode atEnd logId batch
    | publish batch => exact publish_no_decode logged readable
  intro earlier member receipt committed recorded present retried traced later laterMember own
    partition request
  have remembered : earlier.Remembered (next.append [⟨logId, .normal command.command⟩]).view :=
    (stored earlier member recorded).of_get fun _ _ => rfl
  rw [← committed]
  change later.result = GroupView.retryAnswer earlier later.batch
  cases command with
  | publishMany batch =>
      simp only [occurrences] at traced
      split at traced
      · simp at traced
      rename_i trace last done
      cases traced
      exact GroupView.publishTrace_answers logged.located remembered.receipt present
        PublishApplyTxn.new_sound remembered done later laterMember partition request own
  | publish batch =>
      have single : retried = [⟨batch, later.result, later.writes⟩] := by
        simp only [occurrences] at traced
        split at traced
        · simp at traced
        all_goals
          cases traced
          simp at laterMember
        all_goals
          subst laterMember
          rfl
      have sameBatch : later.batch = batch := by
        rw [single, List.mem_singleton] at laterMember
        rw [laterMember]
      rw [sameBatch] at own partition request ⊢
      have answered := publish_answers logged logId readable remembered own partition
        request (by rw [partition, request]; exact present)
      rw [answered, single] at traced
      simp only [Except.ok.injEq, List.cons.injEq, Occurrence.mk.injEq, true_and, and_true]
        at traced
      exact traced.1.symm

def sampleCommands : List (GroupLogId × PublishCommand) :=
  [(⟨1, 1, 1⟩, .publishMany (.single (samplePublish sampleCluster 0 none)))]

theorem publish_generations_interoperate_sample : ∃ answers next,
    (sampleData 2).publishRun sampleSpec sampleCommands = .ok (answers, next) ∧
    next.Interoperates sampleSpec answers ⟨1, 1, 2⟩
      (.publishMany (.single (samplePublish sampleCluster 0 none))) := by
  have succeeds : ((sampleData 2).publishRun sampleSpec sampleCommands).toBool = true := by decide
  cases ran : (sampleData 2).publishRun sampleSpec sampleCommands with
  | error error =>
      rw [ran] at succeeds
      simp [Except.toBool] at succeeds
  | ok done =>
      exact ⟨done.1, done.2, rfl, publish_generations_interoperate _ _ _ _ _
        (sampleData_serving 2) ran ⟨1, 1, 2⟩
        (.publishMany (.single (samplePublish sampleCluster 0 none))) trivial⟩

def publishedResults (run : Except IoError (List (ApplyResult × List Occurrence) × GroupDb)) :
    Except IoError (List (Except DomainError PublishReceipt)) :=
  run.map fun done => (done.1.flatMap Prod.snd).map Occurrence.result

/-- A `Publish` after a `PublishMany` of the same request fails to decode, and a `Publish` that
differs from a stored one only in its bookmark name gets the original receipt. -/
theorem publish_misreads_receipts :
    publishedResults ((sampleData 2).publishRun sampleSpec
        [(⟨1, 1, 1⟩, .publishMany (.single (samplePublish sampleCluster 0 none))),
          (⟨1, 1, 2⟩, .publish (samplePublish sampleCluster 0 none))]) = .error .decode ∧
    ∃ receipt, publishedResults ((sampleData 2).publishRun sampleSpec
        [(⟨1, 1, 1⟩, .publish (samplePublish sampleCluster 0 (some ⟨"first"⟩))),
          (⟨1, 1, 2⟩, .publish (samplePublish sampleCluster 0 (some ⟨"second"⟩)))]) =
      .ok [.ok receipt, .ok receipt] := by
  refine ⟨by decide, ⟨⟨⟨"writer"⟩, ⟨1⟩, 0⟩, ⟨⟨⟨1⟩, 0⟩, 0, 1, by decide, by decide⟩,
    some (.published (publishBookmarkId ⟨1, 1, 1⟩ none) ⟨"first"⟩ ⟨sampleCluster, ⟨⟨1⟩, 0⟩, 1⟩ 1)⟩,
    by decide⟩

end GroupDb

end LightStream
