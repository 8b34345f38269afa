import LightStream.Proofs.PublishTxn
import LightStream.Storage.Log

/-!
Retry receipts over whole runs.  A run appends and applies publish commands of both
generations one after another and keeps what each request did; a request that stored its
outcome is remembered by its receipt, or by the session once the receipt is evicted.
-/

namespace LightStream

/-- One request of a run: its body, its answer and the state operations it added. -/
structure Occurrence where
  batch : PublishBatch
  result : Except DomainError PublishReceipt
  writes : StateBatch

def Occurrence.outcome (occurrence : Occurrence) : PublishItemOutcome :=
  ⟨occurrence.batch.request, occurrence.result⟩

def GroupView.publishTrace (view : GroupView) (logId : GroupLogId) (cluster : ClusterId) :
    List PublishBatch → Nat → Nat → PublishApplyTxn →
      Except IoError (List Occurrence × PublishApplyTxn)
  | [], _, _, txn => .ok ([], txn)
  | publish :: rest, requestOrdinal, firstPayloadSlot, txn =>
      match view.publishItem logId cluster txn requestOrdinal firstPayloadSlot publish with
      | .error error => .error error
      | .ok (outcome, next) =>
          match view.publishTrace logId cluster rest (requestOrdinal + 1)
              (firstPayloadSlot + publish.records.length) next with
          | .error error => .error error
          | .ok (trace, last) =>
              .ok (⟨publish, outcome.result, next.write.state.drop txn.write.state.length⟩ :: trace,
                last)

theorem GroupView.publishItem_request {view : GroupView} {logId : GroupLogId}
    {cluster : ClusterId} {txn next : PublishApplyTxn} {requestOrdinal slot : Nat}
    {batch : PublishBatch} {outcome : PublishItemOutcome} (sound : txn.Sound view)
    (done : view.publishItem logId cluster txn requestOrdinal slot batch = .ok (outcome, next)) :
    outcome.request = batch.request := by
  obtain ⟨_, write, _, item⟩ := publishItem_cases sound done
  cases item with
  | stale => rfl
  | current present done => cases done <;> rfl

theorem GroupView.publishLoop_eq_publishTrace {view : GroupView} {logId : GroupLogId}
    {cluster : ClusterId} : ∀ {requests : List PublishBatch} {requestOrdinal slot : Nat}
      {txn : PublishApplyTxn}, txn.Sound view →
      view.publishLoop logId cluster requests requestOrdinal slot txn =
        match view.publishTrace logId cluster requests requestOrdinal slot txn with
        | .error error => .error error
        | .ok (trace, last) => .ok (trace.map Occurrence.outcome, last) := by
  intro requests
  induction requests with
  | nil =>
      intro requestOrdinal slot txn _
      rfl
  | cons publish rest ih =>
      intro requestOrdinal slot txn sound
      rw [publishLoop, publishTrace]
      cases item : view.publishItem logId cluster txn requestOrdinal slot publish with
      | error error => rfl
      | ok done =>
          obtain ⟨outcome, next⟩ := done
          have nextSound := (publishItem_cases sound item).1
          have request := publishItem_request sound item
          dsimp only
          rw [ih nextSound]
          cases view.publishTrace logId cluster rest (requestOrdinal + 1)
              (slot + publish.records.length) next with
          | error error => rfl
          | ok traced =>
              simp only [List.map_cons, Occurrence.outcome, ← request]

inductive PublishCommand where
  | publish (batch : PublishBatch)
  | publishMany (batch : ReplicatedPublishBatch)

def PublishCommand.command : PublishCommand → GroupCommand
  | .publish batch => .publish batch
  | .publishMany batch => .publishMany batch

structure GroupDb.Serving (db : GroupDb) (spec : BootstrapSpec) : Prop where
  kind : db.identity.kind = .data
  bootstrapped : db.get .bootstrap = some spec
  located : db.identity.clusterId = spec.cluster
  unfenced : db.view.mutationFenceState.held = none

namespace GroupDb

def occurrences (db : GroupDb) (spec : BootstrapSpec) (logId : GroupLogId) :
    PublishCommand → Except IoError (List Occurrence)
  | .publishMany batch =>
      match db.view.publishTrace logId spec.cluster batch.requests 0 0 PublishApplyTxn.new with
      | .error error => .error error
      | .ok (trace, _) => .ok trace
  | .publish batch =>
      match db.view.applyPublish logId batch with
      | .error error => .error error
      | .ok (.published receipt, write) => .ok [⟨batch, .ok receipt, write.state⟩]
      | .ok (.rejected error, write) => .ok [⟨batch, .error error, write.state⟩]
      | .ok (_, _) => .ok []

/-- Appends and applies commands in log order.  Of each command it keeps the result and what
its requests did. -/
def publishRun (spec : BootstrapSpec) : GroupDb → List (GroupLogId × PublishCommand) →
    Except IoError (List (ApplyResult × List Occurrence) × GroupDb)
  | db, [] => .ok ([], db)
  | db, (logId, command) :: rest =>
      let entry : GroupEntry := ⟨logId, .normal command.command⟩
      let logged := db.append [entry]
      match logged.occurrences spec logId command with
      | .error error => .error error
      | .ok first =>
          match logged.applyEntry entry with
          | .error error => .error error
          | .ok (result, next) =>
              match publishRun spec next rest with
              | .error error => .error error
              | .ok (others, last) => .ok ((result, first) :: others, last)

end GroupDb

def Occurrence.Holds (occurrence : Occurrence) : StoredPublishOutcome → Prop
  | .versioned stored =>
      stored.fingerprint = fingerprint occurrence.batch ∧
        stored.result.asResult = occurrence.result
  | .legacy stored =>
      stored.fingerprint = legacyFingerprint occurrence.batch ∧
        .ok stored.receipt = occurrence.result ∧
        stored.receipt.bookmark.map CommittedBookmark.name = occurrence.batch.bookmark

theorem fingerprint_eq_iff {first second : PublishBatch} :
    fingerprint first = fingerprint second ↔
      legacyFingerprint first = legacyFingerprint second ∧ first.bookmark = second.bookmark := by
  simp only [fingerprint, legacyFingerprint, PublishFingerprint.v2.injEq,
    PublishFingerprint.legacy.injEq]
  tauto

theorem Occurrence.Holds.answer {occurrence : Occurrence} {stored : StoredPublishOutcome}
    (holds : occurrence.Holds stored) (batch : PublishBatch) :
    stored.answer batch =
      if fingerprint batch = fingerprint occurrence.batch then occurrence.result
      else .error .receiptConflict := by
  cases stored with
  | versioned stored =>
      obtain ⟨sameBody, sameResult⟩ := holds
      simp only [StoredPublishOutcome.answer, sameBody, sameResult, eq_comm]
  | legacy stored =>
      obtain ⟨sameBody, sameResult, sameName⟩ := holds
      simp only [StoredPublishOutcome.answer, sameBody, sameName, sameResult, fingerprint_eq_iff,
        eq_comm]

/-- The state remembers an occurrence: its session is at or past it, and its receipt, while it
is stored, is its own. -/
structure Occurrence.Remembered (occurrence : Occurrence) (view : GroupView) : Prop where
  covered : (view.sessionOf occurrence.batch).covers occurrence.batch.request.sequence = true
  receipt : ∀ stored,
    view.get (.receipt occurrence.batch.partition occurrence.batch.request) = some stored →
      occurrence.Holds stored

section Remembering

variable {view : GroupView} {batch : PublishBatch} {stored : StoredPublishOutcome}
  {writes : StateBatch} {occurrence : Occurrence}

theorem SessionState.advance_highest (session : SessionState) (window sequence : Nat) :
    (session.advance window sequence).1.highestSequence = some sequence := by
  unfold SessionState.advance
  dsimp only
  split <;> rfl

theorem SessionState.covers_advance {session : SessionState} {window sequence other : Nat}
    (newer : session.covers sequence = false) (covered : session.covers other = true) :
    (session.advance window sequence).1.covers other = true := by
  unfold SessionState.covers at newer covered ⊢
  rw [advance_highest]
  cases highest : session.highestSequence with
  | none => simp [highest] at covered
  | some bound =>
      simp only [highest, decide_eq_false_iff_not, decide_eq_true_eq] at newer covered ⊢
      omega

theorem GroupView.sessionOf_congr {first second : PublishBatch}
    (same : sessionIndex first = sessionIndex second) :
    view.sessionOf first = view.sessionOf second := by
  simp only [sessionIndex, Prod.mk.injEq] at same
  obtain ⟨partition, principal, session⟩ := same
  unfold GroupView.sessionOf sessionKey
  rw [partition, principal, session]

theorem Occurrence.Remembered.other_request (remembered : occurrence.Remembered view)
    (newer : (view.sessionOf batch).covers batch.request.sequence = false) :
    ¬(batch.partition = occurrence.batch.partition ∧ batch.request = occurrence.batch.request) := by
  rintro ⟨partition, request⟩
  have same : view.sessionOf batch = view.sessionOf occurrence.batch :=
    GroupView.sessionOf_congr (by simp [sessionIndex, partition, request])
  have covered := remembered.covered
  rw [← same, ← request, newer] at covered
  simp at covered

theorem Occurrence.Remembered.records (remembered : occurrence.Remembered view)
    (records : view.Records batch stored writes) : occurrence.Remembered (view.after writes) := by
  have different := remembered.other_request records.newer
  constructor
  · unfold GroupView.sessionOf GroupView.after Kv.pending
    dsimp only
    rw [records.effect (by simp [StateKey.family, GroupView.publishFamilies])]
    by_cases same : sessionIndex occurrence.batch = sessionIndex batch
    · have effect := @GroupView.receiptWrites_effect_session view batch
        (view.sessionOf batch) stored
      have sameSession := @GroupView.sessionOf_congr view _ _ same
      have covered := remembered.covered
      rw [sameSession] at covered
      simp only [sessionIndex, Prod.mk.injEq] at same
      unfold sessionKey at effect ⊢
      rw [same.1, same.2.1, same.2.2, effect]
      exact SessionState.covers_advance records.newer covered
    · have effect := @GroupView.receiptWrites_effect_other_session view batch
        (view.sessionOf batch) stored _ same
      unfold sessionKey
      simp only [sessionIndex] at effect
      rw [effect]
      exact remembered.covered
  · intro found
    unfold GroupView.after Kv.pending
    dsimp only
    rw [records.effect (by simp [StateKey.family, GroupView.publishFamilies]),
      GroupView.receiptWrites_effect_receipt]
    split
    · intro impossible
      simp at impossible
    · rw [if_neg (by tauto)]
      exact remembered.receipt found

theorem Occurrence.remembered_of_records (records : view.Records batch stored writes)
    (sameBatch : occurrence.batch = batch) (holds : occurrence.Holds stored) :
    occurrence.Remembered (view.after writes) := by
  subst sameBatch
  constructor
  · unfold GroupView.sessionOf GroupView.after Kv.pending
    dsimp only
    rw [records.effect (by simp [StateKey.family, GroupView.publishFamilies]),
      GroupView.receiptWrites_effect_session]
    simp [SessionState.covers, SessionState.advance_highest]
  · intro found
    unfold GroupView.after Kv.pending
    dsimp only
    rw [records.effect (by simp [StateKey.family, GroupView.publishFamilies]),
      GroupView.receiptWrites_effect_receipt]
    split
    · intro impossible
      simp at impossible
    · rw [if_pos ⟨rfl, rfl⟩]
      intro same
      cases same
      exact holds

end Remembering

/-- What a later occurrence of a remembered request does: nothing to the state, and it answers
with the original outcome, a conflict, the loss of the receipt, or its foreign cluster. -/
structure Occurrence.Retries (cluster : ClusterId) (earlier later : Occurrence) : Prop where
  quiet : later.writes = []
  answer :
    (later.batch.cluster ≠ cluster ∧ later.result = .error GroupView.clusterMismatch) ∨
    (fingerprint later.batch = fingerprint earlier.batch ∧ later.result = earlier.result) ∨
    (fingerprint later.batch ≠ fingerprint earlier.batch ∧
      later.result = .error .receiptConflict) ∨
    later.result = .error .receiptExpired

/-- Two occurrences in the order of a run: the first outcome that a request stores decides every
later occurrence of it. -/
def Occurrence.Decides (cluster : ClusterId) (earlier later : Occurrence) : Prop :=
  earlier.writes ≠ [] → later.batch.partition = earlier.batch.partition →
    later.batch.request = earlier.batch.request → earlier.Retries cluster later

def Occurrence.BaseHolds (occurrence : Occurrence) (view : GroupView) : Prop :=
  ∀ stored,
    view.get (.receipt occurrence.batch.partition occurrence.batch.request) = some stored →
      occurrence.Holds stored

theorem Occurrence.Holds.retries {earlier later : Occurrence} {cluster : ClusterId}
    {stored : StoredPublishOutcome} (holds : earlier.Holds stored) (quiet : later.writes = [])
    (answered : later.result = stored.answer later.batch) : earlier.Retries cluster later := by
  refine ⟨quiet, ?_⟩
  rw [holds.answer] at answered
  split at answered
  · rename_i same
    exact .inr (.inl ⟨same, answered⟩)
  · rename_i different
    exact .inr (.inr (.inl ⟨different, answered⟩))

namespace GroupView

variable {view : GroupView} {txn next : PublishApplyTxn} {logId : GroupLogId}
  {cluster : ClusterId} {requestOrdinal slot : Nat} {batch : PublishBatch}
  {outcome : PublishItemOutcome} {write : WriteBatch}

theorem ItemCase.retries {earlier later : Occurrence}
    (located : view.identity.clusterId = cluster)
    (item : ItemCase view txn logId cluster requestOrdinal slot batch outcome write)
    (remembered : earlier.Remembered (txn.committed view)) (base : earlier.BaseHolds view)
    (same : later = ⟨batch, outcome.result, write.state⟩)
    (partition : batch.partition = earlier.batch.partition)
    (request : batch.request = earlier.batch.request) : earlier.Retries cluster later := by
  subst same
  have baseReceipt := base
  unfold Occurrence.BaseHolds at baseReceipt
  have pendingReceipt := remembered.receipt
  rw [← partition, ← request] at baseReceipt pendingReceipt
  cases item with
  | stale own evicted stored found => exact (baseReceipt stored found).retries rfl rfl
  | current present done =>
      cases done with
      | foreign mismatch => exact ⟨rfl, .inl ⟨mismatch.elim id fun other same => other (same.trans located.symm), rfl⟩⟩
      | answered own stored found => exact (pendingReceipt stored found).retries rfl rfl
      | expired own absent covered => exact ⟨rfl, .inr (.inr (.inr rfl))⟩
      | refused own absent newer => exact absurd ⟨partition, request⟩ (remembered.other_request newer)
      | accepted own absent newer =>
          exact absurd ⟨partition, request⟩ (remembered.other_request newer)

theorem committed_append {first second : PublishApplyTxn} {write : WriteBatch}
    (written : second.write = first.write.append write) :
    second.committed view = (first.committed view).after write.state := by
  rw [PublishApplyTxn.committed, written]
  exact after_append view first.write.state write.state

theorem ItemCase.remembers
    (item : ItemCase view txn logId cluster requestOrdinal slot batch outcome write)
    (located : view.identity.clusterId = cluster)
    (written : next.write = txn.write.append write) :
    (∀ earlier : Occurrence, earlier.Remembered (txn.committed view) →
      earlier.Remembered (next.committed view)) ∧
    ∀ this : Occurrence, this = ⟨batch, outcome.result, write.state⟩ → this.writes ≠ [] →
      this.Remembered (next.committed view) ∧ this.BaseHolds view := by
  rw [committed_append written]
  cases item with
  | stale =>
      refine ⟨fun earlier remembered => remembered, ?_⟩
      rintro this rfl recorded
      exact absurd rfl recorded
  | current present done =>
      rcases done.quiet_or_records with rfl | ⟨result, own, answer, records⟩
      · refine ⟨fun earlier remembered => remembered, ?_⟩
        rintro this rfl recorded
        exact absurd rfl recorded
      · refine ⟨fun earlier remembered => remembered.records records, ?_⟩
        rintro this rfl _
        refine ⟨Occurrence.remembered_of_records records rfl ⟨rfl, answer.symm⟩, ?_⟩
        intro stored found
        rw [PublishApplyTxn.committed_absent (present own (own.trans located.symm)) records.absent]
          at found
        simp at found

theorem publishTrace_remembers (located : view.identity.clusterId = cluster) :
    ∀ {requests : List PublishBatch} {requestOrdinal slot : Nat} {txn last : PublishApplyTxn}
      {trace : List Occurrence}, txn.Sound view →
      view.publishTrace logId cluster requests requestOrdinal slot txn = .ok (trace, last) →
      trace.Pairwise (Occurrence.Decides cluster) ∧
      (∀ this ∈ trace, this.writes ≠ [] →
        this.Remembered (last.committed view) ∧ this.BaseHolds view) ∧
      ∀ earlier : Occurrence, earlier.Remembered (txn.committed view) → earlier.BaseHolds view →
        earlier.Remembered (last.committed view) ∧
          ∀ later ∈ trace, earlier.Decides cluster later := by
  intro requests
  induction requests with
  | nil =>
      intro requestOrdinal slot txn last trace sound traced
      cases traced
      refine ⟨.nil, by simp, fun earlier remembered _ => ⟨remembered, by simp⟩⟩
  | cons publish rest ih =>
      intro requestOrdinal slot txn last trace sound traced
      rw [publishTrace] at traced
      split at traced
      · simp at traced
      rename_i outcome next item
      split at traced
      · simp at traced
      rename_i others final tail
      cases traced
      obtain ⟨nextSound, write, written, itemCase⟩ := publishItem_cases sound item
      have writes : next.write.state.drop txn.write.state.length = write.state := by
        rw [written]
        exact List.drop_left
      rw [writes]
      obtain ⟨kept, stored⟩ := itemCase.remembers located written
      obtain ⟨decided, remembered, earlierKept⟩ := ih nextSound tail
      refine ⟨List.pairwise_cons.mpr ⟨?_, decided⟩, ?_, ?_⟩
      · intro later member recorded
        obtain ⟨this, base⟩ := stored _ rfl recorded
        exact (earlierKept _ this base).2 later member recorded
      · intro this member recorded
        rcases List.mem_cons.mp member with rfl | inRest
        · obtain ⟨thisRemembered, base⟩ := stored _ rfl recorded
          exact ⟨(earlierKept _ thisRemembered base).1, base⟩
        · exact remembered this inRest recorded
      · intro earlier earlierRemembered base
        obtain ⟨atEnd, decides⟩ := earlierKept earlier (kept earlier earlierRemembered) base
        refine ⟨atEnd, ?_⟩
        intro later member
        rcases List.mem_cons.mp member with rfl | inRest
        · intro _ partition request
          exact itemCase.retries located earlierRemembered base rfl partition request
        · exact decides later inRest

theorem createBookmarkRecord_bookmark {id : BookmarkId} {partition : PartitionKey}
    {name : BookmarkName} {offset maximumOffset : Nat} {bookmark : CommittedBookmark}
    {write : WriteBatch}
    (created : view.createBookmarkRecord id partition name offset maximumOffset =
      .ok (.bookmark bookmark, write)) : bookmark.name = name := by
  unfold createBookmarkRecord reject reply at created
  split at created
  · simp at created
  split at created
  · simp at created
  split at created
  · split at created
    · rename_i matching
      cases created
      exact matching.1
    · simp at created
  · split at created
    · simp at created
    · cases created
      rfl

theorem createBookmarkRecord_rejected {id : BookmarkId} {partition : PartitionKey}
    {name : BookmarkName} {offset maximumOffset : Nat} {error : DomainError} {write : WriteBatch}
    (created : view.createBookmarkRecord id partition name offset maximumOffset =
      .ok (.rejected error, write)) : write = ⟨[], []⟩ := by
  unfold createBookmarkRecord reject reply at created
  repeat' split at created
  all_goals first | (cases created; rfl) | simp at created

theorem publishUnbatched_records {session : SessionState} {range : CommittedRecordRange}
    {bookmark : Option CommittedBookmark} {writes : StateBatch} {result : ApplyResult}
    {write : WriteBatch} (within : Within [.bookmark] writes)
    (sameSession : session = view.sessionOf batch)
    (absent : view.get (.receipt batch.partition batch.request) = none)
    (newer : session.covers batch.request.sequence = false)
    (done : view.publishUnbatched logId batch session range bookmark writes = .ok (result, write)) :
    result = .published ⟨batch.request, range, bookmark⟩ ∧
      view.Records batch (.legacy ⟨legacyFingerprint batch, ⟨batch.request, range, bookmark⟩⟩)
        write.state := by
  subst sameSession
  unfold publishUnbatched at done
  split at done
  · simp at done
  · rename_i retention stored storing
    cases done
    obtain ⟨_, _, state, _⟩ := storeRecords_ok storing
    refine ⟨rfl, absent, newer, _, rfl, ?_⟩
    rw [state]
    simp only [within_append]
    exact ⟨⟨within.mono (by decide), (recordOps_within _ _ _ _ _ _).mono (by decide)⟩,
      by simp [StateKey.family, publishFamilies]⟩

theorem applyPublish_quiet_or_records {result : ApplyResult} {write : WriteBatch}
    (done : view.applyPublish logId batch = .ok (result, write)) :
    write.state = [] ∨ ∃ receipt, result = .published receipt ∧
      receipt.bookmark.map CommittedBookmark.name = batch.bookmark ∧
      view.Records batch (.legacy ⟨legacyFingerprint batch, receipt⟩) write.state := by
  unfold applyPublish reject reply at done
  split at done
  · cases done
    exact .inl rfl
  split at done
  · cases done
    exact .inl rfl
  split at done
  · cases done
    exact .inl rfl
  split at done
  · simp at done
  · split at done
    all_goals
      cases done
      exact .inl rfl
  rename_i absent
  dsimp only at done
  split at done
  · cases done
    exact .inl rfl
  rename_i newer
  simp only [Bool.not_eq_true] at newer
  unfold publishUnbatchedNew at done
  split at done
  · simp at done
  split at done
  · rename_i named
    obtain ⟨published, records⟩ :=
      publishUnbatched_records (within_nil _) rfl absent newer done
    exact .inr ⟨_, published, by rw [named]; rfl, records⟩
  · rename_i name named
    split at done
    · simp at done
    · rename_i bookmark bookmarkWrite created
      have within := (createBookmarkRecord_footprint _ _ _ _ _ _ _ created).1
      obtain ⟨published, records⟩ := publishUnbatched_records within rfl absent newer done
      refine .inr ⟨_, published, ?_, records⟩
      rw [named, ← createBookmarkRecord_bookmark created]
      rfl
    · rename_i error bookmarkWrite created
      cases done
      rw [createBookmarkRecord_rejected created]
      exact .inl rfl
    · simp at done

theorem ItemCase.within
    (item : ItemCase view txn logId cluster requestOrdinal slot batch outcome write) :
    Within publishAllFamilies write.state := by
  cases item with
  | stale => exact within_nil _
  | current present done =>
      rcases done.quiet_or_records with rfl | ⟨_, _, _, records⟩
      · exact within_nil _
      · exact records.within

theorem publishTrace_within : ∀ {requests : List PublishBatch} {requestOrdinal slot : Nat}
      {txn last : PublishApplyTxn} {trace : List Occurrence}, txn.Sound view →
      Within publishAllFamilies txn.write.state →
      view.publishTrace logId cluster requests requestOrdinal slot txn = .ok (trace, last) →
      Within publishAllFamilies last.write.state := by
  intro requests
  induction requests with
  | nil =>
      intro requestOrdinal slot txn last trace sound within traced
      cases traced
      exact within
  | cons publish rest ih =>
      intro requestOrdinal slot txn last trace sound within traced
      rw [publishTrace] at traced
      split at traced
      · simp at traced
      rename_i outcome next item
      split at traced
      · simp at traced
      rename_i others final tail
      cases traced
      obtain ⟨nextSound, write, written, itemCase⟩ := publishItem_cases sound item
      refine ih nextSound ?_ tail
      rw [written]
      exact within_append.mpr ⟨within, itemCase.within⟩

theorem applyPublish_within {result : ApplyResult} {write : WriteBatch}
    (done : view.applyPublish logId batch = .ok (result, write)) :
    Within publishAllFamilies write.state := by
  rcases applyPublish_quiet_or_records done with quiet | ⟨_, _, _, records⟩
  · rw [quiet]
    exact within_nil _
  · exact records.within

end GroupView

theorem Occurrence.Remembered.of_get {occurrence : Occurrence} {first second : GroupView}
    (remembered : occurrence.Remembered first)
    (same : ∀ key : StateKey, key.family ∈ [StateFamily.receipt, .session] →
      second.get key = first.get key) : occurrence.Remembered second := by
  constructor
  · have sameSession : second.sessionOf occurrence.batch = first.sessionOf occurrence.batch := by
      unfold GroupView.sessionOf
      rw [same _ (by simp [StateKey.family])]
    rw [sameSession]
    exact remembered.covered
  · intro stored found
    rw [same _ (by simp [StateKey.family])] at found
    exact remembered.receipt stored found

namespace GroupDb

variable {db next : GroupDb} {spec : BootstrapSpec} {logId : GroupLogId}

theorem Serving.append (serving : db.Serving spec) (entries : List GroupEntry) :
    (db.append entries).Serving spec :=
  ⟨serving.kind, serving.bootstrapped, serving.located, serving.unfenced⟩

theorem Serving.commit (serving : db.Serving spec) {write : WriteBatch}
    (within : Within GroupView.publishAllFamilies write.state) :
    (db.commit ⟨write.state ++ [.put .applied logId], write.payload⟩).Serving spec := by
  have kept (key : StateKey) (outside : key.family ∉ GroupView.publishAllFamilies)
      (notApplied : key.family ≠ .applied) :
      (db.commit ⟨write.state ++ [.put .applied logId], write.payload⟩).get key = db.get key := by
    have wide : Within (.applied :: GroupView.publishAllFamilies)
        (write.state ++ [.put .applied logId]) := by
      rw [within_append]
      exact ⟨within.mono (by decide), by simp [StateKey.family]⟩
    rw [get_commit, wide.effect_none (by simp [outside, notApplied])]
    rfl
  refine ⟨serving.kind, ?_, serving.located, ?_⟩
  · rw [kept .bootstrap (by decide) (by decide)]
    exact serving.bootstrapped
  · have unfenced := serving.unfenced
    unfold GroupView.mutationFenceState at unfenced ⊢
    rw [view_get, kept .mutationFence (by decide) (by decide)]
    exact unfenced

theorem applyEntry_publishMany (serving : db.Serving spec) (batch : ReplicatedPublishBatch) :
    db.applyEntry ⟨logId, .normal (.publishMany batch)⟩ =
      match db.view.publishTrace logId spec.cluster batch.requests 0 0 PublishApplyTxn.new with
      | .error error => .error error
      | .ok (trace, last) =>
          .ok (.publishedMany (trace.map Occurrence.outcome),
            db.commit ⟨last.write.state ++ [.put .applied logId], last.write.payload⟩) := by
  have kind : db.view.identity.kind = .data := serving.kind
  have bootstrapped : db.view.get .bootstrap = some spec := serving.bootstrapped
  rw [applyEntry]
  simp only [GroupView.applyPayload, GroupView.applyCommand, GroupCommand.fenceClass,
    serving.unfenced, GroupView.dispatch, GroupView.applyPublishMany, kind, bootstrapped,
    ne_eq, not_true_eq_false, if_true, if_false,
    GroupView.publishLoop_eq_publishTrace PublishApplyTxn.new_sound]
  cases db.view.publishTrace logId spec.cluster batch.requests 0 0 PublishApplyTxn.new <;> rfl

theorem applyEntry_publish (serving : db.Serving spec) (batch : PublishBatch) :
    db.applyEntry ⟨logId, .normal (.publish batch)⟩ =
      match db.view.applyPublish logId batch with
      | .error error => .error error
      | .ok (result, write) =>
          .ok (result, db.commit ⟨write.state ++ [.put .applied logId], write.payload⟩) := by
  have handled : db.view.applyPayload logId (.normal (.publish batch)) =
      db.view.applyPublish logId batch := by
    simp only [GroupView.applyPayload, GroupView.applyCommand, GroupCommand.fenceClass,
      serving.unfenced, GroupView.dispatch, if_true]
  cases done : db.view.applyPublish logId batch <;> simp only [applyEntry, handled, done]

theorem remembered_commit {occurrence : Occurrence} {write : WriteBatch}
    (remembered : occurrence.Remembered (db.view.after write.state)) :
    occurrence.Remembered
      (db.commit ⟨write.state ++ [.put .applied logId], write.payload⟩).view := by
  refine remembered.of_get fun key member => commit_applied_get ?_
  intro applied
  simp [applied] at member

/-- What one command does to a serving group and to the occurrences it remembers. -/
structure Advances (spec : BootstrapSpec) (db next : GroupDb) (first : List Occurrence) : Prop where
  serving : next.Serving spec
  kept : ∀ earlier : Occurrence, earlier.Remembered db.view → earlier.Remembered next.view
  stored : ∀ this ∈ first, this.writes ≠ [] → this.Remembered next.view

theorem publishMany_advances (serving : db.Serving spec) {batch : ReplicatedPublishBatch}
    {first : List Occurrence} {result : ApplyResult}
    (traced : db.occurrences spec logId (.publishMany batch) = .ok first)
    (applied : db.applyEntry ⟨logId, .normal (.publishMany batch)⟩ = .ok (result, next)) :
    Advances spec db next first ∧ result = .publishedMany (first.map Occurrence.outcome) ∧
      first.Pairwise (Occurrence.Decides spec.cluster) ∧
      ∀ earlier : Occurrence, earlier.Remembered db.view →
        ∀ later ∈ first, earlier.Decides spec.cluster later := by
  rw [applyEntry_publishMany serving] at applied
  simp only [occurrences] at traced
  split at traced
  · simp at traced
  rename_i trace last done
  cases traced
  rw [done] at applied
  cases applied
  obtain ⟨decided, stored, kept⟩ :=
    GroupView.publishTrace_remembers serving.located PublishApplyTxn.new_sound done
  have within := GroupView.publishTrace_within PublishApplyTxn.new_sound (within_nil _) done
  refine ⟨⟨serving.commit within, ?_, ?_⟩, rfl, decided, ?_⟩
  · intro earlier remembered
    exact remembered_commit (kept earlier remembered remembered.receipt).1
  · intro this member recorded
    exact remembered_commit (stored this member recorded).1
  · intro earlier remembered
    exact (kept earlier remembered remembered.receipt).2

theorem publish_advances (serving : db.Serving spec) {batch : PublishBatch}
    {first : List Occurrence} {result : ApplyResult}
    (traced : db.occurrences spec logId (.publish batch) = .ok first)
    (applied : db.applyEntry ⟨logId, .normal (.publish batch)⟩ = .ok (result, next)) :
    Advances spec db next first := by
  rw [applyEntry_publish serving] at applied
  simp only [occurrences] at traced
  cases done : db.view.applyPublish logId batch with
  | error error => simp [done] at applied
  | ok reached =>
      obtain ⟨answer, write⟩ := reached
      rw [done] at applied traced
      cases applied
      refine ⟨serving.commit (GroupView.applyPublish_within done), ?_, ?_⟩
      · intro earlier remembered
        refine remembered_commit ?_
        rcases GroupView.applyPublish_quiet_or_records done with quiet | ⟨_, _, _, records⟩
        · rw [quiet]
          exact remembered
        · exact remembered.records records
      · intro this member recorded
        refine remembered_commit ?_
        rcases GroupView.applyPublish_quiet_or_records done with quiet | ⟨receipt, published, named,
          records⟩
        · have none : this.writes = [] := by
            rw [← quiet]
            split at traced
            · simp at traced
            all_goals
              cases traced
              simp_all
          exact absurd none recorded
        · subst published
          cases traced
          simp only [List.mem_singleton] at member
          subst member
          exact Occurrence.remembered_of_records records rfl ⟨rfl, rfl, named⟩

end GroupDb

end LightStream
