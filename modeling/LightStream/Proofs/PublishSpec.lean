import LightStream.Proofs.Footprint

/-!
Publishing without the transaction.  `publishSpec` says what one request does to a committed
state; a request of a batch does the same to the state that the batch has built so far, except
that a receipt evicted earlier in the batch still answers from the committed store.
-/

namespace LightStream

def recordOps (logId : GroupLogId) (partition : PartitionKey) :
    List Record → Nat → Nat → Nat → StateBatch
  | [], _, _, _ => []
  | record :: rest, slot, offset, position =>
      .put (.record partition offset) ⟨⟨logId, slot⟩, record.length, position + record.length⟩ ::
        recordOps logId partition rest (slot + 1) (offset + 1) (position + record.length)

theorem recordOps_within (logId : GroupLogId) (partition : PartitionKey) (records : List Record)
    (slot offset position : Nat) :
    Within [.record] (recordOps logId partition records slot offset position) := by
  induction records generalizing slot offset position with
  | nil => exact within_nil _
  | cons record rest ih =>
      rw [recordOps, within_cons]
      exact ⟨by simp [StateKey.family], ih _ _ _⟩

def ownerOps (view : GroupView) (logId : GroupLogId) : List Record → Nat → PayloadBatch
  | [], _ => []
  | _ :: rest, slot =>
      .put (.owners ⟨logId, slot⟩)
          (((view.owners ⟨logId, slot⟩).getD PayloadOwners.default).setAppliedIn view.activeBank
            true) ::
        ownerOps view logId rest (slot + 1)

def SlotsOwned (view : GroupView) (logId : GroupLogId) (slot count : Nat) : Prop :=
  ∀ index < count, (view.owners ⟨logId, slot + index⟩).isSome = true

instance (view : GroupView) (logId : GroupLogId) (slot count : Nat) :
    Decidable (SlotsOwned view logId slot count) :=
  inferInstanceAs (Decidable (∀ index < count, _))

theorem slotsOwned_succ {view : GroupView} {logId : GroupLogId} {slot count : Nat} :
    SlotsOwned view logId slot (count + 1) ↔
      (view.owners ⟨logId, slot⟩).isSome = true ∧ SlotsOwned view logId (slot + 1) count := by
  constructor
  · intro owned
    refine ⟨by simpa using owned 0 (by omega), ?_⟩
    intro index bound
    have next := owned (index + 1) (by omega)
    rwa [show slot + (index + 1) = slot + 1 + index by omega] at next
  · rintro ⟨first, rest⟩ index bound
    cases index with
    | zero => simpa using first
    | succ index =>
        have next := rest index (by omega)
        rwa [show slot + 1 + index = slot + (index + 1) by omega] at next

theorem payloadTotal_cons (record : Record) (rest : List Record) :
    payloadTotal (record :: rest) = record.length + payloadTotal rest := rfl

namespace GroupView

theorem storeRecords_ok {view : GroupView} {logId : GroupLogId} {partition : PartitionKey} :
    ∀ {records : List Record} {slot offset : Nat} {retention next : PartitionRetentionState}
      {write stored : WriteBatch},
      view.storeRecords logId partition records slot offset retention write = .ok (next, stored) →
      SlotsOwned view logId slot records.length ∧
        next = { retention with
          nextBytePosition := retention.nextBytePosition + payloadTotal records } ∧
        stored.state = write.state ++
          recordOps logId partition records slot offset retention.nextBytePosition ∧
        stored.payload = write.payload ++ ownerOps view logId records slot ∧
        (retention.nextBytePosition ≤ u64Max →
          retention.nextBytePosition + payloadTotal records ≤ u64Max) := by
  intro records
  induction records with
  | nil =>
      intro slot offset retention next write stored done
      cases done
      exact ⟨fun index bound => by simp at bound, by simp [payloadTotal],
        by simp [recordOps], by simp [ownerOps], by simp [payloadTotal]⟩
  | cons record rest ih =>
      intro slot offset retention next write stored done
      rw [storeRecords] at done
      split at done
      · simp at done
      rename_i owners found
      split at done
      · simp at done
      rename_i position sum
      obtain ⟨sum, bound⟩ := checkedAdd_some.mp sum
      obtain ⟨owned, retained, state, payload, fits⟩ := ih done
      refine ⟨slotsOwned_succ.mpr ⟨by rw [found]; rfl, owned⟩, ?_, ?_, ?_, fun _ => ?_⟩
      · rw [retained, payloadTotal_cons]
        simp only [← sum, Nat.add_assoc]
      · rw [state, recordOps, List.append_assoc, List.singleton_append, ← sum]
      · rw [payload, ownerOps, List.append_assoc, List.singleton_append, found]
        rfl
      · have room := fits bound
        rw [payloadTotal_cons]
        dsimp only at room
        omega

theorem storeRecords_eq {view : GroupView} {logId : GroupLogId} {partition : PartitionKey} :
    ∀ {records : List Record} {slot offset : Nat} {retention : PartitionRetentionState}
      {write : WriteBatch}, retention.nextBytePosition + payloadTotal records ≤ u64Max →
      view.storeRecords logId partition records slot offset retention write =
        if SlotsOwned view logId slot records.length then
          .ok ({ retention with
              nextBytePosition := retention.nextBytePosition + payloadTotal records },
            ⟨write.state ++
                recordOps logId partition records slot offset retention.nextBytePosition,
              write.payload ++ ownerOps view logId records slot⟩)
        else .error (.other "applied entry payload is missing ownership") := by
  intro records
  induction records with
  | nil =>
      intro slot offset retention write _
      have owned : SlotsOwned view logId slot 0 := fun index bound => by omega
      simp [storeRecords, owned, payloadTotal, recordOps, ownerOps]
  | cons record rest ih =>
      intro slot offset retention write fits
      rw [payloadTotal_cons] at fits
      rw [storeRecords, checkedAdd_of_le (by omega), List.length_cons]
      cases found : view.owners ⟨logId, slot⟩ with
      | none => simp [slotsOwned_succ, found]
      | some owners =>
          dsimp only
          rw [ih (by dsimp only; omega)]
          simp [slotsOwned_succ, found, payloadTotal_cons, recordOps, ownerOps, Nat.add_assoc]

def sessionOf (view : GroupView) (batch : PublishBatch) : SessionState :=
  (view.get (sessionKey batch.partition batch.request)).getD SessionState.default

def receiptWrites (view : GroupView) (batch : PublishBatch) (session : SessionState)
    (stored : StoredPublishOutcome) : StateBatch :=
  let advanced := session.advance view.receiptWindow batch.request.sequence
  .put (.receipt batch.partition batch.request) stored ::
    match advanced.2 with
    | none => [.put (sessionKey batch.partition batch.request) advanced.1]
    | some expired =>
        [.delete (.receipt batch.partition (expiredRequest batch.request expired)),
          .put (sessionKey batch.partition batch.request) advanced.1]

theorem receiptWrites_within {view : GroupView} (batch : PublishBatch) (session : SessionState)
    (stored : StoredPublishOutcome) :
    Within [.receipt, .session] (view.receiptWrites batch session stored) := by
  unfold receiptWrites
  rw [within_cons]
  refine ⟨by simp [StateKey.family], ?_⟩
  split <;> simp [StateKey.family]

theorem receiptWrites_effect_session {view : GroupView} (batch : PublishBatch) (session : SessionState)
    (stored : StoredPublishOutcome) :
    Kv.Batch.effect (view.receiptWrites batch session stored)
        (sessionKey batch.partition batch.request) =
      some (some (session.advance view.receiptWindow batch.request.sequence).1) := by
  unfold receiptWrites
  dsimp only
  split <;> simp

theorem receiptWrites_effect_other_session {view : GroupView} (batch : PublishBatch) (session : SessionState)
    (stored : StoredPublishOutcome) {index : PartitionKey × PrincipalId × ProducerSessionId}
    (other : index ≠ sessionIndex batch) :
    Kv.Batch.effect (view.receiptWrites batch session stored)
      (.session index.1 index.2.1 index.2.2) = none := by
  have different : StateKey.session batch.partition batch.request.principal batch.request.session ≠
      .session index.1 index.2.1 index.2.2 := by
    intro same
    simp only [StateKey.session.injEq] at same
    exact other (Prod.ext same.1.symm (Prod.ext same.2.1.symm same.2.2.symm))
  unfold receiptWrites
  dsimp only
  split <;> simp [Kv.Op.effect, different]

theorem receiptWrites_effect_receipt {view : GroupView} (batch : PublishBatch) (session : SessionState)
    (stored : StoredPublishOutcome) (partition : PartitionKey) (request : ProducerRequestId) :
    Kv.Batch.effect (view.receiptWrites batch session stored) (.receipt partition request) =
      if partition = batch.partition ∧
          (session.advance view.receiptWindow batch.request.sequence).2.map
            (expiredRequest batch.request) = some request then some none
      else if partition = batch.partition ∧ request = batch.request then
        some (some stored)
      else none := by
  unfold receiptWrites
  dsimp only
  by_cases samePartition : partition = batch.partition
  · subst samePartition
    cases expired : (session.advance view.receiptWindow batch.request.sequence).2 with
    | none =>
        by_cases same : request = batch.request
        · subst same
          simp [Kv.Op.effect]
        · simp [Kv.Op.effect, same, Ne.symm same]
    | some sequence =>
        by_cases evicted : expiredRequest batch.request sequence = request
        · subst evicted
          simp [Kv.Op.effect]
        · by_cases same : request = batch.request
          · subst same
            simp [Kv.Op.effect, evicted]
          · simp [Kv.Op.effect, evicted, same, Ne.symm same]
  · split <;> simp [Kv.Op.effect, samePartition, Ne.symm samePartition]

def recordWrites (view : GroupView) (batch : PublishBatch) (session : SessionState)
    (result : StoredPublishResult) : StateBatch :=
  view.receiptWrites batch session (.versioned ⟨fingerprint batch, result⟩)

def bookmarkWrites (partition : PartitionKey) (bookmark : CommittedBookmark) : StateBatch :=
  [.put (.bookmarkId bookmark.id) bookmark, .put (.bookmarkName partition bookmark.name) bookmark.id,
    .put (.bookmarkOrder partition bookmark.publication) bookmark,
    .put (.bookmarkPublication partition) bookmark.publication]

theorem bookmarkWrites_within (partition : PartitionKey) (bookmark : CommittedBookmark) :
    Within [.bookmark] (bookmarkWrites partition bookmark) := by
  simp [bookmarkWrites, StateKey.family]

abbrev PublishStep := Except IoError (PublishItemOutcome × WriteBatch)

def refuseWrites (view : GroupView) (batch : PublishBatch) (rejection : StoredPublishRejection)
    (error : DomainError) : PublishStep :=
  .ok (⟨batch.request, .error error⟩,
    ⟨view.recordWrites batch (view.sessionOf batch) (.rejected rejection), []⟩)

def plannedBookmark (view : GroupView) (logId : GroupLogId) (requestOrdinal : Nat)
    (batch : PublishBatch) (offset : Nat) :
    Except IoError (Except DomainError (Option CommittedBookmark)) :=
  match batch.bookmark with
  | none => .ok (.ok none)
  | some name =>
      if (view.get (.bookmarkId (publishBookmarkId logId (some requestOrdinal)))).isSome = true then
        .ok (.error .bookmarkNameConflict)
      else
        match checkedAdd ((view.get (.bookmarkPublication batch.partition)).getD 0) 1 with
        | none => .error (.other "bookmark publication sequence overflow")
        | some publication =>
            .ok (.ok (some (CommittedBookmark.published
              (publishBookmarkId logId (some requestOrdinal)) name
              ⟨view.identity.clusterId, batch.partition, offset⟩ publication)))

def publishWrites (view : GroupView) (logId : GroupLogId) (slot : Nat) (batch : PublishBatch)
    (range : CommittedRecordRange) (bookmark : Option CommittedBookmark) : WriteBatch :=
  let retention := view.retentionOf batch.partition
  ⟨(match bookmark with
      | none => []
      | some bookmark => bookmarkWrites batch.partition bookmark) ++
      recordOps logId batch.partition batch.records slot range.first retention.nextBytePosition ++
      [.put (.nextOffset batch.partition) range.next,
        .put (.retention batch.partition) { retention with
          nextBytePosition := retention.nextBytePosition + payloadTotal batch.records }] ++
      view.recordWrites batch (view.sessionOf batch)
        (.published ⟨batch.request, range, bookmark⟩),
    ownerOps view logId batch.records slot⟩

def allocateSpec (view : GroupView) (logId : GroupLogId) (requestOrdinal slot : Nat)
    (batch : PublishBatch) : PublishStep :=
  match CommittedRecordRange.new batch.partition (view.nextOffsetOf batch.partition)
      batch.records.length with
  | .error (.invalidRange reason) =>
      view.refuseWrites batch (.invalidRange reason) (.invalidRange reason)
  | .error error => .error (.domain error)
  | .ok range =>
      match checkedAdd (view.retentionOf batch.partition).nextBytePosition
          (payloadTotal batch.records) with
      | none =>
          view.refuseWrites batch (.invalidRange "partition byte position overflow")
            (.invalidRange "partition byte position overflow")
      | some _ =>
          match view.plannedBookmark logId requestOrdinal batch range.next with
          | .error error => .error error
          | .ok (.error error) => view.refuseWrites batch .bookmarkNameConflict error
          | .ok (.ok bookmark) =>
              if SlotsOwned view logId slot batch.records.length then
                .ok (⟨batch.request, .ok ⟨batch.request, range, bookmark⟩⟩,
                  view.publishWrites logId slot batch range bookmark)
              else .error (.other "applied entry payload is missing ownership")

def publishSpec (view : GroupView) (logId : GroupLogId) (cluster : ClusterId)
    (requestOrdinal slot : Nat) (batch : PublishBatch) : PublishStep :=
  if batch.cluster ≠ cluster ∨ batch.cluster ≠ view.identity.clusterId then
    .ok (⟨batch.request, .error clusterMismatch⟩, .empty)
  else
    match view.priorPublishOutcome batch with
    | some result => .ok (⟨batch.request, result⟩, .empty)
    | none =>
        if view.publishSessionCovers batch then
          .ok (⟨batch.request, .error .receiptExpired⟩, .empty)
        else if (batch.bookmark.any fun name =>
            (view.get (.bookmarkName batch.partition name)).isSome) = true then
          view.refuseWrites batch .bookmarkNameConflict .bookmarkNameConflict
        else view.allocateSpec logId requestOrdinal slot batch

def BookmarkPlanned (view : GroupView) (logId : GroupLogId) (requestOrdinal : Nat)
    (batch : PublishBatch) (offset : Nat) : Option CommittedBookmark → Prop
  | none => batch.bookmark = none
  | some bookmark =>
      batch.bookmark = some bookmark.name ∧
        bookmark = CommittedBookmark.published (publishBookmarkId logId (some requestOrdinal))
          bookmark.name ⟨view.identity.clusterId, batch.partition, offset⟩ bookmark.publication ∧
        checkedAdd ((view.get (.bookmarkPublication batch.partition)).getD 0) 1 =
          some bookmark.publication ∧
        view.get (.bookmarkId bookmark.id) = none ∧
        view.get (.bookmarkName batch.partition bookmark.name) = none

/-- Everything a request can do: answer from its receipt, answer without one, or record. -/
inductive PublishCase (view : GroupView) (logId : GroupLogId) (cluster : ClusterId)
    (requestOrdinal slot : Nat) (batch : PublishBatch) : PublishItemOutcome → WriteBatch → Prop where
  | foreign (mismatch : batch.cluster ≠ cluster ∨ batch.cluster ≠ view.identity.clusterId) :
      PublishCase view logId cluster requestOrdinal slot batch
        ⟨batch.request, .error clusterMismatch⟩ .empty
  | answered (own : batch.cluster = cluster) (stored : StoredPublishOutcome)
      (found : view.get (.receipt batch.partition batch.request) = some stored) :
      PublishCase view logId cluster requestOrdinal slot batch
        ⟨batch.request, stored.answer batch⟩ .empty
  | expired (own : batch.cluster = cluster)
      (absent : view.get (.receipt batch.partition batch.request) = none)
      (covered : (view.sessionOf batch).covers batch.request.sequence = true) :
      PublishCase view logId cluster requestOrdinal slot batch
        ⟨batch.request, .error .receiptExpired⟩ .empty
  | refused (own : batch.cluster = cluster)
      (absent : view.get (.receipt batch.partition batch.request) = none)
      (newer : (view.sessionOf batch).covers batch.request.sequence = false)
      (rejection : StoredPublishRejection) :
      PublishCase view logId cluster requestOrdinal slot batch
        ⟨batch.request, (StoredPublishResult.rejected rejection).asResult⟩
        ⟨view.recordWrites batch (view.sessionOf batch) (.rejected rejection), []⟩
  | accepted (own : batch.cluster = cluster)
      (absent : view.get (.receipt batch.partition batch.request) = none)
      (newer : (view.sessionOf batch).covers batch.request.sequence = false)
      (range : CommittedRecordRange)
      (allocated : CommittedRecordRange.new batch.partition (view.nextOffsetOf batch.partition)
        batch.records.length = .ok range)
      (owned : SlotsOwned view logId slot batch.records.length)
      (bookmark : Option CommittedBookmark)
      (planned : view.BookmarkPlanned logId requestOrdinal batch range.next bookmark)
      (fits : (view.retentionOf batch.partition).nextBytePosition + payloadTotal batch.records ≤
        u64Max) :
      PublishCase view logId cluster requestOrdinal slot batch
        ⟨batch.request, .ok ⟨batch.request, range, bookmark⟩⟩
        (view.publishWrites logId slot batch range bookmark)

theorem plannedBookmark_ok {view : GroupView} {logId : GroupLogId} {requestOrdinal : Nat}
    {batch : PublishBatch} {offset : Nat} {bookmark : Option CommittedBookmark}
    (unused : (batch.bookmark.any fun name =>
      (view.get (.bookmarkName batch.partition name)).isSome) = false)
    (planned : view.plannedBookmark logId requestOrdinal batch offset = .ok (.ok bookmark)) :
    view.BookmarkPlanned logId requestOrdinal batch offset bookmark := by
  unfold plannedBookmark at planned
  split at planned
  · rename_i named
    cases planned
    exact named
  · rename_i name named
    split at planned
    · simp at planned
    rename_i free
    split at planned
    · simp at planned
    rename_i publication sum
    cases planned
    simp only [named, Option.any_some, Option.isSome_eq_false_iff, Option.isNone_iff_eq_none]
      at unused
    exact ⟨named, rfl, sum, Option.not_isSome_iff_eq_none.mp free, unused⟩

theorem allocateSpec_cases {view : GroupView} {logId : GroupLogId} {cluster : ClusterId}
    {requestOrdinal slot : Nat} {batch : PublishBatch} {outcome : PublishItemOutcome}
    {write : WriteBatch} (own : batch.cluster = cluster)
    (absent : view.get (.receipt batch.partition batch.request) = none)
    (newer : (view.sessionOf batch).covers batch.request.sequence = false)
    (unused : (batch.bookmark.any fun name =>
      (view.get (.bookmarkName batch.partition name)).isSome) = false)
    (done : view.allocateSpec logId requestOrdinal slot batch = .ok (outcome, write)) :
    PublishCase view logId cluster requestOrdinal slot batch outcome write := by
  unfold allocateSpec at done
  split at done
  · cases done
    exact .refused own absent newer (.invalidRange _)
  · simp at done
  · rename_i range allocated
    split at done
    · cases done
      exact .refused own absent newer (.invalidRange _)
    rename_i total sum
    obtain ⟨sum, fits⟩ := checkedAdd_some.mp sum
    split at done
    · simp at done
    · rename_i error refused
      cases done
      have same : error = .bookmarkNameConflict := by
        unfold plannedBookmark at refused
        split at refused
        · simp at refused
        split at refused
        · cases refused
          rfl
        · split at refused <;> simp at refused
      subst same
      exact .refused own absent newer .bookmarkNameConflict
    · rename_i bookmark planned
      split at done
      · rename_i owned
        cases done
        exact .accepted own absent newer range allocated owned bookmark
          (plannedBookmark_ok unused planned) (sum ▸ fits)
      · simp at done

theorem publishSpec_cases {view : GroupView} {logId : GroupLogId} {cluster : ClusterId}
    {requestOrdinal slot : Nat} {batch : PublishBatch} {outcome : PublishItemOutcome}
    {write : WriteBatch}
    (done : view.publishSpec logId cluster requestOrdinal slot batch = .ok (outcome, write)) :
    PublishCase view logId cluster requestOrdinal slot batch outcome write := by
  unfold publishSpec at done
  split at done
  · rename_i mismatch
    cases done
    exact .foreign mismatch
  rename_i matching
  have own : batch.cluster = cluster := by
    by_contra different
    exact matching (.inl different)
  unfold priorPublishOutcome at done
  cases found : view.get (.receipt batch.partition batch.request) with
  | some stored =>
      rw [found] at done
      cases done
      exact .answered own stored found
  | none =>
      rw [found] at done
      simp only [Option.map_none] at done
      have sameCovers : view.publishSessionCovers batch =
          (view.sessionOf batch).covers batch.request.sequence := rfl
      rw [sameCovers] at done
      split at done
      · rename_i covered
        cases done
        exact .expired own found covered
      rename_i newer
      simp only [Bool.not_eq_true] at newer
      split at done
      · cases done
        exact .refused own found newer .bookmarkNameConflict
      · rename_i unused
        exact allocateSpec_cases own found newer (by simpa using unused) done

def publishFamilies : List StateFamily := [.bookmark, .record, .nextOffset, .retention]

/-- The writes of a request that stores an outcome: it was no retry, and it ends with the
receipt and the session. -/
structure Records (view : GroupView) (batch : PublishBatch) (stored : StoredPublishOutcome)
    (writes : StateBatch) : Prop where
  absent : view.get (.receipt batch.partition batch.request) = none
  newer : (view.sessionOf batch).covers batch.request.sequence = false
  split : ∃ before, writes = before ++ view.receiptWrites batch (view.sessionOf batch) stored ∧
    Within publishFamilies before

variable {view : GroupView} {logId : GroupLogId} {cluster : ClusterId} {requestOrdinal slot : Nat}
  {batch : PublishBatch} {outcome : PublishItemOutcome} {write : WriteBatch}
  {stored : StoredPublishOutcome} {writes : StateBatch}

theorem publishWrites_split (range : CommittedRecordRange) (bookmark : Option CommittedBookmark) :
    ∃ before, (view.publishWrites logId slot batch range bookmark).state =
        before ++ view.recordWrites batch (view.sessionOf batch)
          (.published ⟨batch.request, range, bookmark⟩) ∧
      Within publishFamilies before := by
  refine ⟨_, rfl, ?_⟩
  have records := (recordOps_within logId batch.partition batch.records slot range.first
    (view.retentionOf batch.partition).nextBytePosition).widen publishFamilies (by decide)
  simp only [within_append, records, and_true]
  refine ⟨?_, by simp [StateKey.family, publishFamilies]⟩
  cases bookmark with
  | none => exact within_nil _
  | some bookmark => exact (bookmarkWrites_within batch.partition bookmark).mono (by decide)

theorem Records.effect (records : view.Records batch stored writes) {key : StateKey}
    (family : key.family ∉ publishFamilies) :
    Kv.Batch.effect writes key =
      Kv.Batch.effect (view.receiptWrites batch (view.sessionOf batch) stored) key := by
  obtain ⟨before, rfl, within⟩ := records.split
  rw [Kv.Batch.effect_append, within.effect_none family, Option.or_none]

def publishAllFamilies : List StateFamily :=
  [.bookmark, .record, .nextOffset, .retention, .receipt, .session]

theorem Records.within (records : view.Records batch stored writes) :
    Within publishAllFamilies writes := by
  obtain ⟨before, rfl, within⟩ := records.split
  rw [within_append]
  exact ⟨within.mono (by decide), (receiptWrites_within _ _ _).mono (by decide)⟩

theorem PublishCase.quiet_or_records
    (done : PublishCase view logId cluster requestOrdinal slot batch outcome write) :
    write = .empty ∨ ∃ result, batch.cluster = cluster ∧ outcome.result = result.asResult ∧
      view.Records batch (.versioned ⟨fingerprint batch, result⟩) write.state := by
  cases done with
  | foreign => exact .inl rfl
  | answered => exact .inl rfl
  | expired => exact .inl rfl
  | refused own absent newer rejection =>
      exact .inr ⟨_, own, rfl, absent, newer, [], rfl, within_nil _⟩
  | accepted own absent newer range allocated owned bookmark planned =>
      exact .inr ⟨.published ⟨batch.request, range, bookmark⟩, own, rfl, absent, newer,
        publishWrites_split range bookmark⟩

def publicationOverflow : IoError := .other "bookmark publication sequence overflow"

theorem plannedBookmark_error {offset : Nat} {error : IoError}
    (failed : view.plannedBookmark logId requestOrdinal batch offset = .error error) :
    error = publicationOverflow := by
  unfold plannedBookmark at failed
  split at failed
  · simp at failed
  split at failed
  · simp at failed
  split at failed
  · cases failed
    rfl
  · simp at failed

theorem committedRecordRange_error {partition : PartitionKey} {first count : Nat}
    {error : DomainError} (failed : CommittedRecordRange.new partition first count = .error error) :
    ∃ reason, error = .invalidRange reason := by
  unfold CommittedRecordRange.new at failed
  split at failed
  · cases failed
    exact ⟨_, rfl⟩
  split at failed
  · simp at failed
  · cases failed
    exact ⟨_, rfl⟩

theorem publishSpec_error {error : IoError}
    (owned : SlotsOwned view logId slot batch.records.length)
    (failed : view.publishSpec logId cluster requestOrdinal slot batch = .error error) :
    error = publicationOverflow := by
  unfold publishSpec at failed
  split at failed
  · simp at failed
  split at failed
  · simp at failed
  split at failed
  · simp at failed
  split at failed
  · simp [refuseWrites] at failed
  unfold allocateSpec at failed
  split at failed
  · simp [refuseWrites] at failed
  · rename_i other invalid impossible
    obtain ⟨reason, same⟩ := committedRecordRange_error impossible
    exact absurd same (invalid reason)
  · split at failed
    · simp [refuseWrites] at failed
    split at failed
    · rename_i overflow
      cases failed
      exact plannedBookmark_error overflow
    · simp [refuseWrites] at failed
    · rw [if_pos owned] at failed
      simp at failed

end GroupView

end LightStream
