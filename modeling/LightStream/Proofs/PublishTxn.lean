import LightStream.Proofs.PublishSpec

/-!
The batched transaction against `publishSpec`.  Its caches are sound overlays of the committed
store under the pending batch, with one exception: an evicted receipt leaves the outcome cache,
so a later read of it falls through to the committed store.
-/

namespace LightStream

abbrev StateOverlay (ι α : Type) := Kv.Overlay StateKey StateVal ι α

def offsetOverlay : StateOverlay PartitionKey Nat :=
  ⟨.nextOffset, fun _ stored => stored.getD 0⟩

def retentionOverlay : StateOverlay PartitionKey PartitionRetentionState :=
  ⟨.retention, fun _ stored => stored.getD PartitionRetentionState.default⟩

def sessionOverlay : StateOverlay (PartitionKey × PrincipalId × ProducerSessionId) SessionState :=
  ⟨fun index => .session index.1 index.2.1 index.2.2,
    fun _ stored => stored.getD SessionState.default⟩

def bookmarkNameOverlay : StateOverlay (PartitionKey × BookmarkName) (Option BookmarkId) :=
  ⟨fun index => .bookmarkName index.1 index.2, fun _ stored => stored⟩

def bookmarkIdOverlay : StateOverlay BookmarkId (Option CommittedBookmark) :=
  ⟨.bookmarkId, fun _ stored => stored⟩

def publicationOverlay : StateOverlay PartitionKey Nat :=
  ⟨.bookmarkPublication, fun _ stored => stored.getD 0⟩

namespace PublishApplyTxn

def committed (view : GroupView) (txn : PublishApplyTxn) : GroupView :=
  view.after txn.write.state

/-- The outcome cache: a cached outcome is the pending receipt, and without one the batch has
left the receipt alone or deleted it. -/
def OutcomesSound (batch : StateBatch)
    (outcomes : PartitionKey × ProducerRequestId → Option VersionedStoredPublishOutcome) : Prop :=
  ∀ partition request,
    (∀ stored, outcomes (partition, request) = some stored →
      batch.effect (.receipt partition request) = some (some (.versioned stored))) ∧
    (outcomes (partition, request) = none →
      batch.effect (.receipt partition request) = none ∨
        batch.effect (.receipt partition request) = some none)

theorem OutcomesSound.append_of_within {batch ops : StateBatch}
    {outcomes : PartitionKey × ProducerRequestId → Option VersionedStoredPublishOutcome}
    (sound : OutcomesSound batch outcomes) {families : List StateFamily}
    (within : Within families ops) (outside : .receipt ∉ families) :
    OutcomesSound (batch ++ ops) outcomes := by
  intro partition request
  have silent : Kv.Batch.effect ops (.receipt partition request) = none :=
    within.effect_none outside
  rw [Kv.Batch.effect_append, silent, Option.none_or]
  exact sound partition request

structure Sound (view : GroupView) (txn : PublishApplyTxn) : Prop where
  offsets : offsetOverlay.Sound view.get txn.write.state txn.nextOffsets
  retentions : retentionOverlay.Sound view.get txn.write.state txn.retentions
  sessions : sessionOverlay.Sound view.get txn.write.state txn.sessions
  names : bookmarkNameOverlay.Sound view.get txn.write.state txn.bookmarkNames
  ids : bookmarkIdOverlay.Sound view.get txn.write.state txn.bookmarkIds
  publications : publicationOverlay.Sound view.get txn.write.state txn.bookmarkPublications
  outcomes : OutcomesSound txn.write.state txn.outcomes

/-- The receipt of a request was deleted by the batch but is still in the committed store. -/
def Stale (view : GroupView) (txn : PublishApplyTxn) (batch : PublishBatch) : Prop :=
  txn.write.state.effect (.receipt batch.partition batch.request) = some none ∧
    (view.get (.receipt batch.partition batch.request)).isSome = true

variable {view : GroupView} {txn : PublishApplyTxn}

theorem new_sound : new.Sound view where
  offsets := Kv.Overlay.sound_empty
  retentions := Kv.Overlay.sound_empty
  sessions := Kv.Overlay.sound_empty
  names := Kv.Overlay.sound_empty
  ids := Kv.Overlay.sound_empty
  publications := Kv.Overlay.sound_empty
  outcomes := fun _ _ => ⟨fun _ cached => by simp [new] at cached, fun _ => .inl rfl⟩

theorem Sound.priorOutcome_eq (sound : txn.Sound view) {batch : PublishBatch}
    (current : ¬txn.Stale view batch) :
    txn.priorOutcome view batch = (txn.committed view).priorPublishOutcome batch := by
  obtain ⟨cached, absent⟩ := sound.outcomes batch.partition batch.request
  unfold priorOutcome GroupView.priorPublishOutcome committed GroupView.after
  cases lookup : txn.outcomes (receiptIndex batch) with
  | some stored => simp [Kv.pending, cached stored lookup]
  | none =>
      rcases absent lookup with silent | deleted
      · simp [Kv.pending, silent]
      · have empty : view.get (.receipt batch.partition batch.request) = none := by
          rw [← Option.not_isSome_iff_eq_none]
          exact fun found => current ⟨deleted, found⟩
        simp [Kv.pending, deleted, empty]

theorem committed_absent {batch : PublishBatch} (current : ¬txn.Stale view batch)
    (absent : (txn.committed view).get (.receipt batch.partition batch.request) = none) :
    view.get (.receipt batch.partition batch.request) = none := by
  unfold committed GroupView.after Kv.pending at absent
  cases effect : txn.write.state.effect (.receipt batch.partition batch.request) with
  | none => simpa [effect] using absent
  | some written =>
      have deleted : written = none := by simpa [effect] using absent
      subst deleted
      rw [← Option.not_isSome_iff_eq_none]
      exact fun found => current ⟨effect, found⟩

/-- What a cached read does: it gives the pending value, and fills the cache. -/
structure Reads (view : GroupView) (txn : PublishApplyTxn) {α : Type} (expected : α)
    (read : α × PublishApplyTxn) : Prop where
  value : read.1 = expected
  sound : read.2.Sound view
  write : read.2.write = txn.write

theorem Reads.committed {α : Type} {expected : α} {read : α × PublishApplyTxn}
    (reads : Reads view txn expected read) : read.2.committed view = txn.committed view := by
  rw [PublishApplyTxn.committed, PublishApplyTxn.committed, reads.write]

theorem session_reads (sound : txn.Sound view) (batch : PublishBatch) :
    Reads view txn ((txn.committed view).sessionOf batch) (txn.session view batch) := by
  have lookup := sound.sessions.lookup_eq (sessionIndex batch)
  unfold session
  cases cached : txn.sessions (sessionIndex batch) with
  | some value =>
      rw [Kv.Overlay.lookup, cached] at lookup
      exact ⟨lookup, sound, rfl⟩
  | none =>
      have filled := sound.sessions.fill (sessionIndex batch)
      rw [Kv.Overlay.lookup, cached] at lookup filled
      exact ⟨lookup, { sound with sessions := filled }, rfl⟩

theorem nextOffset_reads (sound : txn.Sound view) (partition : PartitionKey) :
    Reads view txn ((txn.committed view).nextOffsetOf partition) (txn.nextOffset view partition) := by
  have lookup := sound.offsets.lookup_eq partition
  unfold nextOffset
  cases cached : txn.nextOffsets partition with
  | some value =>
      rw [Kv.Overlay.lookup, cached] at lookup
      exact ⟨lookup, sound, rfl⟩
  | none =>
      have filled := sound.offsets.fill partition
      rw [Kv.Overlay.lookup, cached] at lookup filled
      exact ⟨lookup, { sound with offsets := filled }, rfl⟩

theorem retention_reads (sound : txn.Sound view) (partition : PartitionKey) :
    Reads view txn ((txn.committed view).retentionOf partition) (txn.retention view partition) := by
  have lookup := sound.retentions.lookup_eq partition
  unfold retention
  cases cached : txn.retentions partition with
  | some value =>
      rw [Kv.Overlay.lookup, cached] at lookup
      exact ⟨lookup, sound, rfl⟩
  | none =>
      have filled := sound.retentions.fill partition
      rw [Kv.Overlay.lookup, cached] at lookup filled
      exact ⟨lookup, { sound with retentions := filled }, rfl⟩

theorem bookmarkNameIsUsed_reads (sound : txn.Sound view) (partition : PartitionKey)
    (name : BookmarkName) :
    Reads view txn ((txn.committed view).get (.bookmarkName partition name)).isSome
      (txn.bookmarkNameIsUsed view partition name) := by
  have lookup := sound.names.lookup_eq (partition, name)
  unfold bookmarkNameIsUsed
  cases cached : txn.bookmarkNames (partition, name) with
  | some value =>
      rw [Kv.Overlay.lookup, cached] at lookup
      exact ⟨congrArg Option.isSome lookup, sound, rfl⟩
  | none =>
      have filled := sound.names.fill (partition, name)
      rw [Kv.Overlay.lookup, cached] at lookup filled
      exact ⟨congrArg Option.isSome lookup, { sound with names := filled }, rfl⟩

theorem bookmarkId_reads (sound : txn.Sound view) (id : BookmarkId) :
    Reads view txn ((txn.committed view).get (.bookmarkId id)) (txn.bookmarkId view id) := by
  have lookup := sound.ids.lookup_eq id
  unfold bookmarkId
  cases cached : txn.bookmarkIds id with
  | some value =>
      rw [Kv.Overlay.lookup, cached] at lookup
      exact ⟨lookup, sound, rfl⟩
  | none =>
      have filled := sound.ids.fill id
      rw [Kv.Overlay.lookup, cached] at lookup filled
      exact ⟨lookup, { sound with ids := filled }, rfl⟩

theorem bookmarkPublication_reads (sound : txn.Sound view) (partition : PartitionKey) :
    Reads view txn (((txn.committed view).get (.bookmarkPublication partition)).getD 0)
      (txn.bookmarkPublication view partition) := by
  have lookup := sound.publications.lookup_eq partition
  unfold bookmarkPublication
  cases cached : txn.bookmarkPublications partition with
  | some value =>
      rw [Kv.Overlay.lookup, cached] at lookup
      exact ⟨lookup, sound, rfl⟩
  | none =>
      have filled := sound.publications.fill partition
      rw [Kv.Overlay.lookup, cached] at lookup filled
      exact ⟨lookup, { sound with publications := filled }, rfl⟩

theorem untouched_of_within {ι α : Type} {overlay : StateOverlay ι α}
    {families : List StateFamily} {ops : StateBatch} (within : Within families ops)
    (outside : ∀ index, (overlay.key index).family ∉ families) (index : ι) :
    Kv.Batch.effect ops (overlay.key index) = none :=
  within.effect_none (outside index)

theorem record_write (batch : PublishBatch) (session : SessionState)
    (result : StoredPublishResult) :
    (txn.record view batch session result).write =
      txn.write.append ⟨view.recordWrites batch session result, []⟩ := by
  unfold record advanceSession storeOutcome putState GroupView.recordWrites
    GroupView.receiptWrites WriteBatch.append
  cases expired : (session.advance view.receiptWindow batch.request.sequence).2 <;>
    simp [expired]

theorem record_outcomes (batch : PublishBatch) (session : SessionState)
    (result : StoredPublishResult) (partition : PartitionKey) (request : ProducerRequestId) :
    (txn.record view batch session result).outcomes (partition, request) =
      if partition = batch.partition ∧
          (session.advance view.receiptWindow batch.request.sequence).2.map
            (expiredRequest batch.request) = some request then none
      else if partition = batch.partition ∧ request = batch.request then
        some ⟨fingerprint batch, result⟩
      else txn.outcomes (partition, request) := by
  unfold record advanceSession storeOutcome putState receiptIndex
  dsimp only
  cases expired : (session.advance view.receiptWindow batch.request.sequence).2 with
  | none => simp [Function.update_apply]
  | some sequence =>
      by_cases samePartition : partition = batch.partition
      · simp [Function.update_apply, samePartition, eq_comm]
      · simp [samePartition]

theorem Sound.record (sound : txn.Sound view) (batch : PublishBatch) (session : SessionState)
    (result : StoredPublishResult) : (txn.record view batch session result).Sound view := by
  have within := @GroupView.receiptWrites_within view batch session
    (.versioned ⟨fingerprint batch, result⟩)
  have write : (txn.record view batch session result).write.state =
      txn.write.state ++ view.recordWrites batch session result := by
    rw [record_write]
    rfl
  have sessions : (txn.record view batch session result).sessions =
      Function.update txn.sessions (sessionIndex batch)
        (some (session.advance view.receiptWindow batch.request.sequence).1) := by
    unfold PublishApplyTxn.record advanceSession storeOutcome putState
    dsimp only
    split <;> rfl
  have others : (txn.record view batch session result).nextOffsets = txn.nextOffsets ∧
      (txn.record view batch session result).retentions = txn.retentions ∧
      (txn.record view batch session result).bookmarkNames = txn.bookmarkNames ∧
      (txn.record view batch session result).bookmarkIds = txn.bookmarkIds ∧
      (txn.record view batch session result).bookmarkPublications = txn.bookmarkPublications := by
    unfold PublishApplyTxn.record advanceSession storeOutcome putState
    dsimp only
    split <;> exact ⟨rfl, rfl, rfl, rfl, rfl⟩
  obtain ⟨offsets, retentions, names, ids, publications⟩ := others
  constructor
  · rw [write, offsets]
    exact sound.offsets.append_of_untouched
      (untouched_of_within within (by simp [offsetOverlay, StateKey.family]))
  · rw [write, retentions]
    exact sound.retentions.append_of_untouched
      (untouched_of_within within (by simp [retentionOverlay, StateKey.family]))
  · rw [write, sessions]
    exact sound.sessions.append_write (sessionIndex batch) _
      (GroupView.receiptWrites_effect_session batch session _)
      (fun other different => GroupView.receiptWrites_effect_other_session batch session _
        different)
  · rw [write, names]
    exact sound.names.append_of_untouched
      (untouched_of_within within (by simp [bookmarkNameOverlay, StateKey.family]))
  · rw [write, ids]
    exact sound.ids.append_of_untouched
      (untouched_of_within within (by simp [bookmarkIdOverlay, StateKey.family]))
  · rw [write, publications]
    exact sound.publications.append_of_untouched
      (untouched_of_within within (by simp [publicationOverlay, StateKey.family]))
  · intro partition request
    rw [write, record_outcomes, Kv.Batch.effect_append, GroupView.recordWrites,
      GroupView.receiptWrites_effect_receipt]
    split
    · simp
    · split
      · simp
      · simpa using sound.outcomes partition request

theorem Sound.bookmark (sound : txn.Sound view) (partition : PartitionKey)
    (bookmark : CommittedBookmark) :
    Sound view { txn.putState (GroupView.bookmarkWrites partition bookmark) with
      bookmarkNames :=
        Function.update txn.bookmarkNames (partition, bookmark.name) (some (some bookmark.id))
      bookmarkIds := Function.update txn.bookmarkIds bookmark.id (some (some bookmark))
      bookmarkPublications :=
        Function.update txn.bookmarkPublications partition (some bookmark.publication) } := by
  have within := GroupView.bookmarkWrites_within partition bookmark
  constructor
  · exact sound.offsets.append_of_untouched
      (untouched_of_within within (by simp [offsetOverlay, StateKey.family]))
  · exact sound.retentions.append_of_untouched
      (untouched_of_within within (by simp [retentionOverlay, StateKey.family]))
  · exact sound.sessions.append_of_untouched
      (untouched_of_within within (by simp [sessionOverlay, StateKey.family]))
  · refine sound.names.append_write (partition, bookmark.name) (some bookmark.id) ?_ ?_
    · simp [GroupView.bookmarkWrites, bookmarkNameOverlay, Kv.Op.effect]
    · rintro ⟨otherPartition, otherName⟩ different
      have distinct : ¬(partition = otherPartition ∧ bookmark.name = otherName) := by
        rintro ⟨rfl, rfl⟩
        exact different rfl
      simp [GroupView.bookmarkWrites, bookmarkNameOverlay, Kv.Op.effect, distinct]
  · refine sound.ids.append_write bookmark.id (some bookmark) ?_ ?_
    · simp [GroupView.bookmarkWrites, bookmarkIdOverlay, Kv.Op.effect]
    · intro other different
      simp [GroupView.bookmarkWrites, bookmarkIdOverlay, Kv.Op.effect, Ne.symm different]
  · refine sound.publications.append_write partition (some bookmark.publication) ?_ ?_
    · simp [GroupView.bookmarkWrites, publicationOverlay, Kv.Op.effect]
    · intro other different
      simp [GroupView.bookmarkWrites, publicationOverlay, Kv.Op.effect, Ne.symm different]
  · exact sound.outcomes.append_of_within within (by decide)

/-- What creating the bookmark of a request does, against the planned bookmark. -/
inductive Plans (view : GroupView) (txn : PublishApplyTxn) (partition : PartitionKey) :
    Except IoError (Except DomainError (Option CommittedBookmark)) →
    Except IoError (Except DomainError (Option CommittedBookmark) × PublishApplyTxn) → Prop where
  | failed (error : IoError) : Plans view txn partition (.error error) (.error error)
  | refused (error : DomainError) (next : PublishApplyTxn) (sound : next.Sound view)
      (write : next.write = txn.write) :
      Plans view txn partition (.ok (.error error)) (.ok (.error error, next))
  | planned (bookmark : Option CommittedBookmark) (next : PublishApplyTxn)
      (sound : next.Sound view)
      (write : next.write = txn.write.append ⟨(match bookmark with
        | none => []
        | some bookmark => GroupView.bookmarkWrites partition bookmark), []⟩) :
      Plans view txn partition (.ok (.ok bookmark)) (.ok (.ok bookmark, next))

theorem publishBookmark_plans (sound : txn.Sound view) (logId : GroupLogId)
    (requestOrdinal : Nat) (batch : PublishBatch) (offset : Nat) :
    Plans view txn batch.partition
      ((txn.committed view).plannedBookmark logId requestOrdinal batch offset)
      (txn.publishBookmark view logId requestOrdinal batch offset) := by
  unfold publishBookmark GroupView.plannedBookmark
  cases named : batch.bookmark with
  | none =>
      refine .planned none txn sound ?_
      simp [WriteBatch.append]
  | some name =>
      have existing := bookmarkId_reads sound (publishBookmarkId logId (some requestOrdinal))
      have previous := bookmarkPublication_reads existing.sound batch.partition
      rw [existing.committed] at previous
      simp only [createPublishBookmark, existing.value, previous.value]
      by_cases taken : ((txn.committed view).get
          (.bookmarkId (publishBookmarkId logId (some requestOrdinal)))).isSome = true
      · simp only [taken, if_true]
        exact .refused _ _ existing.sound existing.write
      simp only [taken, Bool.false_eq_true, if_false]
      cases sum : checkedAdd
          (((txn.committed view).get (.bookmarkPublication batch.partition)).getD 0) 1 with
      | none => exact .failed _
      | some publication =>
          refine .planned _ _ (previous.sound.bookmark batch.partition (CommittedBookmark.published
            (publishBookmarkId logId (some requestOrdinal)) name _ publication)) ?_
          simp only [putState, previous.write, existing.write, WriteBatch.append, List.append_nil]
          rfl

theorem Sound.records (sound : txn.Sound view) (partition : PartitionKey) (ops : StateBatch)
    (within : Within [.record] ops) (payload : PayloadBatch) (next : Nat)
    (retention : PartitionRetentionState) :
    Sound view { txn with
      write := ⟨txn.write.state ++ (ops ++ [.put (.nextOffset partition) next,
        .put (.retention partition) retention]), payload⟩
      nextOffsets := Function.update txn.nextOffsets partition (some next)
      retentions := Function.update txn.retentions partition (some retention) } := by
  have wide : Within [.record, .nextOffset, .retention] (ops ++ [.put (.nextOffset partition) next,
      .put (.retention partition) retention]) := by
    rw [within_append]
    exact ⟨within.mono (by decide), by simp [StateKey.family]⟩
  have noOffset (other : PartitionKey) : Kv.Batch.effect ops (.nextOffset other) = none :=
    within.effect_none (by simp [StateKey.family])
  have noRetention (other : PartitionKey) : Kv.Batch.effect ops (.retention other) = none :=
    within.effect_none (by simp [StateKey.family])
  constructor
  · refine sound.offsets.append_write partition (some next) ?_ ?_
    · simp [offsetOverlay, Kv.Batch.effect_append, Kv.Op.effect]
    · intro other different
      simp [offsetOverlay, Kv.Batch.effect_append, Kv.Op.effect, Ne.symm different, noOffset]
  · refine sound.retentions.append_write partition (some retention) ?_ ?_
    · simp [retentionOverlay, Kv.Batch.effect_append, Kv.Op.effect]
    · intro other different
      simp [retentionOverlay, Kv.Batch.effect_append, Kv.Op.effect, Ne.symm different,
        noRetention]
  · exact sound.sessions.append_of_untouched
      (untouched_of_within wide (by simp [sessionOverlay, StateKey.family]))
  · exact sound.names.append_of_untouched
      (untouched_of_within wide (by simp [bookmarkNameOverlay, StateKey.family]))
  · exact sound.ids.append_of_untouched
      (untouched_of_within wide (by simp [bookmarkIdOverlay, StateKey.family]))
  · exact sound.publications.append_of_untouched
      (untouched_of_within wide (by simp [publicationOverlay, StateKey.family]))
  · exact sound.outcomes.append_of_within wide (by decide)

end PublishApplyTxn

/-- A step of the transaction does what the specification does: it fails alike, or gives the
same outcome, keeps the caches sound and appends the same writes. -/
inductive Simulates (view : GroupView) (txn : PublishApplyTxn) :
    GroupView.PublishStep → Except IoError (PublishItemOutcome × PublishApplyTxn) → Prop where
  | failed (error : IoError) : Simulates view txn (.error error) (.error error)
  | done (outcome : PublishItemOutcome) (write : WriteBatch) (next : PublishApplyTxn)
      (sound : next.Sound view) (written : next.write = txn.write.append write) :
      Simulates view txn (.ok (outcome, write)) (.ok (outcome, next))

theorem Simulates.of_write {view : GroupView} {txn first : PublishApplyTxn}
    {spec : GroupView.PublishStep} {step : Except IoError (PublishItemOutcome × PublishApplyTxn)}
    (simulates : Simulates view first spec step) (same : first.write = txn.write) :
    Simulates view txn spec step := by
  cases simulates with
  | failed error => exact .failed error
  | done outcome write next sound written => exact .done outcome write next sound (same ▸ written)

namespace GroupView

variable {view : GroupView} {txn : PublishApplyTxn}

theorem ownerOps_committed (logId : GroupLogId) (records : List Record) (slot : Nat) :
    ownerOps (txn.committed view) logId records slot = ownerOps view logId records slot := by
  induction records generalizing slot with
  | nil => rfl
  | cons record rest ih =>
      rw [ownerOps, ownerOps, ih]
      rfl

theorem refuse_simulates (sound : txn.Sound view) {base : GroupView}
    (same : txn.committed view = base) (batch : PublishBatch)
    (rejection : StoredPublishRejection) (error : DomainError) :
    Simulates view txn (base.refuseWrites batch rejection error)
      (.ok (⟨batch.request, .error error⟩,
        txn.record view batch (base.sessionOf batch) (.rejected rejection))) := by
  subst same
  refine .done _ _ _ (sound.record batch _ _) ?_
  rw [PublishApplyTxn.record_write]
  rfl

theorem publishRecords_simulates (sound : txn.Sound view) {base : GroupView}
    {start : PublishApplyTxn} (same : start.committed view = base) (logId : GroupLogId) (slot : Nat)
    (batch : PublishBatch) (range : CommittedRecordRange) (bookmark : Option CommittedBookmark)
    (written : txn.write = start.write.append ⟨(match bookmark with
        | none => []
        | some bookmark => bookmarkWrites batch.partition bookmark), []⟩)
    (fits : (base.retentionOf batch.partition).nextBytePosition + payloadTotal batch.records ≤
      u64Max) :
    Simulates view start
      (if SlotsOwned base logId slot batch.records.length then
        .ok (⟨batch.request, .ok ⟨batch.request, range, bookmark⟩⟩,
          base.publishWrites logId slot batch range bookmark)
      else .error (.other "applied entry payload is missing ownership"))
      (view.publishRecords logId txn slot batch (base.sessionOf batch)
        (base.retentionOf batch.partition) range bookmark) := by
  subst same
  rw [publishRecords, storeRecords_eq fits]
  have sameOwners : SlotsOwned (start.committed view) logId slot batch.records.length ↔
      SlotsOwned view logId slot batch.records.length := Iff.rfl
  by_cases owned : SlotsOwned view logId slot batch.records.length
  · simp only [sameOwners, owned, if_true]
    refine .done _ _ _ ?_ ?_
    · have stored := sound.records batch.partition
        (recordOps logId batch.partition batch.records slot range.first
          ((start.committed view).retentionOf batch.partition).nextBytePosition)
        (recordOps_within _ _ _ _ _ _)
        (txn.write.payload ++ ownerOps view logId batch.records slot) range.next
        { (start.committed view).retentionOf batch.partition with
          nextBytePosition := ((start.committed view).retentionOf batch.partition).nextBytePosition
            + payloadTotal batch.records }
      simp only [← List.append_assoc] at stored
      exact stored.record batch _ _
    · rw [PublishApplyTxn.record_write]
      simp only [WriteBatch.append, written, publishWrites, ownerOps_committed, List.append_nil,
        List.append_assoc]
      rfl
  · simp only [sameOwners, owned, if_false]
    exact .failed _

theorem publishNew_simulates (sound : txn.Sound view) {base : GroupView}
    (same : txn.committed view = base) (logId : GroupLogId) (requestOrdinal slot : Nat)
    (batch : PublishBatch) :
    Simulates view txn (base.allocateSpec logId requestOrdinal slot batch)
      (view.publishNew logId txn requestOrdinal slot batch (base.sessionOf batch)) := by
  have first := PublishApplyTxn.nextOffset_reads sound batch.partition
  have retention := PublishApplyTxn.retention_reads first.sound batch.partition
  have firstBase := first.committed.trans same
  have retentionBase := retention.committed.trans firstBase
  rw [same] at first
  rw [firstBase] at retention
  unfold publishNew allocateSpec
  dsimp only
  rw [first.value]
  rcases CommittedRecordRange.new batch.partition (base.nextOffsetOf batch.partition)
    batch.records.length with error | range
  · cases error with
    | invalidRange reason =>
        exact (refuse_simulates first.sound firstBase batch _ _).of_write first.write
    | _ => exact .failed _
  · rw [retention.value]
    have write := retention.write.trans first.write
    cases sum : checkedAdd (base.retentionOf batch.partition).nextBytePosition
        (payloadTotal batch.records) with
    | none => exact (refuse_simulates retention.sound retentionBase batch _ _).of_write write
    | some total =>
      obtain ⟨sum, fits⟩ := checkedAdd_some.mp sum
      have plans := PublishApplyTxn.publishBookmark_plans retention.sound logId requestOrdinal batch
        range.next
      rw [retentionBase] at plans
      generalize (txn.nextOffset view batch.partition).2.retention view batch.partition = held
        at plans retentionBase write ⊢
      dsimp only
      generalize base.plannedBookmark logId requestOrdinal batch range.next = planned at plans ⊢
      generalize held.2.publishBookmark view logId requestOrdinal batch range.next = created
        at plans ⊢
      cases plans with
      | failed error => exact .failed error
      | refused error next nextSound nextWrite =>
          have nextBase : next.committed view = base := by
            rw [← retentionBase, PublishApplyTxn.committed, PublishApplyTxn.committed, nextWrite]
          exact (refuse_simulates nextSound nextBase batch _ _).of_write (nextWrite.trans write)
      | planned bookmark next nextSound nextWrite =>
          exact (publishRecords_simulates nextSound retentionBase logId slot batch range bookmark
            nextWrite (sum ▸ fits)).of_write write

/-- One request of a batch does to the pending state what `publishSpec` does to a committed
one, unless its receipt is stale. -/
theorem publishItem_simulates (sound : txn.Sound view) (logId : GroupLogId) (cluster : ClusterId)
    (requestOrdinal slot : Nat) (batch : PublishBatch) (current : ¬txn.Stale view batch) :
    Simulates view txn
      ((txn.committed view).publishSpec logId cluster requestOrdinal slot batch)
      (view.publishItem logId cluster txn requestOrdinal slot batch) := by
  have unchanged (result : Except DomainError PublishReceipt) :
      Simulates view txn (.ok (⟨batch.request, result⟩, .empty))
        (.ok (⟨batch.request, result⟩, txn)) := by
    refine .done _ _ _ sound ?_
    simp [WriteBatch.append, WriteBatch.empty]
  have sameIdentity : (txn.committed view).identity = view.identity := rfl
  unfold publishItem publishSpec applyOne
  rw [sameIdentity]
  by_cases otherCluster : batch.cluster ≠ cluster
  · rw [if_pos otherCluster, if_pos (.inl otherCluster)]
    exact unchanged _
  by_cases foreign : batch.cluster ≠ view.identity.clusterId
  · rw [if_neg otherCluster, if_pos foreign, if_pos (.inr foreign)]
    exact unchanged _
  rw [if_neg otherCluster, if_neg foreign, if_neg (by tauto), sound.priorOutcome_eq current]
  cases prior : (txn.committed view).priorPublishOutcome batch with
  | some result => exact unchanged _
  | none =>
      have session := PublishApplyTxn.session_reads sound batch
      dsimp only
      rw [session.value]
      have sameCovers : (txn.committed view).publishSessionCovers batch =
          ((txn.committed view).sessionOf batch).covers batch.request.sequence := rfl
      rw [sameCovers]
      by_cases covered : ((txn.committed view).sessionOf batch).covers batch.request.sequence = true
      · rw [if_pos covered, if_pos covered]
        refine .done _ _ _ session.sound ?_
        rw [session.write]
        simp [WriteBatch.append, WriteBatch.empty]
      rw [if_neg covered, if_neg covered]
      cases named : batch.bookmark with
      | none =>
          simp only [Option.any_none, Bool.false_eq_true, if_false]
          exact (publishNew_simulates session.sound session.committed logId requestOrdinal slot
            batch).of_write session.write
      | some name =>
          have used := PublishApplyTxn.bookmarkNameIsUsed_reads session.sound batch.partition name
          have usedBase := used.committed.trans session.committed
          rw [session.committed] at used
          simp only [Option.any_some, used.value]
          have write := used.write.trans session.write
          split
          · exact (refuse_simulates used.sound usedBase batch _ _).of_write write
          · exact (publishNew_simulates used.sound usedBase logId requestOrdinal slot
              batch).of_write write

/-- Everything a request of a batch can do: answer from a stale receipt, or act on the pending
state. -/
inductive ItemCase (view : GroupView) (txn : PublishApplyTxn) (logId : GroupLogId)
    (cluster : ClusterId) (requestOrdinal slot : Nat) (batch : PublishBatch) :
    PublishItemOutcome → WriteBatch → Prop where
  | stale (own : batch.cluster = cluster) (evicted : txn.Stale view batch)
      (stored : StoredPublishOutcome)
      (found : view.get (.receipt batch.partition batch.request) = some stored) :
      ItemCase view txn logId cluster requestOrdinal slot batch
        ⟨batch.request, stored.answer batch⟩ .empty
  | current {outcome : PublishItemOutcome} {write : WriteBatch}
      (present : batch.cluster = cluster → batch.cluster = view.identity.clusterId →
        ¬txn.Stale view batch)
      (done : PublishCase (txn.committed view) logId cluster requestOrdinal slot batch outcome
        write) :
      ItemCase view txn logId cluster requestOrdinal slot batch outcome write

theorem publishItem_stale (sound : txn.Sound view) (logId : GroupLogId) (cluster : ClusterId)
    (requestOrdinal slot : Nat) (batch : PublishBatch) (stale : txn.Stale view batch)
    (own : batch.cluster = cluster) (located : batch.cluster = view.identity.clusterId) :
    ∃ stored, view.get (.receipt batch.partition batch.request) = some stored ∧
      view.publishItem logId cluster txn requestOrdinal slot batch =
        .ok (⟨batch.request, stored.answer batch⟩, txn) := by
  obtain ⟨cached, _⟩ := sound.outcomes batch.partition batch.request
  obtain ⟨deleted, found⟩ := stale
  obtain ⟨stored, committed⟩ := Option.isSome_iff_exists.mp found
  refine ⟨stored, committed, ?_⟩
  have uncached : txn.outcomes (receiptIndex batch) = none := by
    cases lookup : txn.outcomes (receiptIndex batch) with
    | none => rfl
    | some other =>
        have written := cached other lookup
        rw [deleted] at written
        simp at written
  have prior : txn.priorOutcome view batch = some (stored.answer batch) := by
    rw [PublishApplyTxn.priorOutcome, uncached, committed]
    rfl
  unfold publishItem applyOne
  rw [if_neg (by simpa using own), if_neg (by simpa using located), prior]

theorem publishItem_cases (sound : txn.Sound view) {logId : GroupLogId} {cluster : ClusterId}
    {requestOrdinal slot : Nat} {batch : PublishBatch} {outcome : PublishItemOutcome}
    {next : PublishApplyTxn}
    (done : view.publishItem logId cluster txn requestOrdinal slot batch = .ok (outcome, next)) :
    next.Sound view ∧ ∃ write, next.write = txn.write.append write ∧
      ItemCase view txn logId cluster requestOrdinal slot batch outcome write := by
  by_cases foreign : batch.cluster ≠ cluster ∨ batch.cluster ≠ view.identity.clusterId
  · have answer : outcome = ⟨batch.request, .error clusterMismatch⟩ ∧ next = txn := by
      unfold publishItem applyOne at done
      by_cases other : batch.cluster ≠ cluster
      · rw [if_pos other] at done
        cases done
        exact ⟨rfl, rfl⟩
      · rw [if_neg other, if_pos (foreign.resolve_left other)] at done
        cases done
        exact ⟨rfl, rfl⟩
    obtain ⟨rfl, rfl⟩ := answer
    refine ⟨sound, .empty, by simp [WriteBatch.append, WriteBatch.empty], .current ?_ (.foreign foreign)⟩
    intro own located
    tauto
  simp only [not_or, ne_eq, not_not] at foreign
  obtain ⟨own, located⟩ := foreign
  by_cases stale : txn.Stale view batch
  · obtain ⟨stored, found, answered⟩ :=
      publishItem_stale sound logId cluster requestOrdinal slot batch stale own located
    rw [answered] at done
    cases done
    exact ⟨sound, .empty, by simp [WriteBatch.append, WriteBatch.empty],
      .stale own stale stored found⟩
  · have simulates := publishItem_simulates sound logId cluster requestOrdinal slot batch stale
    rw [done] at simulates
    generalize spec : (txn.committed view).publishSpec logId cluster requestOrdinal slot batch =
      expected at simulates
    cases simulates with
    | done _ write _ nextSound written =>
        exact ⟨nextSound, write, written, .current (fun _ _ => stale) (publishSpec_cases spec)⟩

theorem publishItem_error (sound : txn.Sound view) {logId : GroupLogId} {cluster : ClusterId}
    {requestOrdinal slot : Nat} {batch : PublishBatch} {error : IoError}
    (owned : SlotsOwned view logId slot batch.records.length)
    (failed : view.publishItem logId cluster txn requestOrdinal slot batch = .error error) :
    error = publicationOverflow := by
  by_cases stale : txn.Stale view batch
  · unfold publishItem applyOne at failed
    split at failed
    · simp at failed
    rename_i own
    split at failed
    · simp at failed
    rename_i located
    simp only [ne_eq, not_not] at own located
    obtain ⟨stored, _, answered⟩ :=
      publishItem_stale sound logId cluster requestOrdinal slot batch stale own located
    unfold publishItem applyOne at answered
    rw [if_neg (by simpa using own), if_neg (by simpa using located)] at answered
    rw [answered] at failed
    simp at failed
  · have simulates := publishItem_simulates sound logId cluster requestOrdinal slot batch stale
    rw [failed] at simulates
    generalize spec : (txn.committed view).publishSpec logId cluster requestOrdinal slot batch =
      expected at simulates
    cases simulates with
    | failed _ => exact @publishSpec_error (txn.committed view) _ _ _ _ _ _ owned spec

end GroupView

end LightStream
