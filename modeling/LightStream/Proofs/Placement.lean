import LightStream.Proofs.Receipts

/-!
Where a publish puts its records.  Both publish commands either leave the records alone, or put
the records of a request right after the tail of its partition, each on its own payload.
-/

namespace LightStream

theorem recordOps_effect (logId : GroupLogId) (partition : PartitionKey) (records : List Record)
    (slot offset position target : Nat) :
    if offset ≤ target ∧ target < offset + records.length then
      ∃ record : StoredRecord, Kv.Batch.effect
          (recordOps logId partition records slot offset position) (.record partition target) =
        some (some record) ∧ record.payloadKey = ⟨logId, slot + (target - offset)⟩
    else Kv.Batch.effect (recordOps logId partition records slot offset position)
      (.record partition target) = none := by
  induction records generalizing slot offset position with
  | nil =>
      rw [if_neg (by simp)]
      rfl
  | cons record rest ih =>
      have later := ih (slot + 1) (offset + 1) (position + record.length)
      rw [recordOps, Kv.Batch.effect_cons]
      by_cases inRest : offset + 1 ≤ target ∧ target < offset + 1 + rest.length
      · rw [if_pos inRest] at later
        obtain ⟨stored, written, payload⟩ := later
        rw [if_pos (by simp only [List.length_cons]; omega)]
        refine ⟨stored, by rw [written, Option.some_or], ?_⟩
        rw [payload, show slot + 1 + (target - (offset + 1)) = slot + (target - offset) by omega]
      · rw [if_neg inRest] at later
        rw [later, Option.none_or]
        by_cases same : target = offset
        · subst same
          rw [if_pos (by simp)]
          exact ⟨_, Kv.Op.effect_put_self _ _, by simp⟩
        · rw [if_neg (by simp only [List.length_cons]; omega)]
          refine Kv.Op.effect_of_ne ?_
          simp [Ne.symm same]

theorem recordOps_effect_other {logId : GroupLogId} {partition other : PartitionKey}
    (different : other ≠ partition) (records : List Record) (slot offset position target : Nat) :
    Kv.Batch.effect (recordOps logId partition records slot offset position)
      (.record other target) = none := by
  induction records generalizing slot offset position with
  | nil => rfl
  | cons record rest ih =>
      rw [recordOps, Kv.Batch.effect_cons, ih, Option.none_or]
      refine Kv.Op.effect_of_ne ?_
      simp [Ne.symm different]

theorem ownerOps_effect (view : GroupView) (logId : GroupLogId) (records : List Record)
    (slot : Nat) (id : PayloadId) :
    Kv.Batch.effect (ownerOps view logId records slot) (.owners id) =
      if id.logId = logId ∧ slot ≤ id.slot ∧ id.slot < slot + records.length then
        some (some (((view.owners id).getD PayloadOwners.default).setAppliedIn view.activeBank true))
      else none := by
  induction records generalizing slot with
  | nil =>
      rw [if_neg (by simp)]
      rfl
  | cons record rest ih =>
      rw [ownerOps, Kv.Batch.effect_cons, ih]
      by_cases inRest : id.logId = logId ∧ slot + 1 ≤ id.slot ∧ id.slot < slot + 1 + rest.length
      · rw [if_pos inRest, if_pos, Option.some_or]
        simp only [List.length_cons]
        exact ⟨inRest.1, by omega, by omega⟩
      · rw [if_neg inRest, Option.none_or]
        by_cases same : (⟨logId, slot⟩ : PayloadId) = id
        · subst same
          rw [if_pos (by simp)]
          exact Kv.Op.effect_put_self _ _
        · rw [if_neg, Kv.Op.effect_of_ne (by simpa using same)]
          rintro ⟨rfl, low, high⟩
          simp only [List.length_cons] at high
          have first : slot = id.slot := by
            by_contra later
            exact inRest ⟨rfl, by omega, by omega⟩
          subst first
          exact same rfl

theorem ownerOps_effect_bytes (view : GroupView) (logId : GroupLogId) (records : List Record)
    (slot : Nat) (id : PayloadId) :
    Kv.Batch.effect (ownerOps view logId records slot) (.bytes id) = none := by
  induction records generalizing slot with
  | nil => rfl
  | cons record rest ih =>
      rw [ownerOps, Kv.Batch.effect_cons, ih, Option.none_or]
      exact Kv.Op.effect_of_ne (by simp)

namespace GroupView

variable {view : GroupView} {logId : GroupLogId} {cluster : ClusterId} {requestOrdinal slot : Nat}
  {batch : PublishBatch} {outcome : PublishItemOutcome} {write : WriteBatch}

def placeWrites (view : GroupView) (logId : GroupLogId) (slot : Nat) (batch : PublishBatch)
    (range : CommittedRecordRange) : StateBatch :=
  let retention := view.retentionOf batch.partition
  recordOps logId batch.partition batch.records slot range.first retention.nextBytePosition ++
    [.put (.nextOffset batch.partition) range.next,
      .put (.retention batch.partition) { retention with
        nextBytePosition := retention.nextBytePosition + payloadTotal batch.records }]

theorem committedRecordRange_ok {partition : PartitionKey} {first count : Nat}
    {range : CommittedRecordRange}
    (allocated : CommittedRecordRange.new partition first count = .ok range) :
    range.first = first ∧ range.next = first + count ∧ first + count ≤ u64Max := by
  unfold CommittedRecordRange.new at allocated
  split at allocated
  · simp at allocated
  split at allocated
  · rename_i bounded
    cases allocated
    exact ⟨rfl, rfl, bounded⟩
  · simp at allocated

section Placed

variable {range : CommittedRecordRange}

theorem place_record (target : Nat) :
    if range.first ≤ target ∧ target < range.first + batch.records.length then
      ∃ record : StoredRecord, (view.after (view.placeWrites logId slot batch range)).get
          (.record batch.partition target) = some record ∧
        record.payloadKey = ⟨logId, slot + (target - range.first)⟩
    else (view.after (view.placeWrites logId slot batch range)).get (.record batch.partition target) =
      view.get (.record batch.partition target) := by
  have effect := recordOps_effect logId batch.partition batch.records slot range.first
    (view.retentionOf batch.partition).nextBytePosition target
  simp only [after, Kv.pending, placeWrites, Kv.Batch.effect_append]
  split at effect
  · rename_i inside
    obtain ⟨record, written, payload⟩ := effect
    rw [if_pos inside]
    exact ⟨record, by simp [written, Kv.Op.effect], payload⟩
  · rename_i outside
    rw [if_neg outside]
    simp [effect, Kv.Op.effect]

theorem place_record_other {partition : PartitionKey} (other : partition ≠ batch.partition)
    (target : Nat) :
    (view.after (view.placeWrites logId slot batch range)).get (.record partition target) =
      view.get (.record partition target) := by
  have effect := @recordOps_effect_other logId _ _ other batch.records slot range.first
    (view.retentionOf batch.partition).nextBytePosition target
  simp [after, Kv.pending, placeWrites, Kv.Batch.effect_append, effect, Kv.Op.effect]

theorem place_record_kept {partition : PartitionKey} {offset : Nat}
    (present : (view.get (.record partition offset)).isSome = true) :
    ((view.after (view.placeWrites logId slot batch range)).get
      (.record partition offset)).isSome = true := by
  by_cases same : partition = batch.partition
  · subst same
    have placed := @place_record view logId slot batch range offset
    split at placed
    · obtain ⟨record, written, _⟩ := placed
      rw [written]
      rfl
    · rwa [placed]
  · rwa [place_record_other same]

theorem place_nextOffset (partition : PartitionKey) :
    (view.after (view.placeWrites logId slot batch range)).nextOffsetOf partition =
      if partition = batch.partition then range.next else view.nextOffsetOf partition := by
  have records := (recordOps_within logId batch.partition batch.records slot range.first
    (view.retentionOf batch.partition).nextBytePosition).effect_none
    (show (StateKey.nextOffset partition).family ∉ _ by simp [StateKey.family])
  simp only [nextOffsetOf, after, Kv.pending, placeWrites, Kv.Batch.effect_append, records]
  by_cases same : partition = batch.partition
  · subst same
    simp [Kv.Op.effect]
  · simp [Kv.Op.effect, same, Ne.symm same]

theorem place_retention (partition : PartitionKey) :
    (view.after (view.placeWrites logId slot batch range)).retentionOf partition =
      if partition = batch.partition then { view.retentionOf partition with
        nextBytePosition := (view.retentionOf partition).nextBytePosition +
          payloadTotal batch.records }
      else view.retentionOf partition := by
  have records := (recordOps_within logId batch.partition batch.records slot range.first
    (view.retentionOf batch.partition).nextBytePosition).effect_none
    (show (StateKey.retention partition).family ∉ _ by simp [StateKey.family])
  rw [retentionOf]
  simp only [after, Kv.pending, placeWrites, Kv.Batch.effect_append, records]
  by_cases same : partition = batch.partition
  · subst same
    simp [Kv.Op.effect]
  · simp [Kv.Op.effect, same, Ne.symm same, retentionOf]

theorem placeWrites_within :
    Within [.record, .nextOffset, .retention] (view.placeWrites logId slot batch range) := by
  simp only [placeWrites, within_append]
  exact ⟨(recordOps_within _ _ _ _ _ _).mono (by decide), by simp [StateKey.family]⟩

theorem place_between {before rest : StateBatch} (beforeWithin : Within [.bookmark] before)
    (afterWithin : Within [.receipt, .session] rest) {key : StateKey}
    (outside : key.family ∉ [StateFamily.bookmark, .receipt, .session]) :
    (view.after (before ++ view.placeWrites logId slot batch range ++ rest)).get key =
      (view.after (view.placeWrites logId slot batch range)).get key := by
  simp only [List.mem_cons, List.not_mem_nil, or_false, not_or] at outside
  simp only [after, Kv.pending, Kv.Batch.effect_append]
  rw [afterWithin.effect_none (by simp [outside]), beforeWithin.effect_none (by simp [outside]),
    Option.none_or, Option.or_none]

end Placed

inductive Placement (view : GroupView) (logId : GroupLogId) (slot : Nat) (batch : PublishBatch) :
    WriteBatch → Prop where
  | quiet (writes : StateBatch) (within : Within [.receipt, .session] writes) :
      Placement view logId slot batch ⟨writes, []⟩
  | appended (range : CommittedRecordRange)
      (allocated : CommittedRecordRange.new batch.partition (view.nextOffsetOf batch.partition)
        batch.records.length = .ok range)
      (owned : SlotsOwned view logId slot batch.records.length) (before after : StateBatch)
      (beforeWithin : Within [.bookmark] before) (afterWithin : Within [.receipt, .session] after)
      (fits : (view.retentionOf batch.partition).nextBytePosition ≤ u64Max →
        (view.retentionOf batch.partition).nextBytePosition + payloadTotal batch.records ≤ u64Max) :
      Placement view logId slot batch
        ⟨before ++ view.placeWrites logId slot batch range ++ after,
          ownerOps view logId batch.records slot⟩

theorem publishWrites_placed (range : CommittedRecordRange) (bookmark : Option CommittedBookmark) :
    ∃ before, Within [.bookmark] before ∧
      view.publishWrites logId slot batch range bookmark =
        ⟨before ++ view.placeWrites logId slot batch range ++
          view.recordWrites batch (view.sessionOf batch)
            (.published ⟨batch.request, range, bookmark⟩),
          ownerOps view logId batch.records slot⟩ := by
  cases bookmark with
  | none =>
      refine ⟨[], within_nil _, ?_⟩
      simp only [publishWrites, placeWrites, List.append_assoc]
  | some bookmark =>
      refine ⟨_, bookmarkWrites_within batch.partition bookmark, ?_⟩
      simp only [publishWrites, placeWrites, List.append_assoc]

theorem PublishCase.placement
    (done : PublishCase view logId cluster requestOrdinal slot batch outcome write) :
    view.Placement logId slot batch write := by
  cases done with
  | foreign => exact .quiet [] (within_nil _)
  | answered => exact .quiet [] (within_nil _)
  | expired => exact .quiet [] (within_nil _)
  | refused own absent newer rejection => exact .quiet _ (receiptWrites_within _ _ _)
  | accepted own absent newer range allocated owned bookmark planned fits =>
      obtain ⟨before, within, placed⟩ :=
        @publishWrites_placed view logId slot batch range bookmark
      rw [placed]
      exact .appended range allocated owned _ _ within (receiptWrites_within _ _ _) fun _ => fits

theorem publishReceiptWrites_within (receipt : PublishReceipt) (session : SessionState) :
    Within [.receipt, .session] (view.publishReceiptWrites batch receipt session) := by
  unfold publishReceiptWrites
  rw [within_cons]
  refine ⟨by simp [StateKey.family], ?_⟩
  split <;> simp [StateKey.family]

theorem publishUnbatched_placed {session : SessionState} {range : CommittedRecordRange}
    {bookmark : Option CommittedBookmark} {writes : StateBatch} {result : ApplyResult}
    (done : view.publishUnbatched logId batch session range bookmark writes = .ok (result, write)) :
    result = .published ⟨batch.request, range, bookmark⟩ ∧
      write = ⟨writes ++ view.placeWrites logId 0 batch range ++
          view.publishReceiptWrites batch ⟨batch.request, range, bookmark⟩ session,
        ownerOps view logId batch.records 0⟩ ∧
      SlotsOwned view logId 0 batch.records.length ∧
      ((view.retentionOf batch.partition).nextBytePosition ≤ u64Max →
        (view.retentionOf batch.partition).nextBytePosition + payloadTotal batch.records ≤ u64Max) := by
  unfold publishUnbatched at done
  split at done
  · simp at done
  rename_i retention stored storing
  cases done
  obtain ⟨owned, retained, state, payload, fits⟩ := storeRecords_ok storing
  refine ⟨rfl, ?_, owned, fits⟩
  simp only [state, payload, retained, placeWrites, List.append_assoc, List.nil_append]

theorem publishUnbatched_placement {session : SessionState} {range : CommittedRecordRange}
    {bookmark : Option CommittedBookmark} {writes : StateBatch} {result : ApplyResult}
    (within : Within [.bookmark] writes)
    (allocated : CommittedRecordRange.new batch.partition (view.nextOffsetOf batch.partition)
      batch.records.length = .ok range)
    (done : view.publishUnbatched logId batch session range bookmark writes = .ok (result, write)) :
    view.Placement logId 0 batch write := by
  obtain ⟨_, placed, owned, fits⟩ := publishUnbatched_placed done
  rw [placed]
  exact .appended range allocated owned _ _ within (publishReceiptWrites_within _ _) fits

theorem applyPublish_placement {result : ApplyResult}
    (done : view.applyPublish logId batch = .ok (result, write)) :
    view.Placement logId 0 batch write := by
  have silent : view.Placement logId 0 batch ⟨[], []⟩ := .quiet [] (within_nil _)
  unfold applyPublish reject reply at done
  split at done
  · cases done
    exact silent
  split at done
  · cases done
    exact silent
  split at done
  · cases done
    exact silent
  split at done
  · simp at done
  · split at done <;> cases done <;> exact silent
  dsimp only at done
  split at done
  · cases done
    exact silent
  unfold publishUnbatchedNew at done
  split at done
  · simp at done
  rename_i range allocated
  split at done
  · exact publishUnbatched_placement (within_nil _) allocated done
  · split at done
    · simp at done
    · rename_i bookmark bookmarkWrite created
      exact publishUnbatched_placement (createBookmarkRecord_footprint _ _ _ _ _ _ _ created).1
        allocated done
    · rename_i error bookmarkWrite created
      cases done
      rw [createBookmarkRecord_rejected created]
      exact silent
    · simp at done

/-- A property that holds before a batch and that each of its requests carries to the next payload
slot holds after the batch. -/
theorem publishTrace_carries {Inv : Nat → WriteBatch → Prop}
    (step : ∀ (requestOrdinal slot : Nat) (batch : PublishBatch) (first write : WriteBatch)
      (outcome : PublishItemOutcome), Inv slot first → (write = .empty ∨
        PublishCase (view.after first.state) logId cluster requestOrdinal slot batch outcome write) →
      Inv (slot + batch.records.length) (first.append write)) :
    ∀ {requests : List PublishBatch} {requestOrdinal slot : Nat} {txn last : PublishApplyTxn}
      {trace : List Occurrence}, txn.Sound view → Inv slot txn.write →
      view.publishTrace logId cluster requests requestOrdinal slot txn = .ok (trace, last) →
      Inv (slot + (requests.map fun batch => batch.records.length).sum) last.write := by
  intro requests
  induction requests with
  | nil =>
      intro requestOrdinal slot txn last trace sound held traced
      cases traced
      exact held
  | cons publish rest ih =>
      intro requestOrdinal slot txn last trace sound held traced
      rw [publishTrace] at traced
      split at traced
      · simp at traced
      rename_i outcome next item
      split at traced
      · simp at traced
      rename_i others final tail
      cases traced
      obtain ⟨nextSound, write, written, itemCase⟩ := publishItem_cases sound item
      have carried : Inv (slot + publish.records.length) next.write := by
        rw [written]
        refine step requestOrdinal slot publish txn.write write outcome held ?_
        cases itemCase with
        | stale => exact .inl rfl
        | current present done => exact .inr done
      rw [List.map_cons, List.sum_cons, ← Nat.add_assoc]
      exact ih nextSound carried tail

theorem applyPublishMany_carries {Inv : Nat → WriteBatch → Prop} (start : Inv 0 ⟨[], []⟩)
    (step : ∀ (cluster : ClusterId) (requestOrdinal slot : Nat) (batch : PublishBatch)
      (first write : WriteBatch) (outcome : PublishItemOutcome), Inv slot first →
      (write = .empty ∨
        PublishCase (view.after first.state) logId cluster requestOrdinal slot batch outcome write) →
      Inv (slot + batch.records.length) (first.append write))
    {batch : ReplicatedPublishBatch} {result : ApplyResult}
    (done : view.applyPublishMany logId batch = .ok (result, write)) : ∃ slot, Inv slot write := by
  unfold applyPublishMany at done
  split at done
  · cases done
    exact ⟨0, start⟩
  split at done
  · cases done
    exact ⟨0, start⟩
  rename_i spec bootstrapped
  rw [publishLoop_eq_publishTrace PublishApplyTxn.new_sound] at done
  cases traced : view.publishTrace logId spec.cluster batch.requests 0 0 PublishApplyTxn.new with
  | error error =>
      rw [traced] at done
      simp at done
  | ok trace =>
      rw [traced] at done
      cases done
      exact ⟨_, publishTrace_carries (step spec.cluster) PublishApplyTxn.new_sound start traced⟩

theorem applyPublishMany_invariant {Inv : Nat → WriteBatch → Prop} (start : Inv 0 ⟨[], []⟩)
    (step : ∀ (slot : Nat) (batch : PublishBatch) (first write : WriteBatch), Inv slot first →
      (view.after first.state).Placement logId slot batch write →
      Inv (slot + batch.records.length) (first.append write))
    {batch : ReplicatedPublishBatch} {result : ApplyResult}
    (done : view.applyPublishMany logId batch = .ok (result, write)) : ∃ slot, Inv slot write := by
  refine applyPublishMany_carries start ?_ done
  intro cluster requestOrdinal slot batch first write outcome held item
  refine step slot batch first write held ?_
  rcases item with rfl | item
  · exact .quiet [] (within_nil _)
  · exact item.placement

end GroupView

end LightStream
