import LightStream.Proofs.Placement
import LightStream.Proofs.Traces

/-!
What a run publishes.  A request that is accepted and is no retry publishes its records under the
range of its receipt; the publications of an entry are those of its requests, in their order.
-/

namespace LightStream

structure Publication where
  range : CommittedRecordRange
  records : List Record

def Occurrence.publication (occurrence : Occurrence) : Option Publication :=
  match occurrence.result with
  | .error _ => none
  | .ok receipt =>
      if occurrence.writes.isEmpty then none else some ⟨receipt.range, occurrence.batch.records⟩

theorem publication_silent (batch : PublishBatch) (result : Except DomainError PublishReceipt) :
    Occurrence.publication ⟨batch, result, []⟩ = none := by
  unfold Occurrence.publication
  split <;> rfl

def GroupCommand.publishing : GroupCommand → Option PublishCommand
  | .publish batch => some (.publish batch)
  | .publishMany batch => some (.publishMany batch)
  | _ => none

def GroupDb.publications (db : GroupDb) (entry : GroupEntry) : List Publication :=
  match entry.payload with
  | .normal command =>
      match db.view.mutationFenceState.held, db.get .bootstrap, command.publishing with
      | none, some spec, some publish =>
          match db.occurrences spec entry.logId publish with
          | .ok occurrences => occurrences.filterMap Occurrence.publication
          | .error _ => []
      | _, _, _ => []
  | _ => []

def publishedIn (steps : List Step) : List Publication :=
  steps.flatMap fun step => step.before.publications step.entry

def PublishBatch.Carried (batch : PublishBatch) (content : PayloadId → Record) (logId : GroupLogId)
    (slot : Nat) : Prop :=
  ∀ index record, batch.records[index]? = some record → content ⟨logId, slot + index⟩ = record

namespace GroupView

variable {view : GroupView} {logId : GroupLogId} {cluster : ClusterId} {requestOrdinal slot : Nat}
  {batch : PublishBatch} {outcome : PublishItemOutcome} {write : WriteBatch}

/-- A publish that leaves the records alone publishes nothing, and an append publishes the records
of its request. -/
inductive Publishes (view : GroupView) (logId : GroupLogId) (slot : Nat) (batch : PublishBatch) :
    WriteBatch → List Publication → Prop where
  | quiet (writes : StateBatch) (within : Within [.receipt, .session] writes) :
      Publishes view logId slot batch ⟨writes, []⟩ []
  | appended (range : CommittedRecordRange)
      (allocated : CommittedRecordRange.new batch.partition (view.nextOffsetOf batch.partition)
        batch.records.length = .ok range)
      (owned : SlotsOwned view logId slot batch.records.length) (before after : StateBatch)
      (beforeWithin : Within [.bookmark] before) (afterWithin : Within [.receipt, .session] after)
      (fits : (view.retentionOf batch.partition).nextBytePosition ≤ u64Max →
        (view.retentionOf batch.partition).nextBytePosition + payloadTotal batch.records ≤ u64Max) :
      Publishes view logId slot batch
        ⟨before ++ view.placeWrites logId slot batch range ++ after,
          ownerOps view logId batch.records slot⟩ [⟨range, batch.records⟩]

theorem Publishes.placement {more : List Publication}
    (publishes : view.Publishes logId slot batch write more) :
    view.Placement logId slot batch write := by
  cases publishes with
  | quiet writes within => exact .quiet writes within
  | appended range allocated owned before rest beforeWithin afterWithin fits =>
      exact .appended range allocated owned before rest beforeWithin afterWithin fits

theorem placeWrites_nonempty {before after : StateBatch} {range : CommittedRecordRange} :
    (before ++ view.placeWrites logId slot batch range ++ after).isEmpty = false := by
  cases before <;> simp [placeWrites]

theorem PublishCase.publishes
    (done : PublishCase view logId cluster requestOrdinal slot batch outcome write) :
    view.Publishes logId slot batch write
      (Occurrence.publication ⟨batch, outcome.result, write.state⟩).toList := by
  cases done with
  | foreign => exact .quiet [] (within_nil _)
  | answered own stored found =>
      dsimp only [WriteBatch.empty]
      rw [publication_silent]
      exact .quiet [] (within_nil _)
  | expired => exact .quiet [] (within_nil _)
  | refused own absent newer rejection =>
      have none : (Occurrence.publication ⟨batch, (StoredPublishResult.rejected rejection).asResult,
          view.recordWrites batch (view.sessionOf batch) (.rejected rejection)⟩).toList = [] := by
        cases rejection <;> rfl
      dsimp only
      rw [none]
      exact .quiet _ (receiptWrites_within _ _ _)
  | accepted own absent newer range allocated owned bookmark planned fits =>
      obtain ⟨before, within, placed⟩ :=
        @publishWrites_placed view logId slot batch range bookmark
      rw [placed]
      simp only [Occurrence.publication, placeWrites_nonempty]
      exact .appended range allocated owned _ _ within (receiptWrites_within _ _ _) fun _ => fits

theorem ItemCase.publishes {txn : PublishApplyTxn}
    (item : ItemCase view txn logId cluster requestOrdinal slot batch outcome write) :
    (txn.committed view).Publishes logId slot batch write
      (Occurrence.publication ⟨batch, outcome.result, write.state⟩).toList := by
  cases item with
  | stale own evicted stored found =>
      dsimp only [WriteBatch.empty]
      rw [publication_silent]
      exact .quiet [] (within_nil _)
  | current present done => exact done.publishes

/-- A property that holds before a batch and that each of its requests carries on with what it
publishes holds after the batch. -/
theorem publishTrace_publishes {Inv : Nat → WriteBatch → List Publication → Prop}
    {Own : Nat → PublishBatch → Prop}
    (step : ∀ (slot : Nat) (batch : PublishBatch) (first write : WriteBatch)
      (published more : List Publication), Inv slot first published → Own slot batch →
      (view.after first.state).Publishes logId slot batch write more →
      Inv (slot + batch.records.length) (first.append write) (published ++ more)) :
    ∀ {requests : List PublishBatch} {requestOrdinal slot : Nat} {txn last : PublishApplyTxn}
      {published : List Publication} {trace : List Occurrence}, txn.Sound view →
      Inv slot txn.write published →
      (∀ entry ∈ slottedRequests slot requests, Own entry.1 entry.2) →
      view.publishTrace logId cluster requests requestOrdinal slot txn = .ok (trace, last) →
      ∃ slot, Inv slot last.write (published ++ trace.filterMap Occurrence.publication) := by
  intro requests
  induction requests with
  | nil =>
      intro requestOrdinal slot txn last published trace sound held carried traced
      cases traced
      rw [List.filterMap_nil, List.append_nil]
      exact ⟨slot, held⟩
  | cons publish rest ih =>
      intro requestOrdinal slot txn last published trace sound held carried traced
      rw [publishTrace] at traced
      split at traced
      · simp at traced
      rename_i outcome next item
      split at traced
      · simp at traced
      rename_i others final tail
      cases traced
      obtain ⟨nextSound, write, written, itemCase⟩ := publishItem_cases sound item
      have added : next.write.state.drop txn.write.state.length = write.state := by
        rw [written]
        exact List.drop_left
      have own := carried (slot, publish) (List.mem_cons_self ..)
      have stepped := step slot publish txn.write write published _ held own itemCase.publishes
      rw [← written] at stepped
      obtain ⟨lastSlot, reached⟩ := ih nextSound stepped
        (fun entry member => carried entry (List.mem_cons_of_mem _ member)) tail
      refine ⟨lastSlot, ?_⟩
      rw [List.append_assoc] at reached
      rw [added, List.filterMap_cons]
      cases made : Occurrence.publication ⟨publish, outcome.result, write.state⟩ with
      | none =>
          rw [made] at reached
          exact reached
      | some publication =>
          rw [made] at reached
          exact reached

theorem publishUnbatched_publishes {session : SessionState} {range : CommittedRecordRange}
    {bookmark : Option CommittedBookmark} {writes : StateBatch} {result : ApplyResult}
    (within : Within [.bookmark] writes)
    (allocated : CommittedRecordRange.new batch.partition (view.nextOffsetOf batch.partition)
      batch.records.length = .ok range)
    (done : view.publishUnbatched logId batch session range bookmark writes = .ok (result, write)) :
    result = .published ⟨batch.request, range, bookmark⟩ ∧
      view.Publishes logId 0 batch write
        (Occurrence.publication ⟨batch, .ok ⟨batch.request, range, bookmark⟩, write.state⟩).toList := by
  obtain ⟨answered, placed, owned, fits⟩ := publishUnbatched_placed done
  refine ⟨answered, ?_⟩
  rw [placed]
  simp only [Occurrence.publication, placeWrites_nonempty]
  exact .appended range allocated owned _ _ within (publishReceiptWrites_within _ _) fits

def publishedBy (batch : PublishBatch) (result : ApplyResult) (write : WriteBatch) :
    Option Publication :=
  match result with
  | .published receipt => Occurrence.publication ⟨batch, .ok receipt, write.state⟩
  | _ => none

theorem applyPublish_publishes {result : ApplyResult}
    (done : view.applyPublish logId batch = .ok (result, write)) :
    view.Publishes logId 0 batch write (publishedBy batch result write).toList := by
  have silent (result : ApplyResult) :
      view.Publishes logId 0 batch ⟨[], []⟩ (publishedBy batch result ⟨[], []⟩).toList := by
    have none : publishedBy batch result ⟨[], []⟩ = none := by
      cases result <;> rfl
    rw [none]
    exact .quiet [] (within_nil _)
  unfold applyPublish reject reply at done
  split at done
  · cases done
    exact silent _
  split at done
  · cases done
    exact silent _
  split at done
  · cases done
    exact silent _
  split at done
  · simp at done
  · split at done <;> cases done <;> exact silent _
  dsimp only at done
  split at done
  · cases done
    exact silent _
  unfold publishUnbatchedNew at done
  split at done
  · simp at done
  rename_i range allocated
  split at done
  · obtain ⟨rfl, published⟩ := publishUnbatched_publishes (within_nil _) allocated done
    exact published
  · split at done
    · simp at done
    · rename_i bookmark bookmarkWrite created
      obtain ⟨rfl, published⟩ := publishUnbatched_publishes
        (createBookmarkRecord_footprint _ _ _ _ _ _ _ created).1 allocated done
      exact published
    · rename_i error bookmarkWrite created
      cases done
      rw [createBookmarkRecord_rejected created]
      exact silent _
    · simp at done

end GroupView

theorem GroupDb.Due.carried {db : GroupDb} {entry : GroupEntry} {content : PayloadId → Record}
    (due : GroupDb.Due content db entry) {batch : PublishBatch} {slot : Nat}
    (brought : ∀ payload ∈ payloadsFrom entry.logId slot batch.records,
      payload ∈ (thinEntry entry).2) : batch.Carried content entry.logId slot := by
  intro index record found
  refine due.bytes (⟨entry.logId, slot + index⟩, record) (brought _ ?_)
  obtain ⟨inside, rfl⟩ := List.getElem?_eq_some_iff.mp found
  exact List.mem_mapIdx.mpr ⟨index, inside, rfl⟩

end LightStream
