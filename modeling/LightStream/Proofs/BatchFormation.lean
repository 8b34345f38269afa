import LightStream.Proofs.PublishSchedule
import LightStream.Queue.Greedy

/-!
The batches of the publish scheduler.  `take_batch` and `batch_usage` count as they go along;
both are compared here with what their limits say of the requests themselves.
-/

namespace LightStream

namespace PublishSchedulerConfig

def recordTotal (selected : List QueuedPublish) : Nat :=
  (selected.map fun queued => queued.batch.records.length).sum

def payloadBytesTotal (selected : List QueuedPublish) : Nat :=
  (selected.map fun queued => payloadTotal queued.batch.records).sum

structure Fits (config : PublishSchedulerConfig) (selected : List QueuedPublish) : Prop where
  requests : selected.length ≤ config.batchRequests
  records : recordTotal selected ≤ config.batchRecords
  payloadBytes : payloadBytesTotal selected ≤ config.batchPayloadBytes

instance (config : PublishSchedulerConfig) : DecidablePred config.Fits := fun selected =>
  decidable_of_iff (selected.length ≤ config.batchRequests ∧
      recordTotal selected ≤ config.batchRecords ∧
      payloadBytesTotal selected ≤ config.batchPayloadBytes)
    ⟨fun ⟨requests, records, payloadBytes⟩ => ⟨requests, records, payloadBytes⟩,
      fun fits => ⟨fits.requests, fits.records, fits.payloadBytes⟩⟩

def Full (config : PublishSchedulerConfig) (selected : List QueuedPublish) : Prop :=
  selected.length = config.batchRequests ∨ recordTotal selected = config.batchRecords ∨
    payloadBytesTotal selected = config.batchPayloadBytes

variable {config : PublishSchedulerConfig} {selected pending : List QueuedPublish}
  {next : QueuedPublish}

@[simp] theorem recordTotal_snoc (selected : List QueuedPublish) (next : QueuedPublish) :
    recordTotal (selected ++ [next]) = recordTotal selected + next.batch.records.length := by
  simp [recordTotal]

@[simp] theorem payloadBytesTotal_snoc (selected : List QueuedPublish) (next : QueuedPublish) :
    payloadBytesTotal (selected ++ [next]) =
      payloadBytesTotal selected + payloadTotal next.batch.records := by
  simp [payloadBytesTotal]

theorem request_counts (batch : PublishBatch) :
    0 < batch.records.length ∧ 0 < payloadTotal batch.records := by
  have present := batch.valid.nonempty
  have sizes := batch.valid.sizes
  cases listed : batch.records with
  | nil => exact absurd listed present
  | cons record rest =>
      rw [listed] at sizes
      have filled := List.length_pos_of_ne_nil (sizes record List.mem_cons_self).1
      refine ⟨Nat.succ_pos _, ?_⟩
      rw [payloadTotal, List.map_cons, List.sum_cons]
      omega

theorem fits_nil (config : PublishSchedulerConfig) : config.Fits [] :=
  ⟨Nat.zero_le _, Nat.zero_le _, Nat.zero_le _⟩

theorem fits_single (config : PublishSchedulerConfig) (next : QueuedPublish) :
    config.Fits [next] := by
  have requests := config.positive.2.2.2.1
  have records := next.batch.valid.count.trans config.fitsRequest.1
  have payloadBytes := next.batch.valid.total.trans config.fitsRequest.2
  refine ⟨requests, ?_, ?_⟩
  · simpa [recordTotal] using records
  · simpa [payloadBytesTotal] using payloadBytes

theorem fits_snoc :
    config.Fits (selected ++ [next]) ↔ selected.length < config.batchRequests ∧
      recordTotal selected + next.batch.records.length ≤ config.batchRecords ∧
      payloadBytesTotal selected + payloadTotal next.batch.records ≤ config.batchPayloadBytes := by
  constructor
  · rintro ⟨requests, records, payloadBytes⟩
    rw [List.length_append, List.length_singleton] at requests
    rw [recordTotal_snoc] at records
    rw [payloadBytesTotal_snoc] at payloadBytes
    exact ⟨requests, records, payloadBytes⟩
  · rintro ⟨requests, records, payloadBytes⟩
    refine ⟨?_, ?_, ?_⟩
    · rw [List.length_append, List.length_singleton]
      exact requests
    · rw [recordTotal_snoc]
      exact records
    · rw [payloadBytesTotal_snoc]
      exact payloadBytes

theorem Full.not_fits (full : config.Full selected) (next : QueuedPublish) :
    ¬config.Fits (selected ++ [next]) := by
  rintro ⟨requests, records, payloadBytes⟩
  obtain ⟨record, byte⟩ := request_counts next.batch
  rw [List.length_append, List.length_singleton] at requests
  rw [recordTotal_snoc] at records
  rw [payloadBytesTotal_snoc] at payloadBytes
  rcases full with full | full | full <;> omega

def smallest : QueuedPublish where
  ticket := 0
  admittedAt := 0
  charge := ⟨1, 1 + recordOverheadBytes + requestOverheadBytes⟩
  batch := ⟨⟨1⟩, ⟨⟨1⟩, 0⟩, ⟨⟨"producer"⟩, ⟨1⟩, 1⟩, [[0]], none, by decide⟩

theorem full_iff (fits : config.Fits selected) :
    config.Full selected ↔ ∀ next, ¬config.Fits (selected ++ [next]) := by
  constructor
  · exact Full.not_fits
  · intro refused
    have alone := refused smallest
    rw [fits_snoc] at alone
    have one : smallest.batch.records.length = 1 := rfl
    have byte : payloadTotal smallest.batch.records = 1 := rfl
    rw [one, byte] at alone
    obtain ⟨requests, records, payloadBytes⟩ := fits
    unfold Full
    omega

/-! ### The loops of the source -/

theorem takeBatchFrom_greedy (fits : config.Fits selected) :
    takeBatchFrom config (recordTotal selected) (payloadBytesTotal selected) selected pending =
      Queue.greedy config.Fits selected pending := by
  induction pending generalizing selected with
  | nil => rfl
  | cons next rest ih =>
      simp only [takeBatchFrom, Queue.greedy]
      by_cases room : config.Fits (selected ++ [next])
      · have step := ih room
        rw [recordTotal_snoc, payloadBytesTotal_snoc] at step
        obtain ⟨requests, records, payloadBytes⟩ := fits_snoc.mp room
        rw [if_neg (Nat.not_le.mpr requests), if_neg (by omega), if_pos room, step]
      · rw [if_neg room]
        by_cases requests : config.batchRequests ≤ selected.length
        · rw [if_pos requests]
        · rw [if_neg requests, if_pos]
          refine ⟨?_, ?_⟩
          · rintro rfl
            exact room (fits_single config next)
          · rw [fits_snoc] at room
            omega

theorem takeBatch_greedy (config : PublishSchedulerConfig) (pending : List QueuedPublish) :
    takeBatch config pending = Queue.greedy config.Fits [] pending :=
  takeBatchFrom_greedy (fits_nil config)

theorem Full.greedy (full : config.Full selected) (pending : List QueuedPublish) :
    Queue.greedy config.Fits selected pending = (selected, pending) := by
  cases pending with
  | nil => rfl
  | cons next rest => rw [Queue.greedy, if_neg (full.not_fits next)]

theorem batchUsageFrom_greedy (fits : config.Fits selected) (room : ¬config.Full selected) :
    batchUsageFrom config selected.length (recordTotal selected) (payloadBytesTotal selected)
        pending = true ↔
      (Queue.greedy config.Fits selected pending).2 ≠ [] ∨
        config.Full (Queue.greedy config.Fits selected pending).1 := by
  induction pending generalizing selected with
  | nil => simp [batchUsageFrom, Queue.greedy, room]
  | cons next rest ih =>
      have unfilled : selected.length ≠ config.batchRequests := fun filled => room (.inl filled)
      simp only [batchUsageFrom, Queue.greedy]
      by_cases more : config.Fits (selected ++ [next])
      · obtain ⟨requests, records, payloadBytes⟩ := fits_snoc.mp more
        have within : ¬(selected.length = config.batchRequests ∨
            recordTotal selected + next.batch.records.length > config.batchRecords ∨
            payloadBytesTotal selected + payloadTotal next.batch.records >
              config.batchPayloadBytes) := by omega
        rw [if_neg within, if_pos more]
        have counts := @ih (selected ++ [next]) more
        rw [List.length_append, List.length_singleton, recordTotal_snoc,
          payloadBytesTotal_snoc] at counts
        by_cases full : config.Full (selected ++ [next])
        · rw [full.greedy]
          have reached := full
          rw [Full, List.length_append, List.length_singleton, recordTotal_snoc,
            payloadBytesTotal_snoc] at reached
          rw [if_pos reached]
          exact ⟨fun _ => .inr full, fun _ => rfl⟩
        · have short := full
          rw [Full, List.length_append, List.length_singleton, recordTotal_snoc,
            payloadBytesTotal_snoc] at short
          rw [if_neg short]
          exact counts full
      · rw [if_neg more]
        have complete : selected.length = config.batchRequests ∨
            recordTotal selected + next.batch.records.length > config.batchRecords ∨
            payloadBytesTotal selected + payloadTotal next.batch.records >
              config.batchPayloadBytes := by
          rw [fits_snoc] at more
          have requests := fits.requests
          omega
        rw [if_pos complete]
        have some : 0 < selected.length := by
          cases selected with
          | nil => exact absurd (fits_single config next) more
          | cons => exact Nat.succ_pos _
        simp [some]

theorem batchUsage_greedy (config : PublishSchedulerConfig) (pending : List QueuedPublish) :
    batchUsage config pending = true ↔ (takeBatch config pending).2 ≠ [] ∨
      config.Full (takeBatch config pending).1 := by
  have unfilled : ¬config.Full [] := by
    obtain ⟨_, _, _, requests, records, payloadBytes⟩ := config.positive
    simp only [Full, List.length_nil, recordTotal, payloadBytesTotal, List.map_nil, List.sum_nil]
    omega
  rw [takeBatch_greedy]
  exact batchUsageFrom_greedy (fits_nil config) unfilled

/-! ### The batch -/

theorem takeBatch_fits (config : PublishSchedulerConfig) (pending : List QueuedPublish) :
    config.Fits (takeBatch config pending).1 := by
  rw [takeBatch_greedy]
  exact Queue.greedy_fits config.Fits pending (fits_nil config)

theorem takeBatch_next {rest : List QueuedPublish}
    (left : (takeBatch config pending).2 = next :: rest) :
    ¬config.Fits ((takeBatch config pending).1 ++ [next]) := by
  rw [takeBatch_greedy] at left ⊢
  exact Queue.greedy_maximal config.Fits left

theorem takeBatch_nonempty (present : pending ≠ []) : (takeBatch config pending).1 ≠ [] := by
  intro nothing
  have whole := takeBatch_append config pending
  rw [nothing, List.nil_append] at whole
  cases pending with
  | nil => exact present rfl
  | cons next rest =>
      have refused := takeBatch_next whole
      rw [nothing, List.nil_append] at refused
      exact refused (fits_single config next)

theorem Fits.replicated (fits : config.Fits selected) (present : selected ≠ []) :
    ∃ batch, ReplicatedPublishBatch.new (selected.map QueuedPublish.batch) = .ok batch := by
  obtain ⟨requests, records, payloadBytes⟩ := fits
  obtain ⟨requestLimit, recordLimit, payloadLimit⟩ := config.replicated
  have some : selected.map QueuedPublish.batch ≠ [] := by simpa using present
  have requestCount : (selected.map QueuedPublish.batch).length ≤
      maxRequestsPerReplicatedPublish := by
    rw [List.length_map]
    omega
  have recordCount : ((selected.map QueuedPublish.batch).map
      fun request => request.records.length).sum ≤ maxRecordsPerReplicatedPublish := by
    rw [List.map_map]
    exact records.trans recordLimit
  have payloadCount : ((selected.map QueuedPublish.batch).map
      fun request => payloadTotal request.records).sum ≤ maxReplicatedPublishBytes := by
    rw [List.map_map]
    exact payloadBytes.trans payloadLimit
  unfold ReplicatedPublishBatch.new
  rw [dif_neg some, dif_pos requestCount, dif_pos recordCount, dif_pos payloadCount]
  exact ⟨_, rfl⟩

theorem batchUsage_settled (config : PublishSchedulerConfig) (pending : List QueuedPublish) :
    batchUsage config pending = true ↔ ∀ arrivals,
      (takeBatch config (pending ++ arrivals)).1 = (takeBatch config pending).1 := by
  rw [batchUsage_greedy, full_iff (takeBatch_fits config pending)]
  simp only [takeBatch_greedy]
  exact (Queue.greedy_settled config.Fits [] pending).symm

theorem batch_formation (config : PublishSchedulerConfig) (pending : List QueuedPublish) :
    (takeBatch config pending).1 ++ (takeBatch config pending).2 = pending ∧
    (pending ≠ [] → (takeBatch config pending).1 ≠ []) ∧
    config.Fits (takeBatch config pending).1 ∧
    (pending ≠ [] → ∃ batch, ReplicatedPublishBatch.new
      ((takeBatch config pending).1.map QueuedPublish.batch) = .ok batch) ∧
    (∀ next rest, (takeBatch config pending).2 = next :: rest →
      ¬config.Fits ((takeBatch config pending).1 ++ [next])) ∧
    (batchUsage config pending = true ↔ ∀ arrivals,
      (takeBatch config (pending ++ arrivals)).1 = (takeBatch config pending).1) := by
  refine ⟨takeBatch_append config pending, takeBatch_nonempty, takeBatch_fits config pending, ?_,
    ?_, batchUsage_settled config pending⟩
  · intro present
    exact (takeBatch_fits config pending).replicated (takeBatch_nonempty present)
  · intro next rest left
    exact takeBatch_next left

end PublishSchedulerConfig

end LightStream
