import LightStream.Proofs.IndexRuns
import LightStream.Proofs.Replay

/-!
What the byte index says of every reachable state: its positions are the sums of the payload
lengths that were published, a lease is charged for the records of its range, and the lookups of
the index fail for ranges past the tail alone.
-/

namespace LightStream

namespace GroupView

variable {view : GroupView} {content : PayloadId → Record} {published : List Publication}

def bytesIn (records : List Record) (start stop : Nat) : Nat :=
  (((records.take stop).drop start).map List.length).sum

structure PrefixSums (published : List Publication) (view : GroupView) : Prop where
  record : ∀ partition offset (stored : StoredRecord),
    view.get (.record partition offset) = some stored →
    (∃ record, (recordsTo published partition)[offset]? = some record ∧
      stored.payloadBytes = record.length) ∧
    stored.cumulativeEndBytes =
      (((recordsTo published partition).take (offset + 1)).map List.length).sum
  floor : ∀ partition, (view.retentionOf partition).floorBytePosition =
    (((recordsTo published partition).take (view.retentionOf partition).logicalFloor).map
      List.length).sum
  next : ∀ partition, (view.retentionOf partition).nextBytePosition =
    ((recordsTo published partition).map List.length).sum
  leased : ∀ (id : ReplayLeaseId) (lease : ReplayLease), view.get (.leaseId id) = some lease →
    lease.protectedBytes =
      bytesIn (recordsTo published lease.range.partition) lease.range.start lease.range.stop
  advance : ∀ partition target floor,
    advanceFloor (view.retentionOf partition).logicalFloor target (view.nextOffsetOf partition) =
      .ok floor → (view.floorBytePosition partition (view.retentionOf partition) floor).isSome = true
  admission : ∀ request : ReplayLeaseRequest,
    (view.retentionOf request.range.partition).logicalFloor ≤ request.range.start →
    (request.range.stop ≤ view.nextOffsetOf request.range.partition →
      view.replayRangeBytes request (view.retentionOf request.range.partition) =
        .ok (bytesIn (recordsTo published request.range.partition) request.range.start
          request.range.stop)) ∧
    (view.nextOffsetOf request.range.partition < request.range.stop →
      view.replayRangeBytes request (view.retentionOf request.range.partition) =
          .error (.invalidRange "replay lease start boundary is unavailable") ∨
        view.replayRangeBytes request (view.retentionOf request.range.partition) =
          .error (.invalidRange "replay lease end boundary is unavailable"))

theorem bytesIn_of_difference {records : List Record} {start stop bytes : Nat}
    (ordered : start ≤ stop)
    (difference : bytes + bytesBelow records start = bytesBelow records stop) :
    bytes = bytesIn records start stop := by
  have split := @Kv.sizeThrough_between _ List.length records start stop ordered
  unfold bytesBelow at difference
  unfold bytesIn
  omega

theorem Protected.floorAvailable (kept : view.Protected) {partition : PartitionKey}
    {target floor : Nat}
    (advanced : advanceFloor (view.retentionOf partition).logicalFloor target
      (view.nextOffsetOf partition) = .ok floor) :
    (view.floorBytePosition partition (view.retentionOf partition) floor).isSome = true := by
  obtain ⟨rfl, below⟩ := advanceFloor_ok advanced
  have bounded := kept.floor partition
  unfold floorBytePosition
  split
  · rfl
  rename_i positive
  split
  · rfl
  rename_i absent
  by_cases same : max (view.retentionOf partition).logicalFloor target =
      (view.retentionOf partition).logicalFloor
  · rw [if_pos same]
    rfl
  · have present := kept.retained partition
      (max (view.retentionOf partition).logicalFloor target - 1) (by omega) (by omega)
    rw [absent] at present
    simp at present

theorem Indexed.rangeAvailable (indexed : Indexed content published view) (kept : view.Protected)
    {request : ReplayLeaseRequest}
    (above : (view.retentionOf request.range.partition).logicalFloor ≤ request.range.start)
    (below : request.range.stop ≤ view.nextOffsetOf request.range.partition) :
    view.replayRangeBytes request (view.retentionOf request.range.partition) =
      .ok (bytesIn (recordsTo published request.range.partition) request.range.start
        request.range.stop) := by
  have ordered := request.range.ordered
  have present (offset : Nat)
      (from' : (view.retentionOf request.range.partition).logicalFloor ≤ offset)
      (behind : offset < view.nextOffsetOf request.range.partition) :
      ∃ record : StoredRecord, view.get (.record request.range.partition offset) = some record ∧
        record.cumulativeEndBytes =
          bytesBelow (recordsTo published request.range.partition) (offset + 1) := by
    obtain ⟨record, found⟩ :=
      Option.isSome_iff_exists.mp (kept.retained request.range.partition offset from' behind)
    obtain ⟨_, _, _, _, sum⟩ := indexed.record _ _ record found
    exact ⟨record, found, sum⟩
  obtain ⟨last, lastFound, lastSum⟩ := present (request.range.stop - 1) (by omega) (by omega)
  rw [show request.range.stop - 1 + 1 = request.range.stop by omega] at lastSum
  have grows : bytesBelow (recordsTo published request.range.partition) request.range.start ≤
      bytesBelow (recordsTo published request.range.partition) request.range.stop :=
    Kv.sizeThrough_mono _ (by omega)
  have answer : view.replayRangeBytes request (view.retentionOf request.range.partition) =
      .ok (bytesBelow (recordsTo published request.range.partition) request.range.stop -
        bytesBelow (recordsTo published request.range.partition) request.range.start) := by
    unfold replayRangeBytes
    by_cases atFloor : request.range.start =
        (view.retentionOf request.range.partition).logicalFloor
    · rw [if_pos atFloor, indexed.floor, ← atFloor, lastFound]
      dsimp only
      rw [lastSum, if_pos grows]
    · obtain ⟨first, firstFound, firstSum⟩ := present (request.range.start - 1) (by omega) (by omega)
      rw [show request.range.start - 1 + 1 = request.range.start by omega] at firstSum
      rw [if_neg atFloor, firstFound, lastFound]
      dsimp only
      rw [lastSum, firstSum, if_pos grows]
  rw [answer, ← bytesIn_of_difference (by omega) (Nat.sub_add_cancel grows)]

theorem Protected.rangeUnavailable (kept : view.Protected) {request : ReplayLeaseRequest}
    (past : view.nextOffsetOf request.range.partition < request.range.stop) :
    view.replayRangeBytes request (view.retentionOf request.range.partition) =
        .error (.invalidRange "replay lease start boundary is unavailable") ∨
      view.replayRangeBytes request (view.retentionOf request.range.partition) =
        .error (.invalidRange "replay lease end boundary is unavailable") := by
  have absent : view.get (.record request.range.partition (request.range.stop - 1)) = none := by
    by_contra present
    have within := kept.tail request.range.partition (request.range.stop - 1)
      (Option.isSome_iff_ne_none.mpr present)
    omega
  unfold replayRangeBytes
  rw [absent]
  dsimp only
  split
  · rename_i error started
    split at started
    · simp at started
    · split at started
      · cases started
        exact .inl rfl
      · simp at started
  · exact .inr rfl

theorem Indexed.prefixSums (indexed : Indexed content published view) (kept : view.Protected) :
    PrefixSums published view where
  record := by
    intro partition offset stored found
    obtain ⟨record, at', _, bytes, sum⟩ := indexed.record partition offset stored found
    exact ⟨⟨record, at', bytes⟩, sum⟩
  floor := indexed.floor
  next := by
    intro partition
    rw [indexed.position, ← indexed.counted]
    exact Kv.sizeThrough_all _
  leased := by
    intro id lease found
    obtain ⟨_, difference⟩ := indexed.leased id lease found
    exact bytesIn_of_difference (Nat.le_of_lt lease.range.ordered) difference
  advance := fun _ _ _ advanced => kept.floorAvailable advanced
  admission := fun _ above =>
    ⟨indexed.rangeAvailable kept above, kept.rangeUnavailable⟩

end GroupView

namespace GroupDb

variable {identity : GroupIdentity} {window : Nat} {content : PayloadId → Record}
  {Allowed : GroupDb → GroupEntry → Prop} {steps : List Step} {db : GroupDb}

/-- In every reachable state the byte index is the prefix sum of the payload lengths published so
far. -/
theorem byte_index_is_prefix_sum (data : identity.kind = .data)
    (traced : Traced identity window content Allowed steps db) :
    GroupView.PrefixSums (publishedIn steps) db.view :=
  (traced.indexed data).prefixSums (traced.ran.guarded data).records

def pastTail : ReplayLeaseRequest :=
  ⟨sampleRequest 0, sampleCluster, ⟨samplePartition, 0, 1, Nat.one_pos⟩, 1, 1, Nat.one_ne_zero,
    Nat.one_ne_zero⟩

/-- An admission past the tail is answered by the lookup of the boundary. -/
theorem boundary_unavailable_reached : ∃ db,
    Ran freshData.identity 2 (fun _ => [7]) (fun _ _ => True) (replayEntries.take 1) db ∧
    (match db.view.applyAdmitReplayLease pastTail sampleClock with
      | .ok (result, _) =>
          result = .rejected (.invalidRange "replay lease end boundary is unavailable")
      | .error _ => False) := by
  have reached : freshData.leaves ([] ++ replayEntries.take 1) (fun db =>
      yields (db.view.applyAdmitReplayLease pastTail sampleClock) fun answer =>
        decide (answer.1 = .rejected (.invalidRange "replay lease end boundary is unavailable"))) =
      true := by decide
  obtain ⟨results, db, submitted, reached⟩ := leaves_iff.mp reached
  have ran : Ran freshData.identity 2 (fun _ => [7]) (fun _ _ => True)
      ([] ++ replayEntries.take 1) db :=
    Ran.submitAll .created (create_usedBelow _ _) (by decide) (by decide)
      (fun _ _ _ => trivial) submitted
  obtain ⟨answer, applied, rejected⟩ := yields_iff.mp reached
  refine ⟨db, ran, ?_⟩
  rw [applied]
  exact of_decide_eq_true rejected

/-- Two records, the floor above both, and the first one leased. -/
theorem byte_index_is_prefix_sum_sample : ∃ steps db, steps.map Step.entry = replayEntries ∧
    Traced freshData.identity 2 (fun _ => [7]) (fun _ _ => True) steps db ∧
    (db.view.retentionOf samplePartition).logicalFloor = 2 ∧
    GroupView.PrefixSums (publishedIn steps) db.view := by
  have raised : freshData.leaves replayEntries (fun db =>
      decide ((db.view.retentionOf samplePartition).logicalFloor = 2)) = true := by decide
  obtain ⟨results, db, submitted, raised⟩ := leaves_iff.mp raised
  simp only [decide_eq_true_eq] at raised
  have ran : Ran freshData.identity 2 (fun _ => [7]) (fun _ _ => True) replayEntries db :=
    Ran.submitAll .created (create_usedBelow _ _) (by decide) (by decide)
      (fun _ _ _ => trivial) submitted
  obtain ⟨steps, entries, traced⟩ := ran.traced
  exact ⟨steps, db, entries, traced, raised, byte_index_is_prefix_sum rfl traced⟩

end GroupDb

end LightStream
