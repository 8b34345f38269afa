import LightStream.Proofs.BoundedReclaim

/-!
Where a batch of the reclaim loop ends.  It passes over the offsets behind its start one after the
other for as long as its limits leave room, so it ends at the first offset for which they do not,
or at the floor.
-/

namespace LightStream

namespace GroupView

def isFree (ranges : List ReplayRange) (offset : Nat) : Bool :=
  (ranges.find? fun range => range.contains offset).isNone

def examinedIn (ranges : List ReplayRange) (start stop : Nat) : List Nat :=
  (List.range' start (stop - start)).filter (isFree ranges)

def bytesAt (view : GroupView) (partition : PartitionKey) (offset : Nat) : Nat :=
  ((view.get (.record partition offset)).map StoredRecord.payloadBytes).getD 0

def examinedBytes (view : GroupView) (partition : PartitionKey) (ranges : List ReplayRange)
    (start stop : Nat) : Nat :=
  Kv.weigh (view.bytesAt partition) (examinedIn ranges start stop)

/-- The limits of a batch leave room to pass over an offset: it may examine one more, and the record
there, if it is not the first one examined, has no more bytes than are left. -/
def HasRoom (view : GroupView) (partition : PartitionKey) (ranges : List ReplayRange)
    (maxRecords maxPayloadBytes start offset : Nat) : Prop :=
  (examinedIn ranges start offset).length < maxRecords ∧
    (isFree ranges offset = true → (view.get (.record partition offset)).isSome = true →
      examinedIn ranges start offset ≠ [] →
      view.examinedBytes partition ranges start offset + view.bytesAt partition offset ≤
        maxPayloadBytes)

variable {view : GroupView} {partition : PartitionKey} {ranges : List ReplayRange}
  {maxRecords maxPayloadBytes start offset : Nat} {before after : ReclaimState}

instance : Decidable (view.HasRoom partition ranges maxRecords maxPayloadBytes start offset) :=
  inferInstanceAs (Decidable (_ ∧ _))

theorem examinedIn_self (start : Nat) : examinedIn ranges start start = [] := by
  rw [examinedIn, Nat.sub_self]
  rfl

theorem examinedIn_succ (low : start ≤ offset) : examinedIn ranges start (offset + 1) =
    examinedIn ranges start offset ++ if isFree ranges offset = true then [offset] else [] := by
  have length : offset + 1 - start = offset - start + 1 := by omega
  have last : start + (offset - start) = offset := by omega
  rw [examinedIn, length, List.range'_1_concat, List.filter_append, last]
  cases free : isFree ranges offset <;> simp [examinedIn, free]

theorem examinedIn_covered {low high : Nat} (order : start ≤ low) (forward : low ≤ high)
    (covered : ∀ offset, low ≤ offset → offset < high → isFree ranges offset = false) :
    examinedIn ranges start high = examinedIn ranges start low := by
  induction high, forward using Nat.le_induction with
  | base => rfl
  | succ high forward ih =>
      rw [examinedIn_succ (by omega), covered high forward (Nat.lt_succ_self high),
        if_neg Bool.false_ne_true, List.append_nil]
      exact ih fun offset after before => covered offset after (by omega)

theorem isFree_false {range : ReplayRange} (member : range ∈ ranges)
    (inside : range.contains offset = true) : isFree ranges offset = false := by
  rw [isFree, Option.isNone_eq_false_iff, List.find?_isSome]
  exact ⟨range, member, inside⟩

/-- A batch that has passed over all offsets from its start to its cursor. -/
structure Walked (view : GroupView) (partition : PartitionKey) (ranges : List ReplayRange)
    (maxRecords maxPayloadBytes start : Nat) (reclaim : ReclaimState) : Prop where
  low : start ≤ reclaim.retention.reclaimCursor
  high : reclaim.retention.reclaimCursor ≤ reclaim.retention.logicalFloor
  examined : reclaim.examined =
    (examinedIn ranges start reclaim.retention.reclaimCursor).length
  bytes : reclaim.reclaimedBytes =
    min (view.examinedBytes partition ranges start reclaim.retention.reclaimCursor) u64Max
  room : ∀ offset, start ≤ offset → offset < reclaim.retention.reclaimCursor →
    view.HasRoom partition ranges maxRecords maxPayloadBytes start offset

theorem examinedBytes_succ (low : start ≤ offset) (free : isFree ranges offset = true) :
    view.examinedBytes partition ranges start (offset + 1) =
      view.examinedBytes partition ranges start offset + view.bytesAt partition offset := by
  rw [examinedBytes, examinedIn_succ low, if_pos free, Kv.weigh_append, Kv.weigh_cons, Kv.weigh_nil]
  rfl

theorem Walked.examine
    (walked : view.Walked partition ranges maxRecords maxPayloadBytes start before)
    (below : before.retention.reclaimCursor < before.retention.logicalFloor)
    (free : isFree ranges before.retention.reclaimCursor = true)
    (room : view.HasRoom partition ranges maxRecords maxPayloadBytes start
      before.retention.reclaimCursor)
    (cursor : after.retention.reclaimCursor = before.retention.reclaimCursor + 1)
    (floor : after.retention.logicalFloor = before.retention.logicalFloor)
    (examined : after.examined = before.examined + 1)
    (bytes : after.reclaimedBytes = min (before.reclaimedBytes +
      view.bytesAt partition before.retention.reclaimCursor) u64Max) :
    view.Walked partition ranges maxRecords maxPayloadBytes start after where
  low := by
    have low := walked.low
    omega
  high := by omega
  examined := by
    rw [examined, cursor, examinedIn_succ walked.low, if_pos free, walked.examined,
      List.length_append, List.length_singleton]
  bytes := by
    rw [bytes, cursor, examinedBytes_succ walked.low free, walked.bytes]
    omega
  room := by
    intro offset low high
    by_cases here : offset = before.retention.reclaimCursor
    · rw [here]
      exact room
    · exact walked.room offset low (by omega)

theorem reclaimStep_walked (fits : before.retention.logicalFloor ≤ u64Max)
    (small : maxPayloadBytes < u64Max)
    (walked : view.Walked partition ranges maxRecords maxPayloadBytes start before)
    (goes : before.retention.reclaimCursor < before.retention.logicalFloor ∧
      before.examined < maxRecords)
    (stepped : view.reclaimStep partition ranges maxPayloadBytes before = .ok (some after)) :
    view.Walked partition ranges maxRecords maxPayloadBytes start after := by
  have low := walked.low
  have next : saturatingAdd before.retention.reclaimCursor 1 =
      before.retention.reclaimCursor + 1 := by
    unfold saturatingAdd
    omega
  have room : (examinedIn ranges start before.retention.reclaimCursor).length < maxRecords := by
    rw [← walked.examined]
    exact goes.2
  unfold reclaimStep at stepped
  dsimp only at stepped
  split at stepped
  · rename_i range found
    cases stepped
    have holds := List.find?_some found
    have inside := ReplayRange.contains_iff.mp holds
    have covered : ∀ offset, before.retention.reclaimCursor ≤ offset →
        offset < min range.stop before.retention.logicalFloor → isFree ranges offset = false :=
      fun offset after earlier => isFree_false (List.mem_of_find?_eq_some found)
        (ReplayRange.contains_iff.mpr ⟨by omega, by omega⟩)
    have forward : before.retention.reclaimCursor ≤
        min range.stop before.retention.logicalFloor := by omega
    have same := examinedIn_covered low forward covered
    refine ⟨low.trans forward, min_le_right .., ?_, ?_, fun offset after earlier => ?_⟩
    · dsimp only
      rw [same]
      exact walked.examined
    · dsimp only
      rw [examinedBytes, same]
      exact walked.bytes
    · by_cases passed : offset < before.retention.reclaimCursor
      · exact walked.room offset after passed
      · -- what the range has is skipped, so the batch is as it was at the cursor
        have here : examinedIn ranges start offset =
            examinedIn ranges start before.retention.reclaimCursor :=
          examinedIn_covered low (by omega) fun place behind ahead =>
            covered place behind (ahead.trans earlier)
        refine ⟨by rw [here]; exact room, fun free => ?_⟩
        rw [covered offset (by omega) earlier] at free
        cases free
  rename_i none
  have free : isFree ranges before.retention.reclaimCursor = true := by
    rw [isFree, none]
    rfl
  split at stepped
  · rename_i absent
    cases stepped
    have nothing : view.bytesAt partition before.retention.reclaimCursor = 0 := by
      rw [bytesAt, absent]
      rfl
    refine walked.examine goes.1 free ⟨room, fun _ present => ?_⟩ next rfl rfl ?_
    · rw [absent] at present
      cases present
    · rw [nothing, Nat.add_zero, walked.bytes]
      omega
  · rename_i record present
    have bytes : view.bytesAt partition before.retention.reclaimCursor = record.payloadBytes := by
      rw [bytesAt, present]
      rfl
    split at stepped
    · simp at stepped
    rename_i allowed
    split at stepped
    · simp at stepped
    cases stepped
    refine walked.examine goes.1 free ⟨room, fun _ _ some => ?_⟩ next rfl rfl ?_
    · have positive : before.examined > 0 := by
        rw [walked.examined]
        exact List.length_pos_iff.mpr some
      have within := Nat.le_of_not_lt fun above => allowed ⟨positive, above⟩
      rw [saturatingAdd, walked.bytes] at within
      rw [bytes]
      omega
    · rw [bytes]
      rfl

theorem reclaimLoop_walked (small : maxPayloadBytes < u64Max) : ∀ {fuel : Nat}
    {before after : ReclaimState}, before.retention.logicalFloor ≤ u64Max →
    view.Walked partition ranges maxRecords maxPayloadBytes start before →
    view.reclaimLoop partition ranges maxRecords maxPayloadBytes fuel before = .ok after →
    view.Walked partition ranges maxRecords maxPayloadBytes start after := by
  intro fuel
  induction fuel with
  | zero =>
      intro before after _ walked done
      cases done
      exact walked
  | succ fuel ih =>
      intro before after fits walked done
      rw [reclaimLoop] at done
      split at done
      · rename_i goes
        split at done
        · simp at done
        · cases done
          exact walked
        · rename_i next stepped
          obtain ⟨_, _, one⟩ := reclaimStep_reclaims goes.1 fits stepped
          exact ih (by rw [one.floor]; exact fits)
            (reclaimStep_walked fits small walked goes stepped) done
      · cases done
        exact walked

theorem Walked.full
    (walked : view.Walked partition ranges maxRecords maxPayloadBytes start after)
    (stopped : view.Stopped partition ranges maxRecords maxPayloadBytes after)
    (below : after.retention.reclaimCursor < after.retention.logicalFloor) :
    ¬view.HasRoom partition ranges maxRecords maxPayloadBytes start
      after.retention.reclaimCursor := by
  rintro ⟨records, bytes⟩
  rw [← walked.examined] at records
  rcases stopped with idle | broken
  · exact idle ⟨below, records⟩
  unfold reclaimStep at broken
  dsimp only at broken
  split at broken
  · simp at broken
  rename_i none
  split at broken
  · simp at broken
  rename_i record present
  split at broken
  · rename_i exceeds
    have free : isFree ranges after.retention.reclaimCursor = true := by
      rw [isFree, none]
      rfl
    have within := bytes free (by rw [present]; rfl) (List.ne_nil_of_length_pos (by
      rw [← walked.examined]
      exact exceeds.1))
    rw [bytesAt, present, Option.map_some, Option.getD_some] at within
    have above := exceeds.2
    rw [saturatingAdd, walked.bytes] at above
    omega
  · split at broken <;> simp at broken

theorem reclaimLoop_ends (fits : before.retention.logicalFloor ≤ u64Max)
    (small : maxPayloadBytes < u64Max)
    (order : before.retention.reclaimCursor ≤ before.retention.logicalFloor)
    (fresh : before.examined = 0 ∧ before.reclaimedBytes = 0)
    (done : view.reclaimLoop partition ranges maxRecords maxPayloadBytes
      (before.retention.logicalFloor - before.retention.reclaimCursor) before = .ok after)
    {target : Nat} (low : before.retention.reclaimCursor ≤ target)
    (below : target < before.retention.logicalFloor) :
    after.retention.reclaimCursor = target ↔
      (∀ offset, before.retention.reclaimCursor ≤ offset → offset < target →
        view.HasRoom partition ranges maxRecords maxPayloadBytes before.retention.reclaimCursor
          offset) ∧
      ¬view.HasRoom partition ranges maxRecords maxPayloadBytes before.retention.reclaimCursor
        target := by
  have started : view.Walked partition ranges maxRecords maxPayloadBytes
      before.retention.reclaimCursor before := by
    refine ⟨le_rfl, order, ?_, ?_, fun offset after earlier => by omega⟩
    · rw [examinedIn_self, fresh.1]
      rfl
    · rw [examinedBytes, examinedIn_self, fresh.2]
      rfl
  have walked := reclaimLoop_walked small fits started done
  have stopped := reclaimLoop_stopped fits le_rfl done
  obtain ⟨_, reclaims⟩ := reclaimLoop_reclaims fits done
  have floor := reclaims.floor
  constructor
  · intro same
    rw [← same]
    exact ⟨walked.room, walked.full stopped (by omega)⟩
  · rintro ⟨room, full⟩
    rcases Nat.lt_trichotomy after.retention.reclaimCursor target with short | same | long
    · exact absurd (room _ walked.low short) (walked.full stopped (by omega))
    · exact same
    · exact absurd (walked.room target low long) full

end GroupView

end LightStream
