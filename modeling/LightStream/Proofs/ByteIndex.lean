import LightStream.Kv.Segments
import LightStream.Proofs.LeaseSpec
import LightStream.Proofs.Publications

/-!
The byte index of a partition is a prefix sum over the records that were published to it, and its
offsets count them.
-/

namespace LightStream

def publishedTo (published : List Publication) (partition : PartitionKey) : List Publication :=
  published.filter fun publication => publication.range.partition = partition

def rangesTo (published : List Publication) (partition : PartitionKey) : List (Nat × Nat) :=
  (publishedTo published partition).map fun publication =>
    (publication.range.first, publication.range.next)

def recordsTo (published : List Publication) (partition : PartitionKey) : List Record :=
  (publishedTo published partition).flatMap Publication.records

def bytesBelow (records : List Record) (offset : Nat) : Nat :=
  Kv.sizeThrough List.length records offset

structure SamePositions (before after : PartitionRetentionState) : Prop where
  floor : after.logicalFloor = before.logicalFloor
  next : after.nextBytePosition = before.nextBytePosition
  floorBytes : after.floorBytePosition = before.floorBytePosition

theorem SamePositions.refl (retention : PartitionRetentionState) : SamePositions retention retention :=
  ⟨rfl, rfl, rfl⟩

theorem SamePositions.trans {first second third : PartitionRetentionState}
    (before : SamePositions first second) (after : SamePositions second third) :
    SamePositions first third :=
  ⟨after.floor.trans before.floor, after.next.trans before.next,
    after.floorBytes.trans before.floorBytes⟩

theorem Lowered.samePositions {before after : PartitionRetentionState}
    (lowered : Lowered before after) : SamePositions before after := by
  obtain ⟨cursor, _, rfl⟩ := lowered
  exact ⟨rfl, rfl, rfl⟩

section Published

variable {published : List Publication} {partition : PartitionKey} {publication : Publication}

theorem publishedTo_append (published more : List Publication) (partition : PartitionKey) :
    publishedTo (published ++ more) partition =
      publishedTo published partition ++ publishedTo more partition := List.filter_append ..

theorem recordsTo_append (published more : List Publication) (partition : PartitionKey) :
    recordsTo (published ++ more) partition =
      recordsTo published partition ++ recordsTo more partition := by
  rw [recordsTo, publishedTo_append, List.flatMap_append, recordsTo, recordsTo]

theorem publishedTo_own (own : publication.range.partition = partition) :
    publishedTo [publication] partition = [publication] := by
  simp [publishedTo, own]

theorem publishedTo_other (other : publication.range.partition ≠ partition) :
    publishedTo [publication] partition = [] := by
  simp [publishedTo, other]

end Published

namespace GroupView

variable {view other : GroupView} {logId : GroupLogId} {slot : Nat} {batch : PublishBatch}
  {content : PayloadId → Record} {published : List Publication}

structure Indexed (content : PayloadId → Record) (published : List Publication) (view : GroupView) :
    Prop where
  filled : ∀ publication ∈ published, publication.records.length = publication.range.count
  tiles : ∀ partition,
    Kv.Tiles 0 (rangesTo published partition) (view.nextOffsetOf partition)
  counted : ∀ partition, (recordsTo published partition).length = view.nextOffsetOf partition
  record : ∀ partition offset (stored : StoredRecord),
    view.get (.record partition offset) = some stored →
    ∃ record, (recordsTo published partition)[offset]? = some record ∧
      content stored.payloadKey = record ∧ stored.payloadBytes = record.length ∧
      stored.cumulativeEndBytes = bytesBelow (recordsTo published partition) (offset + 1)
  position : ∀ partition, (view.retentionOf partition).nextBytePosition =
    bytesBelow (recordsTo published partition) (view.nextOffsetOf partition)
  floor : ∀ partition, (view.retentionOf partition).floorBytePosition =
    bytesBelow (recordsTo published partition) (view.retentionOf partition).logicalFloor
  leased : ∀ (id : ReplayLeaseId) (lease : ReplayLease), view.get (.leaseId id) = some lease →
    lease.range.stop ≤ view.nextOffsetOf lease.range.partition ∧
      lease.protectedBytes +
          bytesBelow (recordsTo published lease.range.partition) lease.range.start =
        bytesBelow (recordsTo published lease.range.partition) lease.range.stop
  bounded : ∀ partition, (view.retentionOf partition).nextBytePosition ≤ u64Max

theorem indexed_empty (empty : ∀ key, view.get key = none) : Indexed content [] view := by
  have retention (partition : PartitionKey) :
      view.retentionOf partition = PartitionRetentionState.default := by
    rw [retentionOf, empty]
    rfl
  have next (partition : PartitionKey) : view.nextOffsetOf partition = 0 := by
    rw [nextOffsetOf, empty]
    rfl
  constructor
  · simp
  · intro partition
    rw [next]
    rfl
  · intro partition
    rw [next]
    rfl
  · simp [empty]
  · intro partition
    rw [retention, next]
    rfl
  · intro partition
    rw [retention]
    rfl
  · simp [empty]
  · intro partition
    rw [retention]
    exact Nat.zero_le _

theorem Indexed.kept (indexed : Indexed content published view)
    (next : ∀ partition, other.nextOffsetOf partition = view.nextOffsetOf partition)
    (records : ∀ partition offset (stored : StoredRecord),
      other.get (.record partition offset) = some stored →
      view.get (.record partition offset) = some stored)
    (retention : ∀ partition,
      SamePositions (view.retentionOf partition) (other.retentionOf partition))
    (leases : ∀ (id : ReplayLeaseId) (lease : ReplayLease), other.get (.leaseId id) = some lease →
      ∃ before : ReplayLease, view.get (.leaseId id) = some before ∧ lease.range = before.range ∧
        lease.protectedBytes = before.protectedBytes) :
    Indexed content published other where
  filled := indexed.filled
  tiles := by simpa only [next] using indexed.tiles
  counted := by simpa only [next] using indexed.counted
  record := fun partition offset stored found =>
    indexed.record partition offset stored (records partition offset stored found)
  position := by
    intro partition
    rw [(retention partition).next, next]
    exact indexed.position partition
  floor := by
    intro partition
    rw [(retention partition).floorBytes, (retention partition).floor]
    exact indexed.floor partition
  leased := by
    intro id lease stored
    obtain ⟨before, found, range, bytes⟩ := leases id lease stored
    rw [range, bytes, next]
    exact indexed.leased id before found
  bounded := by
    intro partition
    rw [(retention partition).next]
    exact indexed.bounded partition

def indexedFamilies : List StateFamily := [.record, .nextOffset, .retention, .lease]

theorem Indexed.frame (indexed : Indexed content published view)
    (same : ∀ key : StateKey, key.family ∈ indexedFamilies → other.get key = view.get key) :
    Indexed content published other := by
  refine indexed.kept ?_ ?_ ?_ ?_
  · intro partition
    rw [nextOffsetOf, nextOffsetOf, same _ (by simp [StateKey.family, indexedFamilies])]
  · intro partition offset stored found
    rwa [same _ (by simp [StateKey.family, indexedFamilies])] at found
  · intro partition
    rw [retentionOf, retentionOf, same _ (by simp [StateKey.family, indexedFamilies])]
    exact .refl _
  · intro id lease stored
    rw [same _ (by simp [StateKey.family, indexedFamilies])] at stored
    exact ⟨lease, stored, rfl, rfl⟩

theorem Indexed.within {families : List StateFamily} {writes : StateBatch}
    (indexed : Indexed content published view) (within : Within families writes)
    (outside : ∀ family ∈ indexedFamilies, family ∉ families) :
    Indexed content published (view.after writes) :=
  indexed.frame fun _ inside => after_get_of_within within (outside _ inside)

section Publish

theorem recordOps_stored (logId : GroupLogId) (partition : PartitionKey) (records : List Record)
    (slot offset position index : Nat) (inside : index < records.length) :
    ∃ record, records[index]? = some record ∧
      Kv.Batch.effect (recordOps logId partition records slot offset position)
        (.record partition (offset + index)) =
          some (some ⟨⟨logId, slot + index⟩, record.length,
            position + bytesBelow records (index + 1)⟩) := by
  induction records generalizing slot offset position index with
  | nil => simp at inside
  | cons record rest ih =>
      rw [recordOps, Kv.Batch.effect_cons]
      cases index with
      | zero =>
          have later := recordOps_effect logId partition rest (slot + 1) (offset + 1)
            (position + record.length) offset
          rw [if_neg (by omega)] at later
          refine ⟨record, rfl, ?_⟩
          rw [Nat.add_zero, later, Option.none_or]
          exact Kv.Op.effect_put_self _ _
      | succ index =>
          obtain ⟨found, at', stored⟩ := ih (slot + 1) (offset + 1) (position + record.length) index
            (by simpa using inside)
          refine ⟨found, at', ?_⟩
          rw [show offset + (index + 1) = offset + 1 + index by omega, stored, Option.some_or,
            show slot + (index + 1) = slot + 1 + index by omega]
          have sum : bytesBelow (record :: rest) (index + 1 + 1) =
              record.length + bytesBelow rest (index + 1) := by
            simp [bytesBelow, Kv.sizeThrough]
          rw [sum, ← Nat.add_assoc]

theorem payloadTotal_eq (records : List Record) :
    payloadTotal records = bytesBelow records records.length := by
  rw [bytesBelow, Kv.sizeThrough_all]
  rfl

variable {range : CommittedRecordRange}

theorem allocated_identity
    (allocated : CommittedRecordRange.new batch.partition (view.nextOffsetOf batch.partition)
      batch.records.length = .ok range) :
    range.partition = batch.partition ∧ range.count = batch.records.length := by
  unfold CommittedRecordRange.new at allocated
  split at allocated
  · simp at allocated
  split at allocated
  · cases allocated
    exact ⟨rfl, rfl⟩
  · simp at allocated

theorem place_stored {index : Nat} (inside : index < batch.records.length) :
    ∃ record, batch.records[index]? = some record ∧
      (view.after (view.placeWrites logId slot batch range)).get
          (.record batch.partition (range.first + index)) =
        some ⟨⟨logId, slot + index⟩, record.length,
          (view.retentionOf batch.partition).nextBytePosition +
            bytesBelow batch.records (index + 1)⟩ := by
  obtain ⟨record, found, stored⟩ := recordOps_stored logId batch.partition batch.records slot
    range.first (view.retentionOf batch.partition).nextBytePosition index inside
  refine ⟨record, found, ?_⟩
  simp only [after, Kv.pending, placeWrites, Kv.Batch.effect_append, stored]
  simp [Kv.Op.effect]

theorem bytesBelow_append {records : List Record} {offset : Nat} (within : offset ≤ records.length)
    (more : List Record) : bytesBelow (records ++ more) offset = bytesBelow records offset :=
  Kv.sizeThrough_append within more

theorem Indexed.appended (indexed : Indexed content published view) (kept : view.Protected)
    (carried : batch.Carried content logId slot)
    (allocated : CommittedRecordRange.new batch.partition (view.nextOffsetOf batch.partition)
      batch.records.length = .ok range)
    (room : (view.retentionOf batch.partition).nextBytePosition ≤ u64Max →
      (view.retentionOf batch.partition).nextBytePosition + payloadTotal batch.records ≤ u64Max) :
    Indexed content (published ++ [⟨range, batch.records⟩])
      (view.after (view.placeWrites logId slot batch range)) := by
  obtain ⟨first, next, fits⟩ := committedRecordRange_ok allocated
  obtain ⟨home, count⟩ := allocated_identity allocated
  have counted := indexed.counted
  have added (partition : PartitionKey) :
      recordsTo (published ++ [⟨range, batch.records⟩]) partition =
        recordsTo published partition ++ if partition = batch.partition then batch.records else [] := by
    rw [recordsTo_append]
    by_cases own : partition = batch.partition
    · rw [if_pos own, recordsTo.eq_1 [_], publishedTo_own (home.trans own.symm)]
      simp
    · rw [if_neg own, recordsTo.eq_1 [_], publishedTo_other (by rw [home]; exact Ne.symm own)]
      rfl
  have earlier {partition : PartitionKey} {offset : Nat}
      (below : offset ≤ view.nextOffsetOf partition) :
      bytesBelow (recordsTo (published ++ [⟨range, batch.records⟩]) partition) offset =
        bytesBelow (recordsTo published partition) offset := by
    rw [added]
    exact bytesBelow_append (by rw [counted]; exact below) _
  have nextOffset (partition : PartitionKey) :=
    @place_nextOffset view logId slot batch range partition
  have retention (partition : PartitionKey) :=
    @place_retention view logId slot batch range partition
  have within := @placeWrites_within view logId slot batch range
  constructor
  · intro publication member
    rcases List.mem_append.mp member with old | new
    · exact indexed.filled publication old
    · rw [List.mem_singleton.mp new]
      exact count.symm
  · intro partition
    rw [nextOffset, rangesTo, publishedTo_append, List.map_append]
    by_cases own : partition = batch.partition
    · rw [if_pos own, publishedTo_own (home.trans own.symm), List.map_singleton, first]
      have old := indexed.tiles partition
      rw [own] at old ⊢
      have nonempty := range.nonempty
      have forward : view.nextOffsetOf batch.partition < range.next := by omega
      exact Kv.Tiles.snoc old forward
    · rw [if_neg own, publishedTo_other (by rw [home]; exact Ne.symm own), List.map_nil,
        List.append_nil]
      exact indexed.tiles partition
  · intro partition
    rw [added, nextOffset, List.length_append, counted]
    by_cases own : partition = batch.partition
    · rw [if_pos own, if_pos own, own, next]
    · rw [if_neg own, if_neg own]
      rfl
  · intro partition offset stored found
    by_cases inside : partition = batch.partition ∧ range.first ≤ offset ∧
        offset < range.first + batch.records.length
    · obtain ⟨rfl, low, high⟩ := inside
      obtain ⟨index, rfl⟩ := Nat.exists_eq_add_of_le low
      obtain ⟨record, body, placed⟩ := @place_stored view logId slot batch range index (by omega)
      rw [placed] at found
      cases found
      refine ⟨record, ?_, carried index record body, rfl, ?_⟩
      · rw [added, if_pos rfl, List.getElem?_append_right (by rw [counted]; omega), counted, ← first,
          Nat.add_sub_cancel_left]
        exact body
      · rw [added, if_pos rfl, indexed.position, first, ← counted, Nat.add_assoc, bytesBelow,
          bytesBelow, Kv.sizeThrough_all, bytesBelow, Kv.sizeThrough_later]
    · have old : view.get (.record partition offset) = some stored := by
        by_cases own : partition = batch.partition
        · subst own
          have placed := @place_record view logId slot batch range offset
          rw [if_neg (fun bounds => inside ⟨rfl, bounds⟩)] at placed
          rw [← placed]
          exact found
        · rwa [place_record_other own] at found
      obtain ⟨record, at', body, size, sum⟩ := indexed.record partition offset stored old
      have below := kept.tail partition offset (by rw [old]; rfl)
      refine ⟨record, ?_, body, size, ?_⟩
      · rw [added]
        exact List.getElem?_append_left (by rw [counted]; exact below) |>.trans at'
      · rw [earlier below]
        exact sum
  · intro partition
    rw [retention, nextOffset, added]
    by_cases own : partition = batch.partition
    · subst own
      rw [if_pos rfl, if_pos rfl, if_pos rfl]
      dsimp only
      rw [indexed.position, next, ← counted, bytesBelow, bytesBelow, Kv.sizeThrough_later,
        Kv.sizeThrough_all, payloadTotal_eq, bytesBelow]
    · rw [if_neg own, if_neg own, if_neg own, List.append_nil]
      exact indexed.position partition
  · intro partition
    have floor : ((view.after (view.placeWrites logId slot batch range)).retentionOf
          partition).logicalFloor = (view.retentionOf partition).logicalFloor ∧
        ((view.after (view.placeWrites logId slot batch range)).retentionOf
          partition).floorBytePosition = (view.retentionOf partition).floorBytePosition := by
      rw [retention]
      split <;> exact ⟨rfl, rfl⟩
    rw [floor.1, floor.2, earlier (kept.floor partition)]
    exact indexed.floor partition
  · intro id lease stored
    rw [after_get_of_within within (by simp [StateKey.family])] at stored
    obtain ⟨below, bytes⟩ := indexed.leased id lease stored
    have ordered := lease.range.ordered
    rw [earlier below, earlier (by omega)]
    refine ⟨?_, bytes⟩
    rw [nextOffset]
    split
    · rename_i own
      rw [own] at below
      omega
    · exact below
  · intro partition
    rw [retention]
    split
    · rename_i own
      subst own
      exact room (indexed.bounded _)
    · exact indexed.bounded partition

theorem Indexed.publishes {write : WriteBatch} {more : List Publication}
    (indexed : Indexed content published view) (kept : view.Protected)
    (carried : batch.Carried content logId slot)
    (publishes : view.Publishes logId slot batch write more) :
    Indexed content (published ++ more) (view.after write.state) := by
  cases publishes with
  | quiet writes within =>
      rw [List.append_nil]
      exact indexed.within within (by decide)
  | appended range allocated owned before rest beforeWithin afterWithin fits =>
      refine (indexed.appended kept carried allocated fits).frame fun key inside =>
        place_between beforeWithin afterWithin ?_
      intro outside
      simp only [indexedFamilies, List.mem_cons, List.not_mem_nil, or_false] at inside outside
      rcases outside with family | family | family <;> rw [family] at inside <;> simp at inside

end Publish

section Leases

variable {clock : SafeLeaseClock}

theorem Indexed.expired (indexed : Indexed content published view) (listed : view.Listed) :
    Indexed content published (view.expired clock) := by
  refine indexed.kept ?_ ?_ ?_ ?_
  · intro partition
    rw [nextOffsetOf, nextOffsetOf, expired_get_other (by simp [StateKey.family])]
  · intro partition offset stored found
    rwa [expired_record] at found
  · intro partition
    exact (expired_lowered partition).samePositions
  · intro id lease stored
    rw [expired_lease listed, Option.map_eq_some_iff] at stored
    obtain ⟨before, found, rfl⟩ := stored
    refine ⟨before, found, ?_, ?_⟩
    · split <;> rfl
    · split <;> rfl

theorem Indexed.storeLease {id : ReplayLeaseId} {lease : ReplayLease} {rest : StateBatch}
    (indexed : Indexed content published view)
    (within : Within [.leaseRequest, .leaseBudget, .leaseClock] rest)
    (below : lease.range.stop ≤ view.nextOffsetOf lease.range.partition)
    (bytes : lease.protectedBytes +
        bytesBelow (recordsTo published lease.range.partition) lease.range.start =
      bytesBelow (recordsTo published lease.range.partition) lease.range.stop) :
    Indexed content published (view.after (.put (.leaseId id) lease :: rest)) := by
  have stored : Indexed content published (view.after [.put (.leaseId id) lease]) := by
    have lone : Within [.lease] [(.put (.leaseId id) lease : Kv.Op StateKey StateVal)] := by
      simp [StateKey.family]
    have same {key : StateKey} (outside : key.family ≠ .lease) :
        (view.after [.put (.leaseId id) lease]).get key = view.get key :=
      after_get_of_within lone (by simpa using outside)
    have next (partition : PartitionKey) : (view.after [.put (.leaseId id) lease]).nextOffsetOf
        partition = view.nextOffsetOf partition := by
      rw [nextOffsetOf, nextOffsetOf, same (by simp [StateKey.family])]
    have retention (partition : PartitionKey) : (view.after [.put (.leaseId id) lease]).retentionOf
        partition = view.retentionOf partition := by
      rw [retentionOf, retentionOf, same (by simp [StateKey.family])]
    constructor
    · exact indexed.filled
    · simpa only [next] using indexed.tiles
    · simpa only [next] using indexed.counted
    · intro partition offset record found
      rw [same (by simp [StateKey.family])] at found
      exact indexed.record partition offset record found
    · simpa only [next, retention] using indexed.position
    · simpa only [retention] using indexed.floor
    · intro other found present
      rw [next]
      rw [storeLease_get (within_nil []) (by decide)] at present
      split at present
      · cases present
        exact ⟨below, bytes⟩
      · exact indexed.leased other found present
    · simpa only [retention] using indexed.bounded
  rw [← List.singleton_append, after_append]
  exact stored.within within (by decide)

theorem Indexed.rangeBytes (indexed : Indexed content published view)
    {request : ReplayLeaseRequest} {bytes : Nat}
    (above : (view.retentionOf request.range.partition).logicalFloor ≤ request.range.start)
    (sized : view.replayRangeBytes request (view.retentionOf request.range.partition) = .ok bytes) :
    bytes + bytesBelow (recordsTo published request.range.partition) request.range.start =
      bytesBelow (recordsTo published request.range.partition) request.range.stop := by
  have ordered := request.range.ordered
  unfold replayRangeBytes at sized
  dsimp only at sized
  split at sized
  · simp at sized
  rename_i startBytes started
  have start : startBytes =
      bytesBelow (recordsTo published request.range.partition) request.range.start := by
    split at started
    · rename_i atFloor
      cases started
      rw [indexed.floor, atFloor]
    · split at started
      · simp at started
      rename_i record found
      cases started
      obtain ⟨_, _, _, _, sum⟩ := indexed.record _ _ record found
      rw [sum, show request.range.start - 1 + 1 = request.range.start by omega]
  split at sized
  · simp at sized
  rename_i last found
  obtain ⟨_, _, _, _, sum⟩ := indexed.record _ _ last found
  rw [show request.range.stop - 1 + 1 = request.range.stop by omega] at sum
  split at sized
  · rename_i monotonic
    cases sized
    rw [← start, ← sum]
    omega
  · simp at sized

theorem Indexed.admitted (indexed : Indexed content published view) (listed : view.Listed)
    {request : ReplayLeaseRequest} {decision : LeaseDecision}
    (case : view.AdmitCase request clock (view.expireDueLeases clock) decision) :
    Indexed content published ((view.expired clock).after decision.2) := by
  have expired := @Indexed.expired view content published clock indexed listed
  cases case with
  | refused error => exact expired
  | admitted bytes lease sized admits =>
      obtain ⟨_, request', protectedBytes, _, above, below⟩ := admit_ok admits
      have range : lease.range = request.range := by rw [ReplayLease.range, request']
      refine expired.storeLease (by simp [StateKey.family]) ?_ ?_
      · rw [range, nextOffsetOf, expired_get_other (by simp [StateKey.family])]
        exact below
      · rw [range, protectedBytes]
        exact indexed.rangeBytes above sized

theorem Indexed.renewed (indexed : Indexed content published view) (listed : view.Listed)
    {request : LeaseRenewal} {decision : LeaseDecision}
    (case : view.RenewCase request clock decision) :
    Indexed content published ((view.expired clock).after decision.2) := by
  have expired := @Indexed.expired view content published clock indexed listed
  cases case with
  | refused error => exact expired
  | renewed lease renewed expiresAt stored effective later renews =>
      obtain ⟨rfl, _⟩ := renewed_kept renews
      obtain ⟨below, bytes⟩ := expired.leased _ lease (expired_effective listed stored effective)
      exact expired.storeLease (by simp [StateKey.family]) below bytes

theorem Indexed.released (indexed : Indexed content published view) (listed : view.Listed)
    {request : LeaseRelease} {decision : LeaseDecision}
    (case : view.ReleaseCase request clock (view.expireDueLeases clock) decision) :
    Indexed content published ((view.expired clock).after decision.2) := by
  have expired := @Indexed.expired view content published clock indexed listed
  cases case with
  | refused error => exact expired
  | released lease stored effective =>
      have lowers := @releaseReclaim_lowers view clock lease.range
      have released : Within [.lease]
          [(.put (.leaseId request.lease) lease.released : Kv.Op StateKey StateVal)] := by
        simp [StateKey.family]
      have reclaimed : Indexed content published ((view.expired clock).after
          (view.releaseReclaim (view.expireDueLeases clock) lease.range)) := by
        refine expired.kept ?_ ?_ (fun partition => (lowers.lowered partition).samePositions) ?_
        · intro partition
          rw [nextOffsetOf, nextOffsetOf, lowers.frame _ (by simp [StateKey.family])]
        · intro partition offset record found
          rwa [lowers.frame _ (by simp [StateKey.family])] at found
        · intro id other found
          rw [lowers.frame _ (by simp [StateKey.family])] at found
          exact ⟨other, found, rfl, rfl⟩
      obtain ⟨below, bytes⟩ := reclaimed.leased request.lease lease (by
        rw [lowers.frame _ (by simp [StateKey.family])]
        exact expired_effective listed stored effective)
      have ending : Indexed content published (((view.expired clock).after
          (view.releaseReclaim (view.expireDueLeases clock) lease.range)).after
          ([.put (.leaseId request.lease) lease.released] ++
            [.put .leaseBudget ⟨(view.expireDueLeases clock).budget.activeLeases - 1,
                (view.expireDueLeases clock).budget.reservedBytes - lease.protectedBytes⟩,
              .put .leaseClock clock])) :=
        reclaimed.storeLease (by simp [StateKey.family]) below bytes
      exact ending.frame fun key _ => after_swap released (releaseReclaim_within _ _) (by decide)

theorem LeaseCase.indexed {request : MutationRequestId} {fingerprint : MutationFingerprint}
    {observation : ClockObservation} {decision : SafeLeaseClock → LeaseExpiryState → LeaseDecision}
    {result : ApplyResult} {write : WriteBatch} (indexed : Indexed content published view)
    (case : view.LeaseCase request fingerprint observation decision result write)
    (decided : ∀ clock, Indexed content published ((view.expired clock).after
      (decision clock (view.expireDueLeases clock)).2)) :
    Indexed content published (view.after write.state) := by
  cases case with
  | answered result prior => exact indexed
  | unclocked fresh error clockless =>
      exact indexed.within (storeMutationResult_within _ _ _) (by decide)
  | decided fresh clock advanced =>
      refine (decided clock).frame fun key inside => LeaseCase.decided_get ?_
      rintro mutation
      rw [mutation] at inside
      simp [indexedFamilies] at inside

end Leases

end GroupView

end LightStream
