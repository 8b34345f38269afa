import LightStream.Kv.Ordered
import LightStream.Proofs.Retries
import LightStream.Storage.LogReader

/-!
Reading the log undoes thinning: what was appended is read back, in the order of the indexes and
with the records of every publish.
-/

namespace LightStream

section Payloads

variable {logId : GroupLogId} {slot : Nat}

theorem slotted_payloads (requests : List PublishBatch) :
    ((slottedRequests slot requests).flatMap fun entry =>
      payloadsFrom logId entry.1 entry.2.records) =
        payloadsFrom logId slot (requests.flatMap PublishBatch.records) := by
  induction requests generalizing slot with
  | nil => rfl
  | cons publish rest ih =>
      rw [slottedRequests, List.flatMap_cons, ih, List.flatMap_cons, payloadsFrom, payloadsFrom,
        payloadsFrom, List.mapIdx_append]
      congr 2
      funext index record
      rw [show slot + publish.records.length + index = slot + (index + publish.records.length) by
        omega]

theorem payloadsFrom_unique {records : List Record} {id : PayloadId} {first second : Record}
    (firstMember : (id, first) ∈ payloadsFrom logId slot records)
    (secondMember : (id, second) ∈ payloadsFrom logId slot records) : first = second := by
  obtain ⟨index, found, rfl⟩ := mem_payloadsFrom.mp firstMember
  obtain ⟨other, same, sameId⟩ := mem_payloadsFrom.mp secondMember
  have equal : index = other := by
    simp only [PayloadId.mk.injEq, true_and] at sameId
    omega
  subst equal
  exact Option.some.inj (found.symm.trans same)

theorem thinEntry_unique {entry : GroupEntry} {id : PayloadId} {first second : Record}
    (firstMember : (id, first) ∈ (thinEntry entry).2)
    (secondMember : (id, second) ∈ (thinEntry entry).2) : first = second := by
  obtain ⟨logId, payload⟩ := entry
  cases payload with
  | blank => simp [thinEntry] at firstMember
  | membership membership => simp [thinEntry] at firstMember
  | normal command =>
      cases command with
      | publish batch => exact payloadsFrom_unique firstMember secondMember
      | publishMany batch =>
          have joined : (thinEntry ⟨logId, .normal (.publishMany batch)⟩).2 =
              payloadsFrom logId 0 (batch.requests.flatMap PublishBatch.records) :=
            slotted_payloads batch.requests
          rw [joined] at firstMember secondMember
          exact payloadsFrom_unique firstMember secondMember
      | _ => simp [thinEntry, thinCommand] at firstMember

end Payloads

def GroupEntry.byIndex (first second : GroupEntry) : Prop := first.logId.index ≤ second.logId.index

instance : DecidableRel GroupEntry.byIndex := fun first second =>
  inferInstanceAs (Decidable (first.logId.index ≤ second.logId.index))

instance : Std.Total GroupEntry.byIndex := ⟨fun _ _ => Nat.le_total ..⟩

instance : IsTrans GroupEntry GroupEntry.byIndex := ⟨fun _ _ _ => Nat.le_trans⟩

def IndexBound.Typed : IndexBound → Prop
  | .included value | .excluded value => value ≤ u64Max
  | .unbounded => True

def IndexRange.Typed (range : IndexRange) : Prop := range.startBound.Typed ∧ range.endBound.Typed

def IndexBound.startsBy (bound : IndexBound) (index : Nat) : Bool :=
  match bound with
  | .included value => decide (value ≤ index)
  | .excluded value => decide (value < index)
  | .unbounded => true

def IndexBound.endsAfter (bound : IndexBound) (index : Nat) : Bool :=
  match bound with
  | .included value => decide (index ≤ value)
  | .excluded value => decide (index < value)
  | .unbounded => true

theorem IndexRange.contains_eq (range : IndexRange) (index : Nat) :
    range.contains index = (range.startBound.startsBy index && range.endBound.endsAfter index) := by
  obtain ⟨startBound, endBound⟩ := range
  cases startBound <;> cases endBound <;> rfl

/-! ### One entry -/

namespace GroupDb

variable {db : GroupDb} {logId : GroupLogId}

def Holds (db : GroupDb) (payloads : List (PayloadId × Record)) : Prop :=
  ∀ payload ∈ payloads, db.payload.get (.bytes payload.1) = some payload.2

theorem readPayloads_holds {payloads : List (PayloadId × Record)} (holds : db.Holds payloads) :
    db.readPayloads (payloads.map Prod.fst) = .ok (payloads.map Prod.snd) := by
  induction payloads with
  | nil => rfl
  | cons payload rest ih =>
      rw [List.map_cons, readPayloads, holds payload (List.mem_cons_self ..)]
      dsimp only
      rw [ih fun other member => holds other (List.mem_cons_of_mem _ member)]
      rfl

theorem new_records (batch : PublishBatch) :
    PublishBatch.new batch.cluster batch.partition batch.request batch.records =
      .ok { batch with bookmark := none } := by
  obtain ⟨cluster, partition, request, records, bookmark, valid⟩ := batch
  have each (rest : List Record)
      (sizes : ∀ record ∈ rest, record ≠ [] ∧ record.length ≤ maxRecordBytes) :
      validateEachRecord rest = .ok () := by
    induction rest with
    | nil => rfl
    | cons record rest ih =>
        obtain ⟨nonempty, short⟩ := sizes record (List.mem_cons_self ..)
        rw [validateEachRecord, if_neg nonempty, if_neg (by omega)]
        exact ih fun other member => sizes other (List.mem_cons_of_mem _ member)
  have sizes := each records valid.sizes
  have count := valid.count
  have total := valid.total
  unfold PublishBatch.new
  dsimp only
  rw [dif_neg valid.nonempty, dif_neg (by omega)]
  split
  · rename_i error failed
    rw [sizes] at failed
    simp at failed
  · rw [dif_neg (by omega)]

theorem hydratePublish_thin {slot : Nat} {digest : PublishFingerprint} (batch : PublishBatch)
    (holds : db.Holds (payloadsFrom logId slot batch.records)) :
    db.hydratePublish (thinPublish logId slot digest batch) = .ok batch := by
  have bodies : (payloadsFrom logId slot batch.records).map Prod.snd = batch.records := by
    refine List.ext_getElem? fun index => ?_
    rw [payloadsFrom, List.getElem?_map, List.getElem?_mapIdx, Option.map_map]
    exact Option.map_id'
  unfold hydratePublish thinPublish
  dsimp only
  rw [readPayloads_holds holds, bodies]
  dsimp only
  rw [new_records]
  dsimp only
  obtain ⟨cluster, partition, request, records, bookmark, valid⟩ := batch
  cases bookmark <;> rfl

theorem hydrateRequests_thin : ∀ {requests : List (Nat × PublishBatch)},
    (∀ entry ∈ requests, db.Holds (payloadsFrom logId entry.1 entry.2.records)) →
    db.hydrateRequests (requests.map fun entry =>
      thinPublish logId entry.1 (fingerprint entry.2) entry.2) = .ok (requests.map Prod.snd) := by
  intro requests
  induction requests with
  | nil =>
      intro _
      rfl
  | cons entry rest ih =>
      intro holds
      rw [List.map_cons, hydrateRequests,
        hydratePublish_thin entry.2 (holds entry (List.mem_cons_self ..))]
      dsimp only
      rw [if_neg (by simp [thinPublish]),
        ih fun other member => holds other (List.mem_cons_of_mem _ member)]
      rfl

theorem slotted_requests (slot : Nat) (requests : List PublishBatch) :
    (slottedRequests slot requests).map Prod.snd = requests := by
  induction requests generalizing slot with
  | nil => rfl
  | cons publish rest ih => rw [slottedRequests, List.map_cons, ih]

theorem new_requests (batch : ReplicatedPublishBatch) :
    ReplicatedPublishBatch.new batch.requests = .ok batch := by
  unfold ReplicatedPublishBatch.new
  rw [dif_neg batch.nonempty, dif_pos batch.requestCount, dif_pos batch.recordCount,
    dif_pos batch.payloadBytes]

theorem hydrateCommand_stored (command : GroupCommand)
    (holds : db.Holds (thinCommand logId command).2) :
    db.hydrateCommand (storedCommand logId command) = .ok command := by
  cases command with
  | publish batch =>
      rw [storedCommand, hydrateCommand, hydratePublish_thin batch holds]
  | publishMany batch =>
      have each : ∀ entry ∈ slottedRequests 0 batch.requests,
          db.Holds (payloadsFrom logId entry.1 entry.2.records) := by
        intro entry member payload inside
        exact holds payload (List.mem_flatMap.mpr ⟨entry, member, inside⟩)
      rw [storedCommand, hydrateCommand, hydrateRequests_thin each, slotted_requests]
      dsimp only
      rw [new_requests]
  | _ => rfl

theorem hydrateEntry_thin (entry : GroupEntry) (holds : db.Holds (thinEntry entry).2) :
    db.hydrateEntry (thinEntry entry).1 = .ok entry := by
  obtain ⟨logId, payload⟩ := entry
  cases payload with
  | blank => rfl
  | membership membership => rfl
  | normal command =>
      unfold hydrateEntry thinEntry
      dsimp only
      rw [thinCommand_stored, hydrateCommand_stored command holds]

/-! ### The appended log -/

variable {entries : List GroupEntry}

def Distinct (entries : List GroupEntry) : Prop :=
  (entries.map fun entry => entry.logId.index).Nodup

theorem Distinct.eq (distinct : Distinct entries) {first second : GroupEntry}
    (firstMember : first ∈ entries) (secondMember : second ∈ entries)
    (same : first.logId.index = second.logId.index) : first = second :=
  List.inj_on_of_nodup_map distinct firstMember secondMember same

theorem append_holds (distinct : Distinct entries) {entry : GroupEntry} (member : entry ∈ entries) :
    (db.append entries).Holds (thinEntry entry).2 := by
  intro payload inside
  obtain ⟨id, body⟩ := payload
  rw [append_payload, Kv.Store.get_commit, effect_appendOps_bytes
    (List.mem_flatMap.mpr ⟨entry, member, inside⟩)]
  · rfl
  · intro other another
    obtain ⟨owner, owned, inOwner⟩ := List.mem_flatMap.mp another
    have same : owner.logId = entry.logId :=
      (thinEntry_logId inOwner).symm.trans (thinEntry_logId inside)
    obtain rfl := distinct.eq owned member (by rw [same])
    exact thinEntry_unique inOwner inside

theorem append_log (empty : ∀ index, db.raftLog.get index = none) (distinct : Distinct entries)
    {index : Nat} {thin : ThinEntry} :
    (db.append entries).raftLog.get index = some thin ↔
      ∃ entry ∈ entries, entry.logId.index = index ∧ (thinEntry entry).1 = thin := by
  let rows : List ((_ : Nat) × ThinEntry) :=
    entries.map fun entry => ⟨entry.logId.index, (thinEntry entry).1⟩
  have written : (db.append entries).raftLog = db.raftLog.commit (Kv.loads rows) := by
    rw [Kv.loads, List.map_map, append, List.map_map]
    show db.raftLog.commit _ = db.raftLog.commit _
    congr 1
    refine List.map_congr_left fun entry _ => ?_
    obtain ⟨logId, payload⟩ := entry
    cases payload <;> rfl
  have inRows (other : ThinEntry) : (⟨index, other⟩ : (_ : Nat) × ThinEntry) ∈ rows ↔
      ∃ entry ∈ entries, entry.logId.index = index ∧ (thinEntry entry).1 = other := by
    simp only [rows, List.mem_map, Sigma.mk.injEq, heq_eq_eq]
  rw [written, Kv.Store.get_commit]
  by_cases present : ∃ entry ∈ entries, entry.logId.index = index
  · obtain ⟨entry, member, own⟩ := present
    have only (other : ThinEntry) (inside : (⟨index, other⟩ : (_ : Nat) × ThinEntry) ∈ rows) :
        other = (thinEntry entry).1 := by
      obtain ⟨another, anotherMember, same, rfl⟩ := (inRows other).mp inside
      rw [distinct.eq anotherMember member (same.trans own.symm)]
    rw [Kv.effect_loads_of_mem ((inRows _).mpr ⟨entry, member, own, rfl⟩) only, Option.getD_some,
      Option.some.injEq, ← inRows]
    constructor
    · rintro rfl
      exact (inRows _).mpr ⟨entry, member, own, rfl⟩
    · intro inside
      exact (only thin inside).symm
  · rw [Kv.effect_loads_of_absent fun other inside => by
      obtain ⟨entry, member, own, _⟩ := (inRows other).mp inside
      exact present ⟨entry, member, own⟩, Option.getD_none, empty]
    constructor
    · simp
    · rintro ⟨entry, member, own, _⟩
      exact absurd ⟨entry, member, own⟩ present

def inOrder (entries : List GroupEntry) : List GroupEntry :=
  entries.insertionSort GroupEntry.byIndex

theorem inOrder_sorted (entries : List GroupEntry) :
    (inOrder entries).Pairwise GroupEntry.byIndex :=
  List.pairwise_insertionSort ..

theorem mem_inOrder {entry : GroupEntry} : entry ∈ inOrder entries ↔ entry ∈ entries :=
  (List.perm_insertionSort _ _).mem_iff

theorem append_rows (empty : ∀ index, db.raftLog.get index = none) (distinct : Distinct entries)
    (start : Nat) :
    (db.append entries).logRows start =
      ((inOrder entries).filter fun entry => decide (start ≤ entry.logId.index)).map fun entry =>
        (entry.logId.index, (thinEntry entry).1) := by
  let later := (inOrder entries).filter fun entry => decide (start ≤ entry.logId.index)
  have inLater {entry : GroupEntry} :
      entry ∈ later ↔ entry ∈ entries ∧ start ≤ entry.logId.index := by
    rw [List.mem_filter, mem_inOrder, decide_eq_true_eq]
  have indexes : ((db.append entries).raftLog.scan fun index =>
      if start ≤ index then some index else none) =
        later.map fun entry => entry.logId.index := by
    refine List.Perm.eq_of_pairwise (fun _ _ _ _ => Nat.le_antisymm)
      (List.pairwise_insertionSort _ _) ?_ ?_
    · rw [List.pairwise_map]
      exact (inOrder_sorted entries).filter _
    · refine (List.perm_ext_iff_of_nodup (Kv.Store.scan_nodup ?_) ?_).mpr fun index => ?_
      · intro first second entry firstIndex secondIndex
        simp only [Option.ite_none_right_eq_some, Option.some.injEq] at firstIndex secondIndex
        omega
      · refine List.Nodup.sublist (List.Sublist.map _ List.filter_sublist) ?_
        exact ((List.perm_insertionSort _ entries).map _).nodup_iff.mpr distinct
      · rw [Kv.Store.mem_scan, List.mem_map]
        constructor
        · rintro ⟨key, held, found⟩
          simp only [Option.ite_none_right_eq_some, Option.some.injEq] at found
          obtain ⟨from', rfl⟩ := found
          obtain ⟨thin, stored⟩ := Option.isSome_iff_exists.mp held
          obtain ⟨entry, member, own, _⟩ := (append_log empty distinct).mp stored
          exact ⟨entry, inLater.mpr ⟨member, by omega⟩, own⟩
        · rintro ⟨entry, member, rfl⟩
          obtain ⟨member, from'⟩ := inLater.mp member
          refine ⟨entry.logId.index, ?_, if_pos from'⟩
          rw [(append_log empty distinct).mpr ⟨entry, member, rfl, rfl⟩]
          rfl
  rw [logRows, indexes, List.filterMap_map]
  show _ = later.map _
  rw [← List.filterMap_eq_map]
  refine List.filterMap_congr fun entry member => ?_
  rw [Function.comp_apply,
    (append_log empty distinct).mpr ⟨entry, (inLater.mp member).1, rfl, rfl⟩]
  rfl

theorem readRows_thin {stop : Option Nat} {rows : List GroupEntry}
    (holds : ∀ entry ∈ rows, db.Holds (thinEntry entry).2) :
    db.readRows stop (rows.map fun entry => (entry.logId.index, (thinEntry entry).1)) =
      .ok (rows.takeWhile fun entry => stop.all fun bound => decide (entry.logId.index < bound)) := by
  induction rows with
  | nil => rfl
  | cons entry rest ih =>
      have others := ih fun other member => holds other (List.mem_cons_of_mem _ member)
      rw [List.map_cons, readRows, List.takeWhile_cons]
      by_cases inside : (stop.all fun bound => decide (entry.logId.index < bound)) = true
      · have goes : ¬(stop.any fun bound => decide (entry.logId.index ≥ bound)) = true := by
          cases stop <;> simp_all
        rw [if_pos inside, if_neg goes, hydrateEntry_thin entry (holds entry (List.mem_cons_self ..))]
        dsimp only
        rw [others]
      · have ends : (stop.any fun bound => decide (entry.logId.index ≥ bound)) = true := by
          cases stop <;> simp_all
        rw [if_neg inside, if_pos ends]

theorem tryGetLogEntries_append (empty : ∀ index, db.raftLog.get index = none)
    (distinct : Distinct entries) (range : IndexRange) :
    (db.append entries).tryGetLogEntries range =
      .ok ((inOrder entries).filter fun entry =>
        decide (rangeStart range ≤ entry.logId.index) &&
          (rangeEnd range).all fun bound => decide (entry.logId.index < bound)) := by
  rw [tryGetLogEntries, append_rows empty distinct, readRows_thin, Kv.takeWhile_of_lost,
    List.filter_filter]
  · congr 1
    refine List.filter_congr fun entry _ => ?_
    rw [Bool.and_comm]
  · refine ((inOrder_sorted entries).filter _).imp ?_
    intro first second below held
    cases stop : rangeEnd range with
    | none => rfl
    | some bound =>
        rw [stop] at held
        simp only [Option.all_some, decide_eq_true_eq] at held ⊢
        exact Nat.lt_of_le_of_lt below held
  · intro entry member
    exact append_holds distinct (mem_inOrder.mp (List.mem_filter.mp member).1)

/-! ### The limits of the indexes -/

/-- The range that excludes all indexes up to the last one and is not ended before it: its start
saturates, so an entry with the last index is read with it. -/
def Overread (entries : List GroupEntry) (range : IndexRange) : Prop :=
  range.startBound = .excluded u64Max ∧
    (range.endBound = .unbounded ∨ range.endBound = .included u64Max) ∧
    ∃ entry ∈ entries, entry.logId.index = u64Max

theorem rangeEnd_admits {range : IndexRange} (typed : range.Typed) {index : Nat}
    (fits : index ≤ u64Max) :
    ((rangeEnd range).all fun bound => decide (index < bound)) = range.endBound.endsAfter index := by
  obtain ⟨startBound, endBound⟩ := range
  cases endBound with
  | included value =>
      have bounded : value ≤ u64Max := typed.2
      rw [rangeEnd, IndexBound.endsAfter, Bool.eq_iff_iff]
      dsimp only
      rw [checkedAdd]
      split
      · simp only [Option.all_some, decide_eq_true_eq]
        omega
      · simp only [Option.all_none, true_iff, decide_eq_true_eq]
        omega
  | excluded value => rfl
  | unbounded => rfl

theorem rangeStart_admits {range : IndexRange} (typed : range.Typed) {index : Nat}
    (fits : index ≤ u64Max)
    (below : ¬(range.startBound = .excluded u64Max ∧ index = u64Max)) :
    decide (rangeStart range ≤ index) = range.startBound.startsBy index := by
  obtain ⟨startBound, endBound⟩ := range
  cases startBound with
  | included value => rfl
  | excluded value =>
      have bounded : value ≤ u64Max := typed.1
      have apart : ¬(value = u64Max ∧ index = u64Max) := by simpa using below
      rw [rangeStart, IndexBound.startsBy, Bool.eq_iff_iff, decide_eq_true_eq, decide_eq_true_eq]
      dsimp only
      rw [saturatingAdd]
      omega
  | unbounded => exact decide_eq_true (Nat.zero_le _)

def entriesIn (range : IndexRange) (entries : List GroupEntry) : List GroupEntry :=
  (inOrder entries).filter fun entry => range.contains entry.logId.index

theorem tryGetLogEntries_iff (empty : ∀ index, db.raftLog.get index = none)
    (distinct : Distinct entries) (fits : ∀ entry ∈ entries, entry.logId.index ≤ u64Max)
    {range : IndexRange} (typed : range.Typed) :
    (db.append entries).tryGetLogEntries range = .ok (entriesIn range entries) ↔
      ¬Overread entries range := by
  rw [tryGetLogEntries_append empty distinct, Except.ok.injEq, entriesIn]
  constructor
  · rintro same ⟨starts, ends, entry, member, last⟩
    have read : entry ∈ (inOrder entries).filter fun entry =>
        decide (rangeStart range ≤ entry.logId.index) &&
          (rangeEnd range).all fun bound => decide (entry.logId.index < bound) := by
      rw [List.mem_filter, rangeEnd_admits typed (fits entry member), rangeStart, starts, last]
      refine ⟨mem_inOrder.mpr member, ?_⟩
      rcases ends with none | all
      · rw [none]
        decide +kernel
      · rw [all]
        decide +kernel
    rw [same, List.mem_filter, IndexRange.contains, starts, last] at read
    simp at read
  · intro sound
    refine List.filter_congr fun entry inside => ?_
    have member := mem_inOrder.mp inside
    have bounded := fits entry member
    rw [range.contains_eq, rangeEnd_admits typed bounded]
    by_cases saturated : range.startBound = .excluded u64Max ∧ entry.logId.index = u64Max
    · -- the end must turn the last index away
      have ended : ¬(range.endBound = .unbounded ∨ range.endBound = .included u64Max) :=
        fun open' => sound ⟨saturated.1, open', entry, member, saturated.2⟩
      have turned : range.endBound.endsAfter entry.logId.index = false := by
        rw [saturated.2]
        have typedEnd := typed.2
        cases stop : range.endBound with
        | included value =>
            rw [stop] at typedEnd ended
            have bounded : value ≤ u64Max := typedEnd
            have short : value ≠ u64Max := by simpa using ended
            rw [IndexBound.endsAfter, decide_eq_false_iff_not]
            omega
        | excluded value =>
            rw [stop] at typedEnd
            have bounded : value ≤ u64Max := typedEnd
            rw [IndexBound.endsAfter, decide_eq_false_iff_not]
            omega
        | unbounded => simp [stop] at ended
      rw [turned, Bool.and_false, Bool.and_false]
    · rw [rangeStart_admits typed bounded saturated]

/-! ### The limited read -/

theorem limitEntries_initial {size : GroupEntry → Nat} : ∀ (rest limited : List GroupEntry)
    (bytes : Nat), ∃ taken, taken <+: rest ∧ limitEntries size rest limited bytes = limited ++ taken ∧
      (limited = [] → rest ≠ [] → taken ≠ []) := by
  intro rest
  induction rest with
  | nil =>
      intro limited bytes
      exact ⟨[], List.prefix_rfl, (List.append_nil _).symm, fun _ none => absurd rfl none⟩
  | cons entry rest ih =>
      intro limited bytes
      rw [limitEntries]
      split
      · rename_i full
        exact ⟨[], List.nil_prefix, (List.append_nil _).symm, fun none => absurd none full.1⟩
      · obtain ⟨taken, start, read, _⟩ :=
          ih (limited ++ [entry]) (saturatingAdd bytes (size entry))
        refine ⟨entry :: taken, List.cons_prefix_cons.mpr ⟨rfl, start⟩, ?_, by simp⟩
        rw [read, List.append_assoc, List.singleton_append]

/-- Hydration undoes thinning.  After an append to an empty log a read of a range returns exactly
the appended entries with an index in the range, in order and with the records of every publish,
unless the range excludes all indexes and the last one was appended.  The limited read returns a
start of the entries of its range, and not an empty one where there are some. -/
theorem log_hydration {db : GroupDb} {entries : List GroupEntry}
    (empty : ∀ index, db.raftLog.get index = none) (distinct : Distinct entries)
    (fits : ∀ entry ∈ entries, entry.logId.index ≤ u64Max) :
    (∀ range : IndexRange, range.Typed →
      ((db.append entries).tryGetLogEntries range = .ok (entriesIn range entries) ↔
        ¬Overread entries range)) ∧
    ∀ (size : GroupEntry → Nat) (start stop : Nat), ∃ limited,
      (db.append entries).limitedGetLogEntries size start stop = .ok limited ∧
        limited <+: entriesIn ⟨.included start, .excluded stop⟩ entries ∧
        (entriesIn ⟨.included start, .excluded stop⟩ entries ≠ [] → limited ≠ []) := by
  refine ⟨fun range typed => tryGetLogEntries_iff empty distinct fits typed, ?_⟩
  intro size start stop
  have read : (db.append entries).tryGetLogEntries ⟨.included start, .excluded stop⟩ =
      .ok (entriesIn ⟨.included start, .excluded stop⟩ entries) :=
    tryGetLogEntries_append empty distinct ⟨.included start, .excluded stop⟩
  obtain ⟨taken, start', limits, nonempty⟩ :=
    @limitEntries_initial size (entriesIn ⟨.included start, .excluded stop⟩ entries) [] 0
  refine ⟨taken, ?_, start', nonempty rfl⟩
  rw [limitedGetLogEntries, read]
  dsimp only
  rw [limits, List.nil_append]

def hydrationEntries : List GroupEntry :=
  [⟨⟨1, 1, 2⟩, .normal (.publishMany ⟨[samplePublish sampleCluster 1 (some ⟨"mark"⟩),
      samplePublish sampleCluster 2 none], by decide, by decide, by decide, by decide⟩)⟩,
    ⟨⟨1, 1, 1⟩, .normal (.publish (samplePublish sampleCluster 0 none))⟩]

theorem log_hydration_sample :
    ((create ⟨storageFormatVersion, sampleCluster, dataGroupId, .data⟩ 2).append
        hydrationEntries).tryGetLogEntries ⟨.excluded 0, .unbounded⟩ =
      .ok (entriesIn ⟨.excluded 0, .unbounded⟩ hydrationEntries) := by
  refine ((log_hydration (fun _ => rfl) (by simp [Distinct, hydrationEntries])
    (by decide)).1 ⟨.excluded 0, .unbounded⟩
    ⟨Nat.zero_le _, trivial⟩).mpr ?_
  rintro ⟨starts, _⟩
  revert starts
  decide

/-- The range behind the last index has no index, and still the entry with the last index is
read. -/
theorem last_index_overread :
    ((create ⟨storageFormatVersion, sampleCluster, dataGroupId, .data⟩ 2).append
        [⟨⟨1, 1, u64Max⟩, .blank⟩]).tryGetLogEntries ⟨.excluded u64Max, .unbounded⟩ =
      .ok [⟨⟨1, 1, u64Max⟩, .blank⟩] ∧
    entriesIn ⟨.excluded u64Max, .unbounded⟩ [⟨⟨1, 1, u64Max⟩, .blank⟩] = [] := by
  rw [tryGetLogEntries_append (fun _ => rfl) (by simp [Distinct])]
  constructor
  · simp [inOrder, rangeStart, rangeEnd, saturatingAdd]
  · simp [entriesIn, inOrder, IndexRange.contains]

end GroupDb

end LightStream
