import LightStream.Proofs.Custody
import LightStream.Proofs.IndexRuns
import LightStream.Storage.Reader

/-!
Offsets tile, and a fetch reads them back: what a run published to a partition lies without gaps
from offset zero to the tail, and a fetch at or above the floor returns a run of it.
-/

namespace LightStream

def PartitionKey.Sized (partition : PartitionKey) : Prop :=
  partition.stream.uuid < 256 ^ 16 ∧ partition.partition < 256 ^ 4

def GroupEntry.Sized (entry : GroupEntry) : Prop :=
  match entry.payload with
  | .normal (.publish batch) => batch.partition.Sized
  | .normal (.publishMany batch) => ∀ request ∈ batch.requests, request.partition.Sized
  | _ => True

section Keys

variable {partition other : PartitionKey} {offset : Nat} {rest : StateKey → Kv.Bytes}

theorem stored_record {key : StateKey} (under : ascii "record/" <+: key.stored rest) :
    ∃ partition offset, key = .record partition offset := by
  cases key with
  | record partition offset => exact ⟨partition, offset, rfl⟩
  | _ => simp [StateKey.stored, StateKey.label, ascii] at under

theorem recordPrefix_partition (sized : partition.Sized) (otherSized : other.Sized)
    (under : recordPrefix partition <+: recordKey other offset) : other = partition := by
  have lengths : (recordPrefix partition).length = (recordPrefix other).length := by
    simp only [recordPrefix, List.length_append, Kv.bigEndian_length]
  have same : recordPrefix partition = recordPrefix other :=
    List.prefix_of_prefix_length_le under (List.prefix_append ..) (le_of_eq lengths) |>.eq_of_length
      lengths
  rw [recordPrefix, recordPrefix, List.append_assoc, List.append_assoc, List.append_cancel_left_eq]
    at same
  obtain ⟨streams, partitions⟩ := List.append_inj same (by simp only [Kv.bigEndian_length])
  have stream := Kv.bigEndian_inj sized.1 otherSized.1 streams
  have number := Kv.bigEndian_inj sized.2 otherSized.2 partitions
  obtain ⟨⟨uuid⟩, partition⟩ := partition
  obtain ⟨⟨otherUuid⟩, otherPartition⟩ := other
  simp only at stream number
  subst stream number
  rfl

theorem recordKey_le_iff {first second : Nat} (firstFits : first ≤ u64Max)
    (secondFits : second ≤ u64Max) :
    recordKey partition first ≤ recordKey partition second ↔ first ≤ second := by
  have width : (256 : Nat) ^ 8 = u64Max + 1 := by decide
  have order := Kv.bigEndian_lt_iff 8 second first
  rw [Nat.mod_eq_of_lt (by omega), Nat.mod_eq_of_lt (by omega)] at order
  rw [← not_lt, ← not_lt, recordKey, recordKey, not_iff_not, ← order]
  exact Kv.prefix_lt_iff _ _ _

theorem recordKey_offset (fits : offset ≤ u64Max) :
    Kv.fromBigEndian (((StateKey.record partition offset).stored rest).drop
      (((StateKey.record partition offset).stored rest).length - 8)) = offset := by
  have width : (256 : Nat) ^ 8 = u64Max + 1 := by decide
  have length : ((StateKey.record partition offset).stored rest).length - 8 =
      (recordPrefix partition).length := by
    rw [StateKey.stored, recordKey, List.length_append, Kv.bigEndian_length,
      Nat.add_sub_cancel]
  rw [length, StateKey.stored, recordKey, List.drop_left, Kv.fromBigEndian_bigEndian,
    Nat.mod_eq_of_lt (by omega)]

end Keys

namespace GroupDb

variable {db : GroupDb} {content : PayloadId → Record} {partition : PartitionKey}
  {rest : StateKey → Kv.Bytes}

theorem iterated_record
    (sizes : ∀ other offset, (db.get (.record other offset)).isSome = true → other.Sized)
    (bounded : ∀ place, (db.get (.record partition place)).isSome = true → place ≤ u64Max)
    (sized : partition.Sized) {offset : Nat} (fits : offset ≤ u64Max) {key : StateKey}
    (member : key ∈ db.state.iterate (StateKey.stored rest) (recordKey partition offset))
    (headed : (recordPrefix partition).isPrefixOf (key.stored rest) = true) :
    ∃ place, key = .record partition place ∧ offset ≤ place ∧ place ≤ u64Max := by
  obtain ⟨present, from'⟩ := Kv.Store.mem_iterate.mp member
  rw [List.isPrefixOf_iff_prefix] at headed
  have text : ascii "record/" <+: key.stored rest := by
    refine List.IsPrefix.trans ?_ headed
    rw [recordPrefix, List.append_assoc]
    exact List.prefix_append ..
  obtain ⟨other, place, rfl⟩ := stored_record text
  obtain rfl := recordPrefix_partition sized (sizes other place present) headed
  have below := bounded place present
  exact ⟨place, rfl, (recordKey_le_iff fits below).mp from', below⟩

theorem iterate_range
    (sizes : ∀ other offset, (db.get (.record other offset)).isSome = true → other.Sized)
    (bounded : ∀ place, (db.get (.record partition place)).isSome = true → place ≤ u64Max)
    (sized : partition.Sized) {offset stop : Nat} (fits : offset ≤ u64Max)
    (present : ∀ place, offset ≤ place → place < stop →
      (db.get (.record partition place)).isSome = true) :
    ∃ others : List StateKey,
      db.state.iterate (StateKey.stored rest) (recordKey partition offset) =
        (List.range' offset (stop - offset)).map (.record partition) ++ others ∧
      ∀ key ∈ others.head?, (recordPrefix partition).isPrefixOf (key.stored rest) = false ∨
        ∃ place, key = .record partition place ∧ stop ≤ place ∧ place ≤ u64Max ∧
          (db.get (.record partition place)).isSome = true := by
  have under : recordPrefix partition <+: recordKey partition offset := List.prefix_append ..
  have sorted := @Kv.Store.iterate_sorted _ _ db.state (StateKey.stored rest)
    (recordKey partition offset)
  let keys := (List.range' offset (stop - offset)).map (StateKey.record partition)
  have inKeys (key : StateKey) : key ∈ keys ↔
      ∃ place, key = .record partition place ∧ offset ≤ place ∧ place < stop := by
    simp only [keys, List.mem_map, List.mem_range'_1]
    constructor
    · rintro ⟨place, inside, rfl⟩
      exact ⟨place, rfl, inside.1, by omega⟩
    · rintro ⟨place, rfl, low, high⟩
      exact ⟨place, ⟨low, by omega⟩, rfl⟩
  have member (key : StateKey) (inside : key ∈ keys) :
      key ∈ db.state.iterate (StateKey.stored rest) (recordKey partition offset) := by
    obtain ⟨place, rfl, low, high⟩ := (inKeys key).mp inside
    have stored := present place low high
    exact Kv.Store.mem_iterate.mpr ⟨stored, (recordKey_le_iff fits (bounded place stored)).mpr low⟩
  have start : (db.state.iterate (StateKey.stored rest) (recordKey partition offset)).takeWhile
      (fun key => decide (key ∈ keys)) = keys := by
    have filtered := @Kv.takeWhile_of_lost StateKey (fun key => decide (key ∈ keys))
      (db.state.iterate (StateKey.stored rest) (recordKey partition offset)) (by
        refine List.Pairwise.imp_of_mem ?_ sorted
        intro first second firstMember secondMember below held
        obtain ⟨place, rfl, low, high⟩ := (inKeys second).mp (decide_eq_true_eq.mp held)
        have headed : recordPrefix partition <+: first.stored rest :=
          Kv.prefix_convex under (Kv.Store.mem_iterate.mp firstMember).2 below
            (List.prefix_append ..)
        obtain ⟨earlier, rfl, from', within⟩ := iterated_record sizes bounded sized fits firstMember
          (List.isPrefixOf_iff_prefix.mpr headed)
        have before := (recordKey_le_iff within (bounded place (present place low high))).mp below
        exact decide_eq_true ((inKeys _).mpr ⟨earlier, rfl, from', by omega⟩))
    rw [filtered]
    refine List.Perm.eq_of_pairwise ?_ (sorted.filter _) (?_ : keys.Pairwise _) ?_
    · intro first second firstMember secondMember below above
      obtain ⟨place, rfl, low, high⟩ :=
        (inKeys first).mp (decide_eq_true_eq.mp (List.mem_filter.mp firstMember).2)
      obtain ⟨other, rfl, otherLow, otherHigh⟩ := (inKeys second).mp secondMember
      have placeFits := bounded place (present place low high)
      have otherFits := bounded other (present other otherLow otherHigh)
      have forward := (recordKey_le_iff placeFits otherFits).mp below
      have backward := (recordKey_le_iff otherFits placeFits).mp above
      rw [Nat.le_antisymm forward backward]
    · rw [List.pairwise_map]
      refine List.Pairwise.imp_of_mem ?_ List.pairwise_lt_range'
      intro first second firstMember secondMember below
      rw [List.mem_range'_1] at firstMember secondMember
      exact (recordKey_le_iff (bounded first (present first firstMember.1 (by omega)))
        (bounded second (present second secondMember.1 (by omega)))).mpr (Nat.le_of_lt below)
    · refine (List.perm_ext_iff_of_nodup (Kv.Store.iterate_nodup.filter _) ?_).mpr fun key => ?_
      · refine List.Nodup.map (fun first second same => ?_) List.nodup_range'
        simpa using same
      · rw [List.mem_filter, decide_eq_true_eq]
        exact ⟨fun both => both.2, fun inside => ⟨member key inside, inside⟩⟩
  refine ⟨(db.state.iterate (StateKey.stored rest) (recordKey partition offset)).dropWhile
    (fun key => decide (key ∈ keys)), ?_, ?_⟩
  · have split := @List.takeWhile_append_dropWhile StateKey (fun key => decide (key ∈ keys))
      (db.state.iterate (StateKey.stored rest) (recordKey partition offset))
    rw [start] at split
    exact split.symm
  · intro key first
    have spared := List.head?_dropWhile_not (fun key => decide (key ∈ keys))
      (db.state.iterate (StateKey.stored rest) (recordKey partition offset))
    rw [Option.mem_def.mp first] at spared
    have outside : key ∉ keys := by simpa using spared
    have inside : key ∈ db.state.iterate (StateKey.stored rest) (recordKey partition offset) :=
      (List.dropWhile_sublist _).mem (List.mem_of_mem_head? first)
    cases headed : (recordPrefix partition).isPrefixOf (key.stored rest) with
    | false => exact .inl rfl
    | true =>
        obtain ⟨place, rfl, low, within⟩ :=
          iterated_record sizes bounded sized fits inside headed
        refine .inr ⟨place, rfl, ?_, within, (Kv.Store.mem_iterate.mp inside).1⟩
        by_contra below
        exact outside ((inKeys _).mpr ⟨place, rfl, low, by omega⟩)

theorem iterate_records (guarded : db.view.Guarded)
    (sizes : ∀ other offset, (db.get (.record other offset)).isSome = true → other.Sized)
    (sized : partition.Sized) {offset : Nat}
    (above : (db.view.retentionOf partition).logicalFloor ≤ offset) (fits : offset ≤ u64Max) :
    ∃ others : List StateKey,
      db.state.iterate (StateKey.stored rest) (recordKey partition offset) =
        (List.range' offset (db.view.nextOffsetOf partition - offset)).map (.record partition) ++
          others ∧
      ∀ key ∈ others.head?, (recordPrefix partition).isPrefixOf (key.stored rest) = false := by
  have bounded := guarded.records.bounded partition
  have tail (place : Nat) (present : (db.get (.record partition place)).isSome = true) :
      place < db.view.nextOffsetOf partition := guarded.records.tail partition place present
  obtain ⟨others, iterated, stop⟩ := @iterate_range db partition rest sizes
    (fun place present => by have below := tail place present; omega) sized offset _ fits
    (fun place low high => guarded.records.retained partition place (by omega) high)
  refine ⟨others, iterated, fun key first => ?_⟩
  obtain outside | ⟨place, _, behind, _, present⟩ := stop key first
  · exact outside
  · have below := tail place present
    omega

theorem fetchLoop_run {body : Nat → Record} {limit : Nat} {others : List StateKey}
    (stop : ∀ key ∈ others.head?, (recordPrefix partition).isPrefixOf (key.stored rest) = false)
    {offsets : List Nat}
    (stored : ∀ offset ∈ offsets, offset ≤ u64Max ∧ ∃ record : StoredRecord,
      db.get (.record partition offset) = some record ∧
        db.payload.get (.bytes record.payloadKey) = some (body offset)) :
    ∀ (records : List CommittedRecord) (bytes : Nat), records.length ≤ limit →
      ∃ taken, taken <+: offsets ∧ records.length + taken.length ≤ limit ∧
        (records = [] → limit ≠ 0 → offsets ≠ [] → taken ≠ []) ∧
        db.fetchLoop rest (recordPrefix partition) limit (offsets.map (.record partition) ++ others)
          records bytes = .ok (records ++ taken.map fun offset => ⟨offset, body offset⟩) := by
  induction offsets with
  | nil =>
      intro records bytes within
      refine ⟨[], List.prefix_rfl, within, by simp, ?_⟩
      rw [List.map_nil, List.nil_append, List.map_nil, List.append_nil]
      cases others with
      | nil => rfl
      | cons key rest =>
          rw [fetchLoop, if_pos (.inl (stop key rfl))]
  | cons offset later ih =>
      intro records bytes within
      obtain ⟨fits, record, found, payload⟩ := stored offset (List.mem_cons_self ..)
      have under : (recordPrefix partition).isPrefixOf
          ((StateKey.record partition offset).stored rest) = true := by
        rw [List.isPrefixOf_iff_prefix]
        exact List.prefix_append ..
      rw [List.map_cons, List.cons_append, fetchLoop]
      by_cases full : records.length ≥ limit
      · rw [if_pos (.inr full)]
        refine ⟨[], List.nil_prefix, within, ?_, by simp⟩
        rintro rfl nonzero _
        rw [List.length_nil] at full
        omega
      rw [if_neg (by simp [under, full])]
      have decoded : db.decodeRecord (.record partition offset) = some record := found
      rw [decoded]
      dsimp only
      rw [payload]
      dsimp only
      by_cases exceeds : records ≠ [] ∧ saturatingAdd bytes (body offset).length > maxFetchBytes
      · rw [if_pos exceeds]
        exact ⟨[], List.nil_prefix, within, fun none => absurd none exceeds.1, by simp⟩
      rw [if_neg exceeds, recordKey_offset fits]
      obtain ⟨taken, start, bounded, _, done⟩ := ih
        (fun other member => stored other (List.mem_cons_of_mem _ member))
        (records ++ [⟨offset, body offset⟩]) (saturatingAdd bytes (body offset).length)
        (by rw [List.length_append, List.length_singleton]; omega)
      refine ⟨offset :: taken, List.cons_prefix_cons.mpr ⟨rfl, start⟩, ?_, by simp, ?_⟩
      · rw [List.length_append, List.length_singleton] at bounded
        rw [List.length_cons]
        omega
      · rw [done, List.map_cons, List.append_assoc, List.singleton_append]

section Sizes

variable {entry : GroupEntry} {steps : List Step} {identity : GroupIdentity} {window : Nat}

theorem mem_slottedRequests {requests : List PublishBatch} {slot : Nat}
    {request : Nat × PublishBatch} (member : request ∈ slottedRequests slot requests) :
    request.2 ∈ requests := by
  induction requests generalizing slot with
  | nil => simp [slottedRequests] at member
  | cons first rest ih =>
      rcases List.mem_cons.mp member with rfl | later
      · exact List.mem_cons_self ..
      · exact List.mem_cons_of_mem _ (ih later)

theorem publishes_sized {view : GroupView} {logId : GroupLogId} {slot : Nat} {batch : PublishBatch}
    {write : WriteBatch} {more : List Publication}
    (publishes : view.Publishes logId slot batch write more) (sized : batch.partition.Sized) :
    ∀ publication ∈ more, publication.range.partition.Sized := by
  cases publishes with
  | quiet => simp
  | appended range allocated =>
      intro publication member
      rw [List.mem_singleton.mp member, (GroupView.allocated_identity allocated).1]
      exact sized

theorem publications_sized (sized : entry.Sized) :
    ∀ publication ∈ db.publications entry, publication.range.partition.Sized := by
  obtain ⟨logId, payload⟩ := entry
  cases payload with
  | blank | membership => simp [publications]
  | normal command =>
      cases free : db.view.mutationFenceState.held with
      | some held => simp [publications, free]
      | none =>
      cases bootstrapped : db.get .bootstrap with
      | none => simp [publications, free, bootstrapped]
      | some spec =>
      cases command with
      | publish batch =>
          cases done : db.view.applyPublish logId batch with
          | error error =>
              simp [publications, free, bootstrapped, GroupCommand.publishing, occurrences, done]
          | ok applied =>
              obtain ⟨result, write⟩ := applied
              rw [publications_publish free bootstrapped done]
              exact publishes_sized (GroupView.applyPublish_publishes done) sized
      | publishMany batch =>
          simp only [publications, free, bootstrapped, GroupCommand.publishing, occurrences]
          cases traced : db.view.publishTrace logId spec.cluster batch.requests 0 0
            PublishApplyTxn.new with
          | error error => simp
          | ok trace =>
              obtain ⟨trace, last⟩ := trace
              have step (slot : Nat) (batch : PublishBatch) (first write : WriteBatch)
                  (published more : List Publication)
                  (held : ∀ publication ∈ published, publication.range.partition.Sized)
                  (own : batch.partition.Sized)
                  (publishes : (db.view.after first.state).Publishes logId slot batch write more) :
                  ∀ publication ∈ published ++ more, publication.range.partition.Sized := by
                intro publication member
                exact (List.mem_append.mp member).elim (held publication)
                  (publishes_sized publishes own publication)
              have own : ∀ request ∈ slottedRequests 0 batch.requests, request.2.partition.Sized :=
                fun request member => sized request.2 (mem_slottedRequests member)
              obtain ⟨_, reached⟩ := @GroupView.publishTrace_publishes db.view logId spec.cluster
                (fun _ _ published => ∀ publication ∈ published, publication.range.partition.Sized)
                (fun _ batch => batch.partition.Sized) step batch.requests 0 0 _ last [] trace
                PublishApplyTxn.new_sound (by simp) own traced
              exact reached
      | _ => simp [publications, GroupCommand.publishing]

theorem Traced.publishedIn_sized
    (traced : Traced identity window content (fun _ entry => entry.Sized) steps db) :
    ∀ publication ∈ publishedIn steps, publication.range.partition.Sized := by
  induction traced with
  | created => simp [publishedIn]
  | appended traced appendable ih => exact ih
  | truncated traced done ih => exact ih
  | purged traced done ih => exact ih
  | applied traced due allowed done ih =>
      intro publication member
      rw [publishedIn, List.flatMap_append, List.flatMap_singleton] at member
      exact (List.mem_append.mp member).elim (ih publication)
        (publications_sized allowed publication)
  | built traced done ih => exact ih
  | installed traced sourceTraced done install ih sourceIh => exact sourceIh

theorem Traced.records_sized (data : identity.kind = .data)
    (traced : Traced identity window content (fun _ entry => entry.Sized) steps db)
    (other : PartitionKey) (offset : Nat)
    (present : (db.get (.record other offset)).isSome = true) : other.Sized := by
  obtain ⟨stored, found⟩ := Option.isSome_iff_exists.mp present
  obtain ⟨record, at', _⟩ := (traced.indexed data).record other offset stored found
  obtain ⟨inside, _⟩ := List.getElem?_eq_some_iff.mp at'
  obtain ⟨publication, member, _⟩ := List.mem_flatMap.mp (List.getElem_mem inside)
  obtain ⟨published, own⟩ := List.mem_filter.mp member
  have same : publication.range.partition = other := by simpa using own
  rw [← same]
  exact traced.publishedIn_sized publication published

end Sizes

def PublishedAt (published : List Publication) (partition : PartitionKey) (offset : Nat)
    (record : Record) : Prop :=
  ∃ publication ∈ published, publication.range.partition = partition ∧
    publication.range.first ≤ offset ∧
    publication.records[offset - publication.range.first]? = some record

/-- A page that holds a run of the published records of a partition from an offset on. -/
structure ReadsBack (published : List Publication) (partition : PartitionKey) (offset limit tail : Nat)
    (page : FetchPage) : Prop where
  home : page.partition = partition
  contiguous : page.records.map CommittedRecord.offset = List.range' offset page.records.length
  bodies : ∀ record ∈ page.records, PublishedAt published partition record.offset record.payload
  limited : page.records.length ≤ limit
  empty : page.records = [] → tail ≤ offset
  next : page.nextOffset = offset + page.records.length

section Main

variable {identity : GroupIdentity} {window : Nat} {steps : List Step} {spec : BootstrapSpec}
  {cluster : ClusterId} {offset limit : Nat}

theorem fetch_below (limited : 1 ≤ limit ∧ limit ≤ maxFetchRecords)
    (bootstrapped : db.get .bootstrap = some spec)
    (located : cluster = db.identity.clusterId ∧ cluster = spec.cluster)
    (below : offset < (db.view.retentionOf partition).logicalFloor) :
    db.fetch rest cluster partition offset limit =
      .error (.cursorExpired offset (db.view.retentionOf partition).logicalFloor) := by
  unfold fetch
  rw [if_neg (by omega), bootstrapped]
  dsimp only
  rw [if_neg (by simp [← located.1, ← located.2]), if_pos below]

theorem pageNext (body : Nat → Record) (offset count : Nat) :
    ((((List.range' offset count).map fun place => (⟨place, body place⟩ : CommittedRecord)).getLast?.map
      fun record => record.offset + 1).getD offset) = offset + count := by
  cases count with
  | zero => rfl
  | succ count =>
      rw [List.range'_concat, List.map_append, List.map_singleton, List.getLast?_concat,
        Option.map_some, Option.getD_some]
      dsimp only
      omega

theorem publications_tile {published : List Publication} {view : GroupView}
    (indexed : GroupView.Indexed content published view) (partition : PartitionKey) :
    Kv.Tiles 0 ((publishedTo published partition).map fun publication =>
      (publication.range.first, publication.range.first + publication.records.length))
      (view.nextOffsetOf partition) := by
  have tiles := indexed.tiles partition
  have same : ((publishedTo published partition).map fun publication =>
      (publication.range.first, publication.range.first + publication.records.length)) =
        rangesTo published partition := by
    refine List.map_congr_left fun publication member => ?_
    rw [indexed.filled publication (List.mem_filter.mp member).1]
    rfl
  rwa [same]

theorem Traced.record_body {Allowed : GroupDb → GroupEntry → Prop} {place : Nat}
    (data : identity.kind = .data) (traced : Traced identity window content Allowed steps db)
    (present : (db.get (.record partition place)).isSome = true) :
    place ≤ u64Max ∧ ∃ record body, db.get (.record partition place) = some record ∧
      db.payload.get (.bytes record.payloadKey) = some body ∧
      (recordsTo (publishedIn steps) partition)[place]? = some body ∧
      PublishedAt (publishedIn steps) partition place body := by
  have indexed := traced.indexed data
  have guarded := traced.ran.guarded data
  obtain ⟨record, found⟩ := Option.isSome_iff_exists.mp present
  obtain ⟨body, at', same, _⟩ := indexed.record partition place record found
  obtain ⟨_, _, _, _, bytes⟩ := ((traced.ran.exact data).account record.payloadKey).held
    (.inr ⟨partition, place, record, found, rfl⟩)
  have below := guarded.records.tail partition place present
  have bounded := guarded.records.bounded partition
  refine ⟨by omega, record, body, found, by rw [bytes, same], at', ?_⟩
  obtain ⟨publication, published, low, held⟩ := Kv.Tiles.block
    (publications_tile indexed partition) (Nat.zero_le place) at'
  obtain ⟨published, own⟩ := List.mem_filter.mp published
  exact ⟨publication, published, by simpa using own, low, held⟩

theorem Traced.fetch_reads (data : identity.kind = .data)
    (traced : Traced identity window content (fun _ entry => entry.Sized) steps db)
    (sized : partition.Sized) (fits : offset ≤ u64Max)
    (limited : 1 ≤ limit ∧ limit ≤ maxFetchRecords)
    (bootstrapped : db.get .bootstrap = some spec)
    (located : cluster = db.identity.clusterId ∧ cluster = spec.cluster)
    (above : (db.view.retentionOf partition).logicalFloor ≤ offset) :
    ∃ page, db.fetch rest cluster partition offset limit = .ok page ∧
      ReadsBack (publishedIn steps) partition offset limit (db.view.nextOffsetOf partition) page := by
  have guarded := traced.ran.guarded data
  let records := recordsTo (publishedIn steps) partition
  obtain ⟨others, iterated, stop⟩ := @iterate_records db partition rest guarded
    (traced.records_sized data) sized offset above fits
  have stored : ∀ place ∈ List.range' offset (db.view.nextOffsetOf partition - offset),
      place ≤ u64Max ∧ ∃ record : StoredRecord, db.get (.record partition place) = some record ∧
        db.payload.get (.bytes record.payloadKey) = some (records[place]?.getD []) := by
    intro place inside
    rw [List.mem_range'_1] at inside
    obtain ⟨within, record, body, found, payload, at', _⟩ := traced.record_body data
      (guarded.records.retained partition place (by omega) (by omega))
    refine ⟨within, record, found, ?_⟩
    rw [payload, show records[place]? = some body from at']
    rfl
  obtain ⟨taken, run, most, nonempty, done⟩ := @fetchLoop_run db partition rest
    (fun place => records[place]?.getD []) limit others stop _ stored [] 0 (Nat.zero_le _)
  rw [List.nil_append, ← iterated] at done
  have length := run.length_le
  rw [List.length_range'] at length
  have prefixed := List.prefix_iff_eq_take.mp run
  rw [List.take_range'_of_length_ge length] at prefixed
  generalize taken.length = count at prefixed length most
  subst prefixed
  refine ⟨⟨partition, (List.range' offset count).map fun place =>
    ⟨place, records[place]?.getD []⟩, offset + count⟩, ?_, ?_⟩
  · unfold fetch
    rw [if_neg (by omega), bootstrapped]
    dsimp only
    rw [if_neg (by simp [← located.1, ← located.2]), if_neg (by omega), done]
    dsimp only
    rw [pageNext]
  · constructor
    · rfl
    · simp [List.map_map, Function.comp_def]
    · intro record member
      obtain ⟨place, inside, rfl⟩ := List.mem_map.mp member
      rw [List.mem_range'_1] at inside
      obtain ⟨_, _, body, _, _, at', published⟩ := traced.record_body data
        (guarded.records.retained partition place (by omega) (by omega))
      dsimp only
      rwa [show records[place]? = some body from at', Option.getD_some]
    · simpa using most
    · intro empty
      rw [List.map_eq_nil_iff] at empty
      by_contra behind
      refine nonempty rfl (by omega) ?_ empty
      rw [ne_eq, List.range'_eq_nil_iff]
      omega
    · simp

/-- The ranges of the new publishes to a partition tile the offsets from zero to its tail, in the
order of their commits.  In every reachable state a fetch at or above the floor reads back a run of
what was published there, and a fetch below the floor is refused. -/
theorem offsets_tile_and_fetch (data : identity.kind = .data)
    (traced : Traced identity window content (fun _ entry => entry.Sized) steps db)
    (partition : PartitionKey) :
    (∀ publication ∈ publishedIn steps, publication.records.length = publication.range.count) ∧
    Kv.Tiles 0 (rangesTo (publishedIn steps) partition) (db.view.nextOffsetOf partition) ∧
    (rangesTo (publishedIn steps) partition).Pairwise (fun earlier later => earlier.2 ≤ later.1) ∧
    ∀ (rest : StateKey → Kv.Bytes) (spec : BootstrapSpec) (cluster : ClusterId) (offset limit : Nat),
      partition.Sized → offset ≤ u64Max → 1 ≤ limit ∧ limit ≤ maxFetchRecords →
      db.get .bootstrap = some spec →
      cluster = db.identity.clusterId ∧ cluster = spec.cluster →
      ((db.view.retentionOf partition).logicalFloor ≤ offset →
        ∃ page, db.fetch rest cluster partition offset limit = .ok page ∧
          ReadsBack (publishedIn steps) partition offset limit (db.view.nextOffsetOf partition)
            page) ∧
      (offset < (db.view.retentionOf partition).logicalFloor →
        db.fetch rest cluster partition offset limit =
          .error (.cursorExpired offset (db.view.retentionOf partition).logicalFloor)) := by
  have indexed := traced.indexed data
  refine ⟨indexed.filled, indexed.tiles partition, (indexed.tiles partition).disjoint, ?_⟩
  intro rest spec cluster offset limit sized fits limited bootstrapped located
  constructor
  · intro above
    exact traced.fetch_reads data sized fits limited bootstrapped located above
  · intro below
    exact fetch_below limited bootstrapped located below

def publishEntries : List GroupEntry := replayEntries.take 3

/-- The sample publishes two records: a fetch at the second offset is not empty. -/
theorem offsets_tile_and_fetch_sample : ∃ steps db, steps.map Step.entry = publishEntries ∧
    Traced freshData.identity 2 (fun _ => [7]) (fun _ entry => entry.Sized) steps db ∧
    Kv.Tiles 0 (rangesTo (publishedIn steps) samplePartition) 2 ∧
    ∀ rest, ∃ page, db.fetch rest sampleCluster samplePartition 1 8 = .ok page ∧
      page.records ≠ [] ∧ page.nextOffset = 1 + page.records.length := by
  have stored : freshData.leaves ([] ++ publishEntries) (fun db =>
      decide (db.get .bootstrap = some sampleSpec ∧
          db.view.nextOffsetOf samplePartition = 2 ∧
          (db.view.retentionOf samplePartition).logicalFloor = 0 ∧
          sampleCluster = db.identity.clusterId)) = true := by decide
  obtain ⟨results, db, submitted, stored⟩ := leaves_iff.mp stored
  simp only [decide_eq_true_eq] at stored
  obtain ⟨bootstrapped, tail, floor, located⟩ := stored
  have ran : Ran freshData.identity 2 (fun _ => [7]) (fun _ entry => entry.Sized)
      ([] ++ publishEntries) db := by
    refine Ran.submitAll .created (create_usedBelow _ _) (by decide) (by decide) ?_ submitted
    intro entry member _
    simp only [publishEntries, replayEntries, List.take_succ_cons,
      List.take_zero, List.mem_cons, List.not_mem_nil, or_false] at member
    rcases member with rfl | rfl | rfl
    · trivial
    · exact ⟨by decide, by decide⟩
    · exact ⟨by decide, by decide⟩
  rw [List.nil_append] at ran
  obtain ⟨steps, entries, traced⟩ := ran.traced
  obtain ⟨_, tiles, _, reads⟩ := offsets_tile_and_fetch rfl traced samplePartition
  rw [tail] at tiles
  refine ⟨steps, db, entries, traced, tiles, ?_⟩
  intro rest
  obtain ⟨page, done, back⟩ := (reads rest sampleSpec sampleCluster 1 8
    ⟨by decide, by decide⟩ (by decide) (by decide) bootstrapped ⟨located, rfl⟩).1 (by omega)
  refine ⟨page, done, ?_, back.next⟩
  intro empty
  have behind := back.empty empty
  omega

end Main

end GroupDb

end LightStream
