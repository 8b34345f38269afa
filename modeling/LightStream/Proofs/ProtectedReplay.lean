import LightStream.Proofs.Fetch
import LightStream.Proofs.LeaseMoves
import LightStream.Proofs.Rejection

/-!
A protected replay delivers its range.  A client reads a lease page by page while publishes,
retention and other leases go on: every page continues the one before, and the pages end at the end
of the range.
-/

namespace LightStream

namespace GroupView

theorem startWrites_bootstrap {view : GroupView} {spec : BootstrapSpec}
    (fresh : view.get .bootstrap = none ∨ view.get .bootstrap = some spec) :
    (view.after (view.startWrites spec)).get .bootstrap = some spec := by
  rw [startWrites, after_append]
  refine (@after_get_of_within _ [.fence] _ ?_ _ (by simp [StateKey.family])).trans ?_
  · split
    · simp [StateKey.family]
    · exact within_nil _
  · rcases fresh with absent | stored
    · rw [absent]
      simp [after, Kv.pending, Kv.Op.effect]
    · rw [stored]
      exact stored

end GroupView

namespace GroupDb

variable {db next : GroupDb} {entry : GroupEntry} {result : ApplyResult}
  {identity : GroupIdentity} {window : Nat} {content : PayloadId → Record}
  {Allowed : GroupDb → GroupEntry → Prop} {steps : List Step} {partition : PartitionKey}
  {rest : StateKey → Kv.Bytes} {id : ReplayLeaseId}

/-! ### The bootstrap -/

theorem applyEntry_bootstrap (data : db.identity.kind = .data)
    (done : db.applyEntry entry = .ok (result, next)) :
    next.get .bootstrap = db.get .bootstrap ∨
      db.get .bootstrap = none ∧ ∃ spec, next.get .bootstrap = some spec ∧
        spec.cluster = db.identity.clusterId := by
  cases applyEntry_case done with
  | quiet silent noop same => exact .inl (same .bootstrap (by simp [StateKey.family]))
  | fenced command held normal included isHeld answer replayed answered same =>
      exact .inl (same .bootstrap (by simp [StateKey.family]))
  | dispatched command write normal free done reads =>
      rw [reads .bootstrap (by simp [StateKey.family])]
      have quiet (outside : StateFamily.bootstrap ∉ command.families) :
          (db.view.after write.state).get .bootstrap = db.get .bootstrap :=
        GroupView.after_get_of_within (GroupView.dispatch_within command result write done) outside
      cases command with
      | bootstrapData spec =>
          have done : db.view.applyBootstrap spec .data = .ok (result, write) := done
          by_cases accepted : result.isRejected = true
          · have none := GroupView.applyBootstrap_quiet spec .data result write done accepted
            rw [none]
            exact .inl rfl
          obtain ⟨kind, cluster, fresh⟩ := GroupView.applyBootstrap_ok done (by simpa using accepted)
          rw [GroupView.applyBootstrap_accepts kind cluster fresh] at done
          cases done
          have written := GroupView.startWrites_bootstrap fresh
          rcases fresh with absent | stored
          · exact .inr ⟨absent, spec, written, cluster⟩
          · exact .inl (written.trans stored.symm)
      | bootstrapControl spec topology security dataGroups maxStreams maxPartitions =>
          have done : db.view.applyBootstrapControl spec topology security dataGroups maxStreams
            maxPartitions = .ok (result, write) := done
          have foreign : db.view.identity.kind ≠ .control := by
            rw [show db.view.identity.kind = .data from data]
            simp
          unfold GroupView.applyBootstrapControl GroupView.applyBootstrap at done
          rw [if_pos foreign] at done
          split at done
          · cases done
            exact .inl rfl
          · split at done <;> cases done <;> exact .inl rfl
      | exportProtocol command =>
          cases command <;> exact .inl (quiet (by simp [GroupCommand.families]))
      | publish | publishMany =>
          exact .inl (quiet (show StateFamily.bootstrap ∉ GroupView.publishAllFamilies by decide))
      | admitReplayLease | renewReplayLease | releaseReplayLease =>
          exact .inl (quiet (show StateFamily.bootstrap ∉ GroupView.leaseFamilies by decide))
      | maintainRetention =>
          exact .inl (quiet (show StateFamily.bootstrap ∉ GroupView.maintainFamilies by decide))
      | _ => exact .inl (quiet (by simp [GroupCommand.families]))

theorem publications_bootstrapped (published : db.publications entry ≠ []) :
    (db.get .bootstrap).isSome = true := by
  cases stored : db.get .bootstrap with
  | some spec => rfl
  | none =>
      refine absurd ?_ published
      unfold publications
      rw [stored]
      split
      · split
        · rename_i missing _
          simp at missing
        · rfl
      · rfl

theorem Traced.bootstrapped (data : identity.kind = .data)
    (traced : Traced identity window content Allowed steps db) :
    (∀ spec, db.get .bootstrap = some spec → spec.cluster = identity.clusterId) ∧
      (publishedIn steps ≠ [] → (db.get .bootstrap).isSome = true) := by
  refine @Traced.invariant identity window content Allowed steps db
    (fun steps get => (∀ spec, get .bootstrap = some spec → spec.cluster = identity.clusterId) ∧
      (publishedIn steps ≠ [] → (get .bootstrap).isSome = true)) ?_ ?_ traced
  · exact ⟨fun spec stored => by simp at stored, fun published => absurd rfl published⟩
  · intro steps db next entry result traced held due allowed done
    obtain ⟨named, present⟩ := held
    have identified := traced.ran.settings.1
    have kind : db.identity.kind = .data := by rw [identified, data]
    have before (published : publishedIn (steps ++ [⟨db, entry, result, next⟩]) ≠ []) :
        (db.get .bootstrap).isSome = true := by
      rw [publishedIn, List.flatMap_append, List.flatMap_singleton] at published
      by_cases earlier : publishedIn steps = []
      · exact publications_bootstrapped fun none => published (by
          rw [show steps.flatMap _ = [] from earlier, none]
          rfl)
      · exact present earlier
    rcases applyEntry_bootstrap kind done with kept | ⟨absent, spec, stored, cluster⟩
    · rw [kept]
      exact ⟨named, before⟩
    · constructor
      · intro other found
        rw [stored] at found
        cases found
        rw [cluster, identified]
      · intro _
        rw [stored]
        rfl

/-! ### The lease -/

theorem Ran.lease_kept {history : List GroupEntry} {lease : ReplayLease}
    (ran : Ran identity window content Allowed history db)
    (done : db.applyEntry entry = .ok (result, next))
    (stored : db.get (.leaseId id) = some lease) :
    ∃ later, next.get (.leaseId id) = some later ∧ later.request = lease.request := by
  have quiet (same : next.get (.leaseId id) = db.get (.leaseId id)) :
      ∃ later, next.get (.leaseId id) = some later ∧ later.request = lease.request :=
    ⟨lease, same.trans stored, rfl⟩
  cases applyEntry_case done with
  | quiet silent noop same => exact quiet (same _ (by simp [StateKey.family]))
  | fenced command held normal included isHeld answer replayed answered same =>
      exact quiet (same _ (by simp [StateKey.family]))
  | dispatched command write normal free done reads =>
      have named := ran.leasesNamed
      obtain ⟨later, reached, move⟩ :=
        (GroupView.dispatch_leasesMove named.listed named.requested done).moved id lease stored
      refine ⟨later, ?_, move.request⟩
      rw [reads _ (by simp [StateKey.family])]
      exact reached

theorem publishedAt_later {published more : List Publication} {offset : Nat} {record : Record}
    (at' : PublishedAt published partition offset record) :
    PublishedAt (published ++ more) partition offset record := by
  obtain ⟨publication, member, own⟩ := at'
  exact ⟨publication, List.mem_append_left _ member, own⟩

/-! ### One page -/

theorem fetchProtectedLoop_range {limit stop : Nat} {others : List StateKey}
    (first : ∀ key ∈ others.head?,
      (recordPrefix partition).isPrefixOf (key.stored rest) = false ∨
        ∃ place, key = .record partition place ∧ stop ≤ place ∧ place ≤ u64Max ∧
          (db.get (.record partition place)).isSome = true)
    {offsets : List Nat}
    (stored : ∀ offset ∈ offsets, offset < stop ∧ offset ≤ u64Max ∧ ∃ record : StoredRecord,
      db.get (.record partition offset) = some record ∧
        (db.payload.get (.bytes record.payloadKey)).isSome = true) :
    ∀ (records : List CommittedRecord) (bytes : Nat),
      db.fetchProtectedLoop rest (recordPrefix partition) limit stop
          (offsets.map (.record partition) ++ others) records bytes =
        db.fetchLoop rest (recordPrefix partition) limit (offsets.map (.record partition)) records
          bytes := by
  induction offsets with
  | nil =>
      intro records bytes
      rw [List.map_nil, List.nil_append, fetchLoop]
      cases others with
      | nil => rfl
      | cons key later =>
          rw [fetchProtectedLoop]
          rcases first key rfl with outside | ⟨place, rfl, behind, fits, _⟩
          · rw [if_pos (.inl outside)]
          · split
            · rfl
            · dsimp only
              rw [recordKey_offset fits, if_pos behind]
  | cons offset later ih =>
      intro records bytes
      obtain ⟨below, fits, record, found, payload⟩ := stored offset (List.mem_cons_self ..)
      obtain ⟨body, payload⟩ := Option.isSome_iff_exists.mp payload
      have decoded : db.decodeRecord (.record partition offset) = some record := found
      rw [List.map_cons, List.cons_append, fetchProtectedLoop, fetchLoop]
      split
      · rfl
      · dsimp only
        rw [recordKey_offset fits, if_neg (by omega), decoded]
        dsimp only
        rw [payload]
        dsimp only
        split
        · rfl
        · exact ih (fun other member => stored other (List.mem_cons_of_mem _ member)) _ _

/-- What a state must have for a page of a lease: the group is asked under its cluster, and the
stored lease is effectively active. -/
structure LeaseReadable (db : GroupDb) (cluster : ClusterId) (partition : PartitionKey)
    (id : ReplayLeaseId) (limit : Nat) (lease : ReplayLease) : Prop where
  limited : 1 ≤ limit ∧ limit ≤ maxFetchRecords
  located : cluster = db.identity.clusterId
  stored : db.get (.leaseId id) = some lease
  asked : lease.request.cluster = cluster
  own : lease.range.partition = partition
  active : ∃ clock, db.get .leaseClock = some clock ∧ leaseIsEffectivelyActive lease clock = true

theorem fetchProtected_ok {cluster : ClusterId} {offset limit : Nat} {page : FetchPage}
    (done : db.fetchProtected rest cluster partition id offset limit = .ok page) :
    ∃ lease, db.LeaseReadable cluster partition id limit lease ∧ lease.range.start ≤ offset ∧
      offset ≤ lease.range.stop := by
  unfold fetchProtected at done
  split at done
  · simp at done
  rename_i limited
  split at done
  · simp at done
  split at done
  · simp at done
  rename_i located
  split at done
  · simp at done
  rename_i lease stored
  split at done
  · simp at done
  rename_i own
  split at done
  · simp at done
  rename_i clock clocked
  split at done
  · rename_i active
    simp only [not_or, ne_eq, not_not] at located own
    refine ⟨lease, ⟨⟨by omega, by omega⟩, located.1, stored, own.1, own.2, clock, clocked, active⟩, ?_⟩
    have ordered := lease.range.ordered
    split at done
    · omega
    split at done
    · rename_i inside
      rw [ReplayRange.contains_iff] at inside
      omega
    · simp at done
  · simp at done

variable {lease : ReplayLease} {cluster : ClusterId} {offset limit : Nat}

theorem Traced.protected_page (data : identity.kind = .data)
    (traced : Traced identity window content (fun _ entry => entry.Sized) steps db)
    (sized : partition.Sized) (readable : db.LeaseReadable cluster partition id limit lease)
    (low : lease.range.start ≤ offset) (high : offset ≤ lease.range.stop) :
    ∃ page, db.fetchProtected rest cluster partition id offset limit = .ok page ∧
      page.records.map CommittedRecord.offset = List.range' offset page.records.length ∧
      page.nextOffset = offset + page.records.length ∧ page.nextOffset ≤ lease.range.stop ∧
      (offset < lease.range.stop → page.records ≠ []) ∧
      ∀ record ∈ page.records,
        PublishedAt (publishedIn steps) partition record.offset record.payload := by
  have guarded := traced.ran.guarded data
  have bounded := guarded.records.bounded
  obtain ⟨limited, located, stored, asked, rfl, clock, clocked, active⟩ := readable
  have leased (place : Nat) (from' : offset ≤ place) (below : place < lease.range.stop) :
      (db.get (.record lease.range.partition place)).isSome = true := by
    have lifecycle : lease.lifecycle = .active := by
      simp only [leaseIsEffectivelyActive, Bool.and_eq_true, decide_eq_true_eq] at active
      exact active.1.1
    exact guarded.records.leased _ place ⟨id, lease, stored, lifecycle, rfl,
      ReplayRange.contains_iff.mpr ⟨by omega, below⟩⟩
  obtain ⟨named, present⟩ := traced.bootstrapped data
  have indexed := traced.indexed data
  have reached := (indexed.leased id lease stored).1
  have ordered := lease.range.ordered
  obtain ⟨spec, bootstrapped⟩ := Option.isSome_iff_exists.mp (present (by
    intro none
    have counted := indexed.counted lease.range.partition
    rw [none] at counted
    have empty : (recordsTo [] lease.range.partition).length = 0 := rfl
    omega))
  have clusters : ¬(cluster ≠ db.identity.clusterId ∨ cluster ≠ spec.cluster) := by
    rw [not_or, not_not, not_not, named spec bootstrapped, located, traced.ran.settings.1]
    exact ⟨rfl, rfl⟩
  by_cases ended : offset = lease.range.stop
  · refine ⟨⟨lease.range.partition, [], offset⟩, ?_, rfl, rfl, high, ?_, by simp⟩
    · unfold fetchProtected
      rw [if_neg (by omega), bootstrapped]
      dsimp only
      rw [if_neg clusters, stored]
      dsimp only
      rw [if_neg (by simp [asked]), clocked]
      dsimp only
      rw [if_pos active, if_pos ended]
    · omega
  let records := recordsTo (publishedIn steps) lease.range.partition
  have below := bounded lease.range.partition
  obtain ⟨others, iterated, first⟩ := @iterate_range db lease.range.partition rest
    (traced.records_sized data)
    (fun place present => (traced.record_body data present).1) sized offset lease.range.stop
    (by omega) leased
  have held : ∀ place ∈ List.range' offset (lease.range.stop - offset),
      place < lease.range.stop ∧ place ≤ u64Max ∧ ∃ record : StoredRecord,
        db.get (.record lease.range.partition place) = some record ∧
          db.payload.get (.bytes record.payloadKey) = some (records[place]?.getD []) := by
    intro place inside
    rw [List.mem_range'_1] at inside
    obtain ⟨within, record, body, found, payload, at', _⟩ :=
      traced.record_body data (leased place inside.1 (by omega))
    refine ⟨by omega, within, record, found, ?_⟩
    rw [payload, show records[place]? = some body from at']
    rfl
  obtain ⟨taken, run, most, nonempty, looped⟩ := @fetchLoop_run db lease.range.partition rest
    (fun place => records[place]?.getD []) limit [] (by simp) _
    (fun place inside => (held place inside).2) [] 0 (Nat.zero_le _)
  rw [List.nil_append, List.append_nil, ← fetchProtectedLoop_range first fun place inside => by
    obtain ⟨before, within, record, found, payload⟩ := held place inside
    exact ⟨before, within, record, found, by rw [payload]; rfl⟩, ← iterated] at looped
  have length := run.length_le
  rw [List.length_range'] at length
  have prefixed := List.prefix_iff_eq_take.mp run
  rw [List.take_range'_of_length_ge length] at prefixed
  generalize taken.length = count at prefixed length most
  subst prefixed
  refine ⟨⟨lease.range.partition, (List.range' offset count).map fun place =>
    ⟨place, records[place]?.getD []⟩, offset + count⟩, ?_, ?_, ?_, ?_, ?_, ?_⟩
  · unfold fetchProtected
    rw [if_neg (by omega), bootstrapped]
    dsimp only
    rw [if_neg clusters, stored]
    dsimp only
    rw [if_neg (by simp [asked]), clocked]
    dsimp only
    rw [if_pos active, if_neg ended,
      if_pos (ReplayRange.contains_iff.mpr ⟨low, by omega⟩), looped]
    dsimp only
    rw [pageNext]
  · simp [List.map_map, Function.comp_def]
  · simp
  · show offset + count ≤ lease.range.stop
    omega
  · intro behind none
    rw [List.map_eq_nil_iff] at none
    refine nonempty rfl (by omega) ?_ none
    rw [ne_eq, List.range'_eq_nil_iff]
    omega
  · intro record member
    obtain ⟨place, inside, rfl⟩ := List.mem_map.mp member
    rw [List.mem_range'_1] at inside
    obtain ⟨_, _, body, _, _, at', published⟩ :=
      traced.record_body data (leased place inside.1 (by omega))
    dsimp only
    rwa [show records[place]? = some body from at', Option.getD_some]

/-! ### The whole replay -/

/-- A client that reads a lease from its start while the group goes on: the state it meets, the
offset it asks for next, the records it has and the number of its calls. -/
inductive Scan (identity : GroupIdentity) (window : Nat) (content : PayloadId → Record)
    (rest : StateKey → Kv.Bytes) (cluster : ClusterId) (id : ReplayLeaseId) (range : ReplayRange) :
    List Step → GroupDb → Nat → List CommittedRecord → Nat → Prop
  | begun {steps : List Step} {db : GroupDb} {lease : ReplayLease}
      (traced : Traced identity window content (fun _ entry => entry.Sized) steps db)
      (stored : db.get (.leaseId id) = some lease) (ranged : lease.range = range) :
      Scan identity window content rest cluster id range steps db range.start [] 0
  | settled {steps : List Step} {db next : GroupDb} {offset calls : Nat}
      {records : List CommittedRecord}
      (scan : Scan identity window content rest cluster id range steps db offset records calls)
      -- The log moves, or a snapshot of the same state is built or installed.
      (traced : Traced identity window content (fun _ entry => entry.Sized) steps next)
      (same : next.get = db.get) :
      Scan identity window content rest cluster id range steps next offset records calls
  | applied {steps : List Step} {db next : GroupDb} {offset calls : Nat}
      {records : List CommittedRecord} {entry : GroupEntry} {result : ApplyResult}
      (scan : Scan identity window content rest cluster id range steps db offset records calls)
      (due : Due content db entry) (sized : entry.Sized)
      (done : db.applyEntry entry = .ok (result, next)) :
      Scan identity window content rest cluster id range (steps ++ [⟨db, entry, result, next⟩]) next
        offset records calls
  | fetched {steps : List Step} {db : GroupDb} {offset calls limit : Nat}
      {records : List CommittedRecord} {page : FetchPage}
      (scan : Scan identity window content rest cluster id range steps db offset records calls)
      (done : db.fetchProtected rest cluster range.partition id offset limit = .ok page) :
      Scan identity window content rest cluster id range steps db page.nextOffset
        (records ++ page.records) (calls + 1)

variable {range : ReplayRange} {records : List CommittedRecord} {calls : Nat}

/-- What a scan has got: the range from its start up to the offset it asks for next. -/
structure ScanDelivers (published : List Publication) (range : ReplayRange) (offset calls : Nat)
    (records : List CommittedRecord) : Prop where
  low : range.start ≤ offset
  high : offset ≤ range.stop
  offsets : records.map CommittedRecord.offset = List.range' range.start (offset - range.start)
  bodies : ∀ record ∈ records,
    PublishedAt published range.partition record.offset record.payload
  progress : min (range.start + calls) range.stop ≤ offset

theorem ScanDelivers.page {published : List Publication} {page : FetchPage}
    (delivers : ScanDelivers published range offset calls records)
    (offsets : page.records.map CommittedRecord.offset = List.range' offset page.records.length)
    (next : page.nextOffset = offset + page.records.length)
    (within : page.nextOffset ≤ range.stop)
    (nonempty : offset < range.stop → page.records ≠ [])
    (bodies : ∀ record ∈ page.records,
      PublishedAt published range.partition record.offset record.payload) :
    ScanDelivers published range page.nextOffset (calls + 1) (records ++ page.records) := by
  have low := delivers.low
  have high := delivers.high
  have progress := delivers.progress
  refine ⟨by omega, within, ?_, ?_, ?_⟩
  · have joined := @List.range'_append_1 range.start (offset - range.start) page.records.length
    rw [show range.start + (offset - range.start) = offset by omega] at joined
    rw [List.map_append, delivers.offsets, offsets, joined, next]
    congr 1
    omega
  · intro record member
    rcases List.mem_append.mp member with earlier | read
    · exact delivers.bodies record earlier
    · exact bodies record read
  · by_cases behind : offset < range.stop
    · have some := List.length_pos_iff.mpr (nonempty behind)
      omega
    · omega

theorem Traced.lease_sized (data : identity.kind = .data)
    (traced : Traced identity window content (fun _ entry => entry.Sized) steps db)
    (stored : db.get (.leaseId id) = some lease) : lease.range.partition.Sized := by
  have indexed := traced.indexed data
  have reached := (indexed.leased id lease stored).1
  have counted := indexed.counted lease.range.partition
  have ordered := lease.range.ordered
  obtain ⟨record, member⟩ := List.exists_mem_of_length_pos
    (show 0 < (recordsTo (publishedIn steps) lease.range.partition).length by omega)
  obtain ⟨publication, inside, _⟩ := List.mem_flatMap.mp member
  obtain ⟨published, own⟩ := List.mem_filter.mp inside
  have same : publication.range.partition = lease.range.partition := by simpa using own
  rw [← same]
  exact traced.publishedIn_sized publication published

theorem Scan.delivers (data : identity.kind = .data)
    (scan : Scan identity window content rest cluster id range steps db offset records calls) :
    Traced identity window content (fun _ entry => entry.Sized) steps db ∧
      (∃ lease, db.get (.leaseId id) = some lease ∧ lease.range = range) ∧
      ScanDelivers (publishedIn steps) range offset calls records := by
  induction scan with
  | begun traced stored ranged =>
      have ordered := range.ordered
      refine ⟨traced, ⟨_, stored, ranged⟩, le_rfl, by omega, ?_, by simp, by omega⟩
      rw [Nat.sub_self]
      rfl
  | settled scan traced same ih =>
      obtain ⟨_, ⟨lease, stored, ranged⟩, delivers⟩ := ih
      exact ⟨traced, ⟨lease, by rw [same, stored], ranged⟩, delivers⟩
  | applied scan due sized done ih =>
      obtain ⟨traced, ⟨lease, stored, ranged⟩, delivers⟩ := ih
      obtain ⟨later, reached, request⟩ := traced.ran.lease_kept done stored
      refine ⟨traced.applied due sized done, ⟨later, reached, ?_⟩, ?_⟩
      · rw [ReplayLease.range, request]
        exact ranged
      · refine ⟨delivers.low, delivers.high, delivers.offsets, fun record member => ?_,
          delivers.progress⟩
        rw [publishedIn, List.flatMap_append]
        exact publishedAt_later (delivers.bodies record member)
  | fetched scan done ih =>
      obtain ⟨traced, ⟨lease, stored, rfl⟩, delivers⟩ := ih
      obtain ⟨other, readable, low, high⟩ := fetchProtected_ok done
      obtain rfl : lease = other := Option.some.inj (stored.symm.trans readable.stored)
      obtain ⟨page, read, offsets, next, within, nonempty, bodies⟩ :=
        traced.protected_page data (traced.lease_sized data stored) readable low high
      cases done.symm.trans read
      exact ⟨traced, ⟨lease, stored, rfl⟩, delivers.page offsets next within nonempty bodies⟩

/-- A protected replay delivers its range.  Whatever entries were applied between the calls, what
was read so far is the range from its start up to the next offset, each offset once and with the
bytes published there; as many calls as the range is long have read it to its end.  In every state
in which the lease is effectively active the next call succeeds, moves on below the end of the
range, and neither reads nor moves past the end. -/
theorem protected_replay_delivers (data : identity.kind = .data)
    (scan : Scan identity window content rest cluster id range steps db offset records calls) :
    records.map CommittedRecord.offset = List.range' range.start (offset - range.start) ∧
    (∀ record ∈ records, record.offset < range.stop ∧
      PublishedAt (publishedIn steps) range.partition record.offset record.payload) ∧
    range.start ≤ offset ∧ offset ≤ range.stop ∧
    (range.stop ≤ range.start + calls → offset = range.stop) ∧
    ∀ (lease : ReplayLease) (limit : Nat),
      db.LeaseReadable cluster range.partition id limit lease →
      ∃ page, db.fetchProtected rest cluster range.partition id offset limit = .ok page ∧
        page.nextOffset ≤ range.stop ∧ (offset < range.stop → offset < page.nextOffset) ∧
        (offset = range.stop → page.records = [] ∧ page.nextOffset = range.stop) := by
  obtain ⟨traced, ⟨lease, stored, rfl⟩, delivers⟩ := scan.delivers data
  have low := delivers.low
  have high := delivers.high
  have progress := delivers.progress
  refine ⟨delivers.offsets, fun record member => ⟨?_, delivers.bodies record member⟩, low, high,
    by omega, ?_⟩
  · have inside := @List.mem_map_of_mem _ _ _ _ CommittedRecord.offset member
    rw [delivers.offsets, List.mem_range'_1] at inside
    omega
  · intro other limit readable
    obtain rfl : lease = other := Option.some.inj (stored.symm.trans readable.stored)
    obtain ⟨page, read, offsets, next, within, nonempty, _⟩ :=
      traced.protected_page data (traced.lease_sized data stored) readable low high
    refine ⟨page, read, within, fun behind => ?_, fun ended => ?_⟩
    · have some := List.length_pos_iff.mpr (nonempty behind)
      omega
    · exact ⟨List.eq_nil_of_length_eq_zero (by omega), by omega⟩

def sampleRange : ReplayRange := ⟨samplePartition, 0, 1, Nat.one_pos⟩

/-- The sample reads its lease after the floor has moved past it and the record behind it is
reclaimed. -/
theorem protected_replay_delivers_sample : ∃ steps db, steps.map Step.entry = replayEntries ∧
    (db.view.retentionOf samplePartition).logicalFloor = 2 ∧
    db.get (.record samplePartition 1) = none ∧
    ∀ rest, ∃ records, Scan freshData.identity 2 (fun _ => [7]) rest sampleCluster
      (.derived (sampleRequest 0)) sampleRange steps db 1 records 1 ∧
      records.map CommittedRecord.offset = [0] := by
  have reclaimed : freshData.leaves ([] ++ replayEntries) (fun db =>
      decide ((db.view.retentionOf samplePartition).logicalFloor = 2 ∧
        db.get (.record samplePartition 1) = none) &&
      (db.get (.leaseId (.derived (sampleRequest 0)))).any fun lease =>
        (db.get .leaseClock).any fun clock =>
          decide (lease.request.cluster = sampleCluster ∧ lease.range = sampleRange) &&
            leaseIsEffectivelyActive lease clock) = true := by decide
  obtain ⟨results, db, submitted, reclaimed⟩ := leaves_iff.mp reclaimed
  simp only [Bool.and_eq_true, decide_eq_true_eq, Option.any_eq_true] at reclaimed
  obtain ⟨⟨floor, absent⟩, lease, stored, clock, clocked, ⟨asked, ranged⟩, active⟩ := reclaimed
  have ran : Ran freshData.identity 2 (fun _ => [7]) (fun _ entry => entry.Sized)
      ([] ++ replayEntries) db := by
    refine Ran.submitAll .created (create_usedBelow _ _) (by decide) (by decide) ?_ submitted
    intro entry member _
    simp only [replayEntries, List.mem_cons, List.not_mem_nil, or_false] at member
    rcases member with rfl | rfl | rfl | rfl | rfl | rfl
    · trivial
    · exact ⟨by decide, by decide⟩
    · exact ⟨by decide, by decide⟩
    · trivial
    · trivial
    · trivial
  obtain ⟨steps, same, traced⟩ := ran.traced
  refine ⟨steps, db, same, floor, absent, fun rest => ?_⟩
  have begun : Scan freshData.identity 2 (fun _ => [7]) rest sampleCluster
      (.derived (sampleRequest 0)) sampleRange steps db 0 [] 0 := .begun traced stored ranged
  have located : sampleCluster = db.identity.clusterId := by
    rw [ran.settings.1]
    rfl
  obtain ⟨page, read, _⟩ := (protected_replay_delivers rfl begun).2.2.2.2.2 lease 8
    ⟨by decide, located, stored, asked, by rw [ranged], clock, clocked, active⟩
  have fetched := begun.fetched read
  obtain ⟨offsets, _, _, _, ended, _⟩ := protected_replay_delivers rfl fetched
  have next : page.nextOffset = 1 := ended (by decide)
  rw [next] at fetched offsets
  exact ⟨[] ++ page.records, fetched, offsets⟩

end GroupDb

end LightStream
