import LightStream.Proofs.ExportFields
import LightStream.Export.Decode

/-!
Every section of an export, and its manifest, is decoded to what was encoded, within the budget
that the writer reserved for it.
-/

namespace LightStream.Export

open Codec (Encoder Transfers)
open Kv (TreeMap)

/-! ### Reservations -/

structure DecodeBudget.Of (limits : ExportLimits) (budget : DecodeBudget) : Prop where
  streams : budget.maxStreams = limits.maxStreams
  partitions : budget.maxPartitions = limits.maxPartitions
  records : budget.maxRecords = limits.maxRecords
  bookmarks : budget.maxBookmarks = limits.maxBookmarks
  payloadBytes : budget.maxPayloadBytes = limits.maxPayloadBytes

structure DecodeBudget.Below (budget other : DecodeBudget) : Prop where
  streams : budget.streams ≤ other.streams
  partitions : budget.partitions ≤ other.partitions
  records : budget.records ≤ other.records
  bookmarks : budget.bookmarks ≤ other.bookmarks
  payloadBytes : budget.payloadBytes ≤ other.payloadBytes

theorem reserve_ok {used amount limit next : Nat} {name : String} :
    reserve used amount limit name = .ok next ↔
      used + amount = next ∧ next ≤ limit ∧ next ≤ u64Max := by
  unfold reserve
  cases sum : checkedAdd used amount with
  | none =>
      simp only [reduceCtorEq, false_iff, not_and, not_le]
      intro total _
      unfold checkedAdd at sum
      split at sum <;> simp at sum
      omega
  | some total =>
      obtain ⟨same, small⟩ := checkedAdd_some.mp sum
      dsimp only
      split
      · simp only [reduceCtorEq, false_iff]
        omega
      · simp only [Except.ok.injEq]
        omega

structure Reserves (limits : ExportLimits)
    (step : DecodeBudget → Except VerifyError DecodeBudget) : Prop where
  keeps : ∀ {before after}, before.Of limits → step before = .ok after → after.Of limits
  lower : ∀ {before after less}, DecodeBudget.Below less before → less.Of limits →
    before.Of limits → step before = .ok after →
    ∃ lessAfter, step less = .ok lessAfter ∧ lessAfter.Below after

theorem reservation {used amount limit : Nat} {name : String} {place : Nat → DecodeBudget}
    {after : DecodeBudget} :
    (reserve used amount limit name >>= fun next => pure (place next)) = .ok after ↔
      used + amount ≤ limit ∧ used + amount ≤ u64Max ∧ place (used + amount) = after := by
  rw [Codec.except_bind_ok]
  constructor
  · rintro ⟨next, reserved, placed⟩
    obtain ⟨rfl, small, word⟩ := reserve_ok.mp reserved
    exact ⟨small, word, Except.ok.inj placed⟩
  · rintro ⟨small, word, rfl⟩
    exact ⟨_, reserve_ok.mpr ⟨rfl, small, word⟩, rfl⟩

theorem modelCount_ok {α : Type} {values : List α} {name : String} {amount : Nat} :
    modelCount values name = .ok amount ↔ amount = values.length ∧ values.length ≤ u64Max := by
  unfold modelCount
  split <;> rename_i small
  · rw [Except.ok.injEq]
    exact ⟨fun same => ⟨same.symm, small⟩, fun facts => facts.1.symm⟩
  · simp only [reduceCtorEq, false_iff]
    omega

namespace Reserves

variable {limits : ExportLimits} {first second : DecodeBudget → Except VerifyError DecodeBudget}

theorem streams (amount : Nat) : Reserves limits (DecodeBudget.reserveStreams amount) where
  keeps := by
    intro before after within reserved
    obtain ⟨_, _, rfl⟩ := reservation.mp reserved
    exact ⟨within.1, within.2, within.3, within.4, within.5⟩
  lower := by
    intro before after less below lessWithin within reserved
    obtain ⟨small, word, rfl⟩ := reservation.mp reserved
    have same := lessWithin.streams.trans within.streams.symm
    have used := below.streams
    exact ⟨_, reservation.mpr ⟨by omega, by omega, rfl⟩, Nat.add_le_add_right used amount,
      below.2, below.3, below.4, below.5⟩

theorem partitions (amount : Nat) : Reserves limits (DecodeBudget.reservePartitions amount) where
  keeps := by
    intro before after within reserved
    obtain ⟨_, _, rfl⟩ := reservation.mp reserved
    exact ⟨within.1, within.2, within.3, within.4, within.5⟩
  lower := by
    intro before after less below lessWithin within reserved
    obtain ⟨small, word, rfl⟩ := reservation.mp reserved
    have same := lessWithin.partitions.trans within.partitions.symm
    have used := below.partitions
    exact ⟨_, reservation.mpr ⟨by omega, by omega, rfl⟩, below.1,
      Nat.add_le_add_right used amount, below.3, below.4, below.5⟩

theorem records (amount : Nat) : Reserves limits (DecodeBudget.reserveRecords amount) where
  keeps := by
    intro before after within reserved
    obtain ⟨_, _, rfl⟩ := reservation.mp reserved
    exact ⟨within.1, within.2, within.3, within.4, within.5⟩
  lower := by
    intro before after less below lessWithin within reserved
    obtain ⟨small, word, rfl⟩ := reservation.mp reserved
    have same := lessWithin.records.trans within.records.symm
    have used := below.records
    exact ⟨_, reservation.mpr ⟨by omega, by omega, rfl⟩, below.1, below.2,
      Nat.add_le_add_right used amount, below.4, below.5⟩

theorem bookmarks (amount : Nat) : Reserves limits (DecodeBudget.reserveBookmarks amount) where
  keeps := by
    intro before after within reserved
    obtain ⟨_, _, rfl⟩ := reservation.mp reserved
    exact ⟨within.1, within.2, within.3, within.4, within.5⟩
  lower := by
    intro before after less below lessWithin within reserved
    obtain ⟨small, word, rfl⟩ := reservation.mp reserved
    have same := lessWithin.bookmarks.trans within.bookmarks.symm
    have used := below.bookmarks
    exact ⟨_, reservation.mpr ⟨by omega, by omega, rfl⟩, below.1, below.2, below.3,
      Nat.add_le_add_right used amount, below.5⟩

theorem payloadBytes (amount : Nat) :
    Reserves limits (DecodeBudget.reservePayloadBytes amount) where
  keeps := by
    intro before after within reserved
    obtain ⟨_, _, rfl⟩ := reservation.mp reserved
    exact ⟨within.1, within.2, within.3, within.4, within.5⟩
  lower := by
    intro before after less below lessWithin within reserved
    obtain ⟨small, word, rfl⟩ := reservation.mp reserved
    have same := lessWithin.payloadBytes.trans within.payloadBytes.symm
    have used := below.payloadBytes
    exact ⟨_, reservation.mpr ⟨by omega, by omega, rfl⟩, below.1, below.2, below.3, below.4,
      Nat.add_le_add_right used amount⟩

theorem andThen (one : Reserves limits first) (two : Reserves limits second) :
    Reserves limits fun budget => first budget >>= second where
  keeps := by
    intro before after within reserved
    obtain ⟨middle, reservedOne, reservedTwo⟩ := Codec.except_bind_ok.mp reserved
    exact two.keeps (one.keeps within reservedOne) reservedTwo
  lower := by
    intro before after less below lessWithin within reserved
    obtain ⟨middle, reservedOne, reservedTwo⟩ := Codec.except_bind_ok.mp reserved
    obtain ⟨lessMiddle, lessOne, belowMiddle⟩ := one.lower below lessWithin within reservedOne
    obtain ⟨lessAfter, lessTwo, belowAfter⟩ := two.lower belowMiddle
      (one.keeps lessWithin lessOne) (one.keeps within reservedOne) reservedTwo
    exact ⟨lessAfter, Codec.except_bind_ok.mpr ⟨lessMiddle, lessOne, lessTwo⟩, belowAfter⟩

theorem counted {α : Type} {values : List α} {name : String}
    {step : Nat → DecodeBudget → Except VerifyError DecodeBudget}
    (each : ∀ amount, Reserves limits (step amount)) :
    Reserves limits fun budget => modelCount values name >>= fun amount => step amount budget where
  keeps := by
    intro before after within reserved
    obtain ⟨amount, _, reserved⟩ := Codec.except_bind_ok.mp reserved
    exact (each amount).keeps within reserved
  lower := by
    intro before after less below lessWithin within reserved
    obtain ⟨amount, measured, reserved⟩ := Codec.except_bind_ok.mp reserved
    obtain ⟨lessAfter, reservedLess, belowAfter⟩ :=
      (each amount).lower below lessWithin within reserved
    exact ⟨lessAfter, Codec.except_bind_ok.mpr ⟨amount, measured, reservedLess⟩, belowAfter⟩

theorem countedThen {α : Type} {values : List α} {name : String}
    {step : Nat → DecodeBudget → Except VerifyError DecodeBudget}
    (each : ∀ amount, Reserves limits (step amount)) (next : Reserves limits second) :
    Reserves limits fun budget =>
      modelCount values name >>= fun amount => step amount budget >>= second := by
  have both := andThen (@counted limits α values name step each) next
  simpa only [bind_assoc] using both

theorem fold {α : Type} {step : DecodeBudget → α → Except VerifyError DecodeBudget}
    (each : ∀ item, Reserves limits (step · item)) (items : List α) :
    Reserves limits (items.foldlM step) := by
  induction items with
  | nil =>
      refine ⟨?_, ?_⟩
      · intro before after within reserved
        cases reserved
        exact within
      · intro before after less below _ _ reserved
        cases reserved
        exact ⟨less, rfl, below⟩
  | cons item items ih =>
      have both := (each item).andThen ih
      simpa only [List.foldlM_cons] using both

theorem streamModel (stream : ActiveStreamV1) :
    Reserves limits (DecodeBudget.reserveStreamModel · stream) := by
  have positions (bookmark : CommittedStreamBookmark) :
      Reserves limits (DecodeBudget.reserveStreamBookmarkModel · bookmark) := counted partitions
  exact countedThen partitions (countedThen bookmarks (fold positions _))

theorem manifestModel (selectedStreams : List StreamId) :
    Reserves limits (DecodeBudget.reserveManifestModel selectedStreams) := counted streams

theorem controlModel (control : ControlSectionV1) :
    Reserves limits (DecodeBudget.reserveControlModel control) :=
  countedThen streams (fold streamModel _)

theorem recordModel (record : CommittedRecord) :
    Reserves limits (DecodeBudget.reserveRecordModel · record) := counted payloadBytes

theorem partitionModel (part : PartitionV1) :
    Reserves limits (DecodeBudget.reservePartitionModel · part) :=
  countedThen records (andThen (fold recordModel _) (counted bookmarks))

theorem dataGroupModel (data : DataGroupV1) :
    Reserves limits (DecodeBudget.reserveDataGroupModel data) :=
  countedThen partitions (fold partitionModel _)

end Reserves

/-! ### Sections -/

section
variable {limits : ExportLimits} {budget before after : DecodeBudget}

theorem transfers_cut {cut : GroupCut} (typed : TypedCut cut) :
    Transfers (encodeCut cut) decodeCut cut 32 budget budget :=
  Transfers.weaken ((transfers_group typed.group).bind <| (transfers_u64 typed.term).bind <|
    (transfers_node typed.leader).bind <| (transfers_u64 typed.appliedIndex).last _) (by omega)

theorem transfers_lifecycle (lifecycle : BookmarkLifecycle) :
    Transfers (putU8 (lifecycleTag lifecycle)) decodeLifecycle lifecycle 1 budget budget := by
  cases lifecycle with
  | available => exact (transfers_u8 (by decide)).lastly rfl
  | deleted => exact (transfers_u8 (by decide)).lastly rfl

theorem transfers_position {cluster : ClusterId} {stream : StreamId} {position : CommittedCursor}
    (typed : TypedCursor position) (sameCluster : position.cluster = cluster)
    (sameStream : position.partition.stream = stream) :
    Transfers (encodePosition position) (decodePosition cluster stream) position 12 budget
      budget := by
  obtain ⟨_, ⟨_, partition⟩, nextOffset⟩ := position
  subst sameCluster sameStream
  exact Transfers.weaken ((transfers_u32 typed.partition).bind <|
    (transfers_u64 typed.nextOffset).last _) (by omega)

theorem newVector_positions (vector : StreamCursorVector) :
    newVector vector.stream vector.positions = some vector := by
  obtain ⟨cluster, stream, positions, nonempty, sameCluster, sameStream, distinct⟩ := vector
  cases positions with
  | nil => exact absurd rfl nonempty
  | cons first rest =>
      have same : first.cluster = cluster := sameCluster first List.mem_cons_self
      subst same
      exact dif_pos ⟨sameCluster, sameStream, distinct⟩

theorem published_lifecycle (bookmark : CommittedStreamBookmark) :
    (if bookmark.lifecycle = .deleted then
      (CommittedStreamBookmark.published bookmark.id bookmark.name bookmark.vector
        bookmark.publication).markDeleted
    else CommittedStreamBookmark.published bookmark.id bookmark.name bookmark.vector
      bookmark.publication) = bookmark := by
  obtain ⟨id, name, vector, publication, lifecycle⟩ := bookmark
  cases lifecycle <;> rfl

theorem transfers_streamBookmark {bookmark : CommittedStreamBookmark}
    (typed : TypedStreamBookmark bookmark)
    (ascending : (bookmark.vector.positions.map fun position =>
      position.partition.partition).IsChain (· < ·))
    (within : before.Of limits)
    (reserved : before.reserveStreamBookmarkModel bookmark = .ok after) :
    Transfers (encodeStreamBookmark bookmark) (decodeStreamBookmark limits) bookmark 81 before
      after := by
  have vector := bookmark.vector
  have some := List.length_pos_iff.mpr bookmark.vector.nonempty
  obtain ⟨first, firstMember⟩ := List.exists_mem_of_ne_nil _ bookmark.vector.nonempty
  have cluster : bookmark.vector.cluster.uuid < uuidBound := by
    rw [← bookmark.vector.sameCluster first firstMember]
    exact (typed.positions first firstMember).cluster
  have stream : bookmark.vector.stream.uuid < uuidBound := by
    rw [← bookmark.vector.sameStream first firstMember]
    exact (typed.positions first firstMember).stream
  obtain ⟨amount, measured, reserved⟩ := Codec.except_bind_ok.mp reserved
  obtain ⟨rfl, _⟩ := modelCount_ok.mp measured
  obtain ⟨small, _, _⟩ := reservation.mp reserved
  have bounded : bookmark.vector.positions.length ≤ limits.maxPartitions := by
    have same := within.partitions
    omega
  have positions := @Transfers.plainList _ _ _ _ 12 encodePosition bookmark.vector.positions after
    fun position member => transfers_position (typed.positions position member)
      (bookmark.vector.sameCluster position member) (bookmark.vector.sameStream position member)
  refine Transfers.weaken ((transfers_cluster cluster).bind <| (transfers_stream stream).bind <|
    (transfers_bookmark typed.id).bind <| (transfers_bookmarkName typed.name).bind <|
    (transfers_u64 typed.publication).bind <| (transfers_lifecycle bookmark.lifecycle).bind <|
    transfers_count bounded le_rfl <| .charged reserved <| positions.lastly ?_) ?_
  · rw [if_neg (not_not.mpr ascending), newVector_positions]
    exact congrArg pure (published_lifecycle bookmark)
  · omega

theorem transfers_placement {placement : PartitionPlacement} (typed : TypedPlacement placement) :
    Transfers (encodePlacement placement) decodePlacement placement 12 budget budget :=
  Transfers.weaken ((transfers_u32 typed.partition).bind <| (transfers_group typed.group).last _)
    (by omega)

structure Readable (stream : ActiveStreamV1) : Prop where
  typed : TypedStream stream
  active : stream.descriptor.lifecycle = .active
  readyGroups : stream.descriptor.readyGroups.length ≤ maxDataGroups
  ascending : ∀ bookmark ∈ stream.bookmarks, (bookmark.vector.positions.map fun position =>
    position.partition.partition).IsChain (· < ·)

theorem transfers_activeStream {stream : ActiveStreamV1} (readable : Readable stream)
    (within : before.Of limits) (reserved : before.reserveStreamModel stream = .ok after) :
    Transfers (encodeStream stream) (decodeStream limits) stream 77 before after := by
  have typed := readable.typed.descriptor
  obtain ⟨amount, measured, reserved⟩ := Codec.except_bind_ok.mp reserved
  obtain ⟨rfl, _⟩ := modelCount_ok.mp measured
  obtain ⟨placed, reservedPlacements, reserved⟩ := Codec.except_bind_ok.mp reserved
  obtain ⟨amount, measured, reserved⟩ := Codec.except_bind_ok.mp reserved
  obtain ⟨rfl, _⟩ := modelCount_ok.mp measured
  obtain ⟨marked, reservedBookmarks, reservedPositions⟩ := Codec.except_bind_ok.mp reserved
  have withinPlaced := (Reserves.partitions _).keeps within reservedPlacements
  have withinMarked := (Reserves.bookmarks _).keeps withinPlaced reservedBookmarks
  have fewPlacements : stream.descriptor.placements.length ≤ limits.maxPartitions := by
    obtain ⟨small, _⟩ := reservation.mp reservedPlacements
    have same := within.partitions
    omega
  have fewBookmarks : stream.bookmarks.length ≤ limits.maxBookmarks := by
    obtain ⟨small, _⟩ := reservation.mp reservedBookmarks
    have same := withinPlaced.bookmarks
    omega
  have placements := @Transfers.plainList _ _ _ _ 12 encodePlacement stream.descriptor.placements
    placed fun placement member => transfers_placement (typed.placements placement member)
  have readyGroups := @Transfers.plainList _ _ _ _ 8 encodeGroup stream.descriptor.readyGroups
    placed fun group member => transfers_group (typed.readyGroups group member)
  have keeps (bookmark : CommittedStreamBookmark) :
      Reserves limits (DecodeBudget.reserveStreamBookmarkModel · bookmark) :=
    Reserves.counted Reserves.partitions
  have bookmarks := Transfers.list (fun bookmark _ _ => (keeps bookmark).keeps)
    (fun bookmark member _ _ start used => transfers_streamBookmark
      (readable.typed.bookmarks bookmark member) (readable.ascending bookmark member) start used)
    withinMarked reservedPositions
  refine Transfers.weaken ((transfers_cluster typed.cluster).bind <|
    (transfers_stream typed.stream).bind <| (transfers_streamName typed.name).bind <|
    (transfers_u8 (by decide)).bind <| (transfers_u64 typed.revision).bind <|
    transfers_count fewPlacements (Nat.le_add_right _ _) <| .charged reservedPlacements <| placements.bind <|
    transfers_count readable.readyGroups (Nat.le_add_right _ _) <| readyGroups.bind <|
    (transfers_u64 readable.typed.ceiling).bind <|
    transfers_count fewBookmarks le_rfl <| .charged reservedBookmarks <|
    bookmarks.lastly ?_) ?_
  · rw [← readable.active]
  · omega

theorem transfers_control {control : ControlSectionV1} (typed : control.Typed)
    (readable : ∀ stream ∈ control.streams, Readable stream)
    (groups : control.configuredDataGroups.length ≤ maxDataGroups)
    (within : before.Of limits) (reserved : before.reserveControlModel control = .ok after) :
    Transfers (encodeControl control) (decodeControlFields limits) control 0 before after := by
  obtain ⟨amount, measured, reserved⟩ := Codec.except_bind_ok.mp reserved
  obtain ⟨rfl, _⟩ := modelCount_ok.mp measured
  obtain ⟨announced, reservedStreams, reservedEach⟩ := Codec.except_bind_ok.mp reserved
  have withinAnnounced := (Reserves.streams _).keeps within reservedStreams
  have fewStreams : control.streams.length ≤ limits.maxStreams := by
    obtain ⟨small, _⟩ := reservation.mp reservedStreams
    have same := within.streams
    omega
  have configured := @Transfers.plainList _ _ _ _ 8 encodeGroup control.configuredDataGroups
    before fun group member => transfers_group (typed.configuredDataGroups group member)
  have streams := Transfers.list (fun stream _ _ => (Reserves.streamModel stream).keeps)
    (fun stream member _ _ => transfers_activeStream (readable stream member))
    withinAnnounced reservedEach
  exact Transfers.weaken ((transfers_cluster typed.sourceCluster).bind <|
    (transfers_export typed.exportId).bind <| (transfers_cut typed.cut).bind <|
    (transfers_u64 typed.catalogRevision).bind <| (transfers_u64 typed.assignmentCursor).bind <|
    (transfers_u32 typed.maxStreams).bind <| (transfers_u32 typed.maxPartitionsPerStream).bind <|
    transfers_count groups (Nat.le_add_right _ _) <| configured.bind <|
    transfers_count fewStreams le_rfl <| .charged reservedStreams <| streams.last _)
    (Nat.zero_le _)

theorem transfers_partitionBookmark {bookmark : CommittedBookmark} (typed : TypedBookmark bookmark) :
    Transfers (encodePartitionBookmark bookmark) decodePartitionBookmark bookmark 73 budget
      budget := by
  refine Transfers.weaken ((transfers_cluster typed.cursor.cluster).bind <|
    (transfers_stream typed.cursor.stream).bind <| (transfers_u32 typed.cursor.partition).bind <|
    (transfers_bookmark typed.id).bind <| (transfers_bookmarkName typed.name).bind <|
    (transfers_u64 typed.cursor.nextOffset).bind <| (transfers_u64 typed.publication).bind <|
    (transfers_lifecycle bookmark.lifecycle).lastly ?_) ?_
  · obtain ⟨id, name, cursor, publication, lifecycle⟩ := bookmark
    cases lifecycle <;> rfl
  · omega

theorem transfers_record {record : CommittedRecord} (offset : record.offset ≤ u64Max)
    (within : before.Of limits) (reserved : before.reserveRecordModel record = .ok after) :
    Transfers (encodeRecord record) (decodeRecord limits) record 16 before after := by
  obtain ⟨amount, measured, reserved⟩ := Codec.except_bind_ok.mp reserved
  obtain ⟨rfl, short⟩ := modelCount_ok.mp measured
  obtain ⟨small, _⟩ := reservation.mp reserved
  have same := within.payloadBytes
  have payload := Transfers.octets VerifyError.truncated record.payload after
  have read : Transfers (Codec.raw record.payload)
      (Codec.charge (DecodeBudget.reservePayloadBytes record.payload.length) >>= fun _ =>
        take record.payload.length >>= fun payload => pure ⟨record.offset, payload⟩)
      record record.payload.length before after := .charged reserved (payload.last _)
  refine Transfers.weaken ((transfers_u64 offset).bind <| transfers_guarded fun _ =>
    @Transfers.bind _ _ _ _ _ _ _ _ 8 record.payload.length _ _ _ _ _ (transfers_u64 short) ?_) ?_
  · rw [if_neg (by omega)]
    refine read.looked fun input enough => ?_
    rw [if_neg (by omega)]
  · omega

theorem transfers_partition {part : PartitionV1} (typed : TypedPartition part)
    (within : before.Of limits) (reserved : before.reservePartitionModel part = .ok after) :
    Transfers (encodePartition part) (decodePartition limits) part 76 before after := by
  obtain ⟨amount, measured, reserved⟩ := Codec.except_bind_ok.mp reserved
  obtain ⟨rfl, _⟩ := modelCount_ok.mp measured
  obtain ⟨announced, reservedRecords, reserved⟩ := Codec.except_bind_ok.mp reserved
  obtain ⟨paid, reservedPayloads, reserved⟩ := Codec.except_bind_ok.mp reserved
  obtain ⟨amount, measured, reservedBookmarks⟩ := Codec.except_bind_ok.mp reserved
  obtain ⟨rfl, _⟩ := modelCount_ok.mp measured
  have withinAnnounced := (Reserves.records _).keeps within reservedRecords
  have withinPaid := (Reserves.fold Reserves.recordModel _).keeps withinAnnounced reservedPayloads
  have fewRecords : part.records.length ≤ limits.maxRecords := by
    obtain ⟨small, _⟩ := reservation.mp reservedRecords
    have same := within.records
    omega
  have fewBookmarks : part.bookmarks.length ≤ limits.maxBookmarks := by
    obtain ⟨small, _⟩ := reservation.mp reservedBookmarks
    have same := withinPaid.bookmarks
    omega
  have records := Transfers.list (fun record _ _ => (Reserves.recordModel record).keeps)
    (fun record member _ _ => transfers_record (typed.records record member))
    withinAnnounced reservedPayloads
  have bookmarks := @Transfers.plainList _ _ _ _ 73 encodePartitionBookmark part.bookmarks after
    fun bookmark member => transfers_partitionBookmark (typed.bookmarks bookmark member)
  exact Transfers.weaken ((transfers_cluster typed.sourceCluster).bind <|
    (transfers_stream typed.stream).bind <| (transfers_u32 typed.partition).bind <|
    (transfers_u64 typed.retentionFloor).bind <| (transfers_u64 typed.tail).bind <|
    (transfers_u64 typed.ceiling).bind <| transfers_count fewRecords (Nat.le_add_right _ _) <|
    .charged reservedRecords <| records.bind <|
    transfers_count fewBookmarks le_rfl <| .charged reservedBookmarks <| bookmarks.last _)
    (by omega)

theorem transfers_dataGroup {data : DataGroupV1} (typed : data.Typed)
    (within : before.Of limits) (reserved : before.reserveDataGroupModel data = .ok after) :
    Transfers (encodeDataGroup data) (decodeDataGroupFields limits) data 0 before after := by
  obtain ⟨amount, measured, reserved⟩ := Codec.except_bind_ok.mp reserved
  obtain ⟨rfl, _⟩ := modelCount_ok.mp measured
  obtain ⟨announced, reservedPartitions, reservedEach⟩ := Codec.except_bind_ok.mp reserved
  have withinAnnounced := (Reserves.partitions _).keeps within reservedPartitions
  have fewPartitions : data.partitions.length ≤ limits.maxPartitions := by
    obtain ⟨small, _⟩ := reservation.mp reservedPartitions
    have same := within.partitions
    omega
  have partitions := Transfers.list (fun part _ _ => (Reserves.partitionModel part).keeps)
    (fun part member _ _ => transfers_partition (typed.partitions part member))
    withinAnnounced reservedEach
  exact Transfers.weaken ((transfers_cluster typed.sourceCluster).bind <|
    (transfers_export typed.exportId).bind <| (transfers_group typed.group).bind <|
    (transfers_cut typed.cut).bind <|
    transfers_count fewPartitions le_rfl <| .charged reservedPartitions <| partitions.last _)
    (Nat.zero_le _)

/-! ### The manifest -/

structure TypedSection (descriptor : SectionDescriptorV1) : Prop where
  ordinal : descriptor.ordinal ≤ u64Max
  version : descriptor.sectionVersion = descriptor.kind.version
  group : ∀ group, descriptor.group = some group → group.value ≤ u64Max
  fileOffset : descriptor.fileOffset ≤ u64Max
  itemCount : descriptor.itemCount ≤ u64Max
  payloadLength : descriptor.payloadLength ≤ u64Max

structure TypedTotals (totals : ExportTotalsV1) : Prop where
  configuredDataGroups : totals.configuredDataGroups ≤ u64Max
  streams : totals.streams ≤ u64Max
  partitions : totals.partitions ≤ u64Max
  records : totals.records ≤ u64Max
  payloadBytes : totals.payloadBytes ≤ u64Max
  partitionBookmarks : totals.partitionBookmarks ≤ u64Max
  streamBookmarks : totals.streamBookmarks ≤ u64Max

structure ExportManifestV1.Typed (manifest : ExportManifestV1) : Prop where
  formatVersion : manifest.formatVersion ≤ u32Max
  requiredFeatures : manifest.requiredFeatures ≤ u64Max
  sourceCluster : manifest.sourceCluster.uuid < uuidBound
  exportId : manifest.exportId.uuid < uuidBound
  selectedStreams : ∀ stream ∈ manifest.selectedStreams, stream.uuid < uuidBound
  controlCut : TypedCut manifest.cut.control
  dataCuts : ∀ cut ∈ TreeMap.values manifest.cut.data, TypedCut cut
  sections : ∀ descriptor ∈ manifest.sections, TypedSection descriptor
  totals : TypedTotals manifest.totals
  exclusions : manifest.exclusions ≤ u64Max

theorem transfers_sectionKind (kind : SectionKindV1) :
    Transfers (putU16 kind.number) decodeSectionKind kind 2 budget budget := by
  cases kind with
  | control => exact (transfers_u16 (by decide)).lastly rfl
  | dataGroup => exact (transfers_u16 (by decide)).lastly rfl

theorem transfers_sectionGroup {group : Option GroupId}
    (typed : ∀ member, group = some member → member.value ≤ u64Max) :
    Transfers (encodeSectionGroup group) decodeSectionGroup group 1 budget budget := by
  cases group with
  | none => exact (transfers_u8 (by decide)).lastly rfl
  | some group =>
      exact Transfers.weaken ((transfers_u8 (by decide)).bind <|
        (transfers_group (typed group rfl)).last some) (by omega)

theorem transfers_sectionDescriptor {descriptor : SectionDescriptorV1}
    (typed : TypedSection descriptor) :
    Transfers (encodeSectionDescriptor descriptor) decodeSectionDescriptor descriptor 69 budget
      budget := by
  have version : descriptor.sectionVersion < 65536 := by
    rw [typed.version]
    cases descriptor.kind <;> decide
  exact Transfers.weaken ((transfers_u64 typed.ordinal).bind <|
    (transfers_sectionKind descriptor.kind).bind <| (transfers_u16 version).bind <|
    (transfers_sectionGroup typed.group).bind <| (transfers_u64 typed.fileOffset).bind <|
    (transfers_u64 typed.itemCount).bind <| (transfers_u64 typed.payloadLength).bind <|
    (transfers_digest descriptor.payloadSha256).last _) (by omega)

theorem transfers_totalsThen {totals : ExportTotalsV1} (typed : TypedTotals totals) {α : Type}
    {next : Encoder Unit} {continuation : ExportTotalsV1 → Decoder α} {result : α} {more : Nat}
    (rest : Transfers next (continuation totals) result more before after) :
    Transfers (do
        putU64 totals.configuredDataGroups
        putU64 totals.streams
        putU64 totals.partitions
        putU64 totals.records
        putU64 totals.payloadBytes
        putU64 totals.partitionBookmarks
        putU64 totals.streamBookmarks
        next) (decodeTotals >>= continuation) result more before after := by
  simp only [decodeTotals, bind_assoc, pure_bind]
  exact Transfers.weaken ((transfers_u64 typed.configuredDataGroups).bind <|
    (transfers_u64 typed.streams).bind <| (transfers_u64 typed.partitions).bind <|
    (transfers_u64 typed.records).bind <| (transfers_u64 typed.payloadBytes).bind <|
    (transfers_u64 typed.partitionBookmarks).bind <|
    (transfers_u64 typed.streamBookmarks).bind rest) (by omega)

theorem groups_of_values {data : TreeMap GroupId GroupCut}
    (keyed : TreeMap.Keyed GroupCut.group data) :
    (TreeMap.values data).map GroupCut.group = data.toList.map Prod.fst := by
  rw [TreeMap.values, List.map_map]
  refine List.map_congr_left fun entry member => ?_
  exact keyed entry.1 entry.2 (Std.ExtTreeMap.mem_toList_iff_getElem?_eq_some.mp member)

theorem groups_ascending (data : TreeMap GroupId GroupCut) :
    (data.toList.map Prod.fst).IsChain (· < ·) := by
  have ordered : data.toList.Pairwise fun first second => first.1 < second.1 :=
    Std.ExtTreeMap.ordered_keys_toList.imp compare_lt_iff_lt.mp
  exact (List.pairwise_map.mpr ordered).isChain

theorem transfers_manifest {manifest : ExportManifestV1} (typed : manifest.Typed)
    (groups : manifest.cut.data.size ≤ maxDataGroups)
    (sections : manifest.sections.length ≤ maxDataGroups + 1) (within : before.Of limits)
    (reserved : before.reserveManifestModel manifest.selectedStreams = .ok after) :
    Transfers (encodeManifest manifest) (decodeManifestFields limits) manifest 0 before after := by
  obtain ⟨amount, measured, reserved⟩ := Codec.except_bind_ok.mp reserved
  obtain ⟨rfl, _⟩ := modelCount_ok.mp measured
  have fewStreams : manifest.selectedStreams.length ≤ limits.maxStreams := by
    obtain ⟨small, _⟩ := reservation.mp reserved
    have same := within.streams
    omega
  have fewCuts : (TreeMap.values manifest.cut.data).length ≤ maxDataGroups := by
    rw [TreeMap.length_values]
    exact groups
  have selected := @Transfers.plainList _ _ _ _ 16 putStream manifest.selectedStreams after
    fun stream member => transfers_stream (typed.selectedStreams stream member)
  have cuts := @Transfers.plainList _ _ _ _ 32 encodeCut (TreeMap.values manifest.cut.data) after
    fun cut member => transfers_cut (typed.dataCuts cut member)
  have descriptors := @Transfers.plainList _ _ _ _ 69 encodeSectionDescriptor manifest.sections
    after fun descriptor member => transfers_sectionDescriptor (typed.sections descriptor member)
  have ascending : (((TreeMap.values manifest.cut.data).map GroupCut.group).IsChain (· < ·)) := by
    rw [groups_of_values manifest.cut.keyed]
    exact groups_ascending manifest.cut.data
  exact Transfers.weaken ((transfers_u32 typed.formatVersion).bind <|
    (transfers_u64 typed.requiredFeatures).bind <| (transfers_cluster typed.sourceCluster).bind <|
    (transfers_export typed.exportId).bind <| transfers_count fewStreams (Nat.le_add_right _ _) <|
    .charged reserved <| selected.bind <| (transfers_cut typed.controlCut).bind <|
    transfers_count fewCuts (Nat.le_add_right _ _) <| cuts.bind <| by
      rw [if_neg (not_not.mpr ascending), QuiescentCut.tryNew_values manifest.cut.keyed]
      exact transfers_count sections (Nat.le_add_right _ _) <| descriptors.bind <|
        transfers_totalsThen typed.totals <| (transfers_u64 typed.exclusions).last _)
    (Nat.zero_le _)

theorem decoded_whole {α : Type} {encoder : Encoder Unit} {decoder : Decoder α} {value : α}
    {width max : Nat} {bytes : Codec.Octets} (payload : String)
    (transfers : Transfers encoder decoder value width before after)
    (encoded : encoder.toBytes max = .ok bytes) :
    bytes.length ≤ max ∧ bytes.length ≤ u64Max ∧
      decoded (whole decoder payload) bytes before = .ok (value, after) := by
  obtain ⟨⟨bounded, word⟩, _, read⟩ := transfers.toBytes encoded
  refine ⟨bounded, word, ?_⟩
  have finished : whole decoder payload ⟨bytes, before⟩ = .ok (value, ⟨[], after⟩) :=
    Codec.bind_ok_iff.mpr ⟨value, _, read, Codec.bind_ok_iff.mpr ⟨(), _, rfl, rfl⟩⟩
  rw [decoded, finished]
  rfl

end

end LightStream.Export
