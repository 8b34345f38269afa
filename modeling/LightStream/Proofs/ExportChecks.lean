import LightStream.Proofs.ExportSections

/-!
What the checks of an export establish: the bounds a reader relies on, and totals that count what
the document and its data groups hold.
-/

namespace LightStream.Export

open Codec (except_bind_ok foldlM_step)
open Kv (TreeMap)

section
variable {limits : ExportLimits} {context : ValidationContext}

theorem require_ok {holds : Prop} [Decidable holds] {error : ModelError} {answer : Unit} :
    require holds error = .ok answer ↔ holds := by
  unfold require
  split <;> simp_all

theorem added_ok {left right total : Nat} {name : String} :
    added left right name = .ok total ↔ left + right = total ∧ total ≤ u64Max := by
  unfold added
  rw [← checkedAdd_some]
  cases checkedAdd left right with
  | none => simp
  | some sum => simp

theorem lengthU64_ok {α : Type} {values : List α} {name : String} {amount : Nat} :
    lengthU64 values name = .ok amount ↔ values.length = amount ∧ amount ≤ u64Max := by
  unfold lengthU64
  rw [except_bind_ok]
  constructor
  · rintro ⟨_, small, same⟩
    cases same
    exact ⟨rfl, require_ok.mp small⟩
  · rintro ⟨rfl, small⟩
    exact ⟨(), require_ok.mpr small, rfl⟩

theorem length_le_of_ascending {values others : List GroupId} (ascending : values.IsChain (· < ·))
    (inside : ∀ value ∈ values, value ∈ others.toFinset) : values.length ≤ others.length := by
  have distinct : values.Nodup := (List.isChain_iff_pairwise.mp ascending).imp ne_of_lt
  have small : values.toFinset ⊆ others.toFinset := fun value member =>
    inside value (List.mem_toFinset.mp member)
  calc values.length = values.toFinset.card := (List.toFinset_card_of_nodup distinct).symm
    _ ≤ others.toFinset.card := Finset.card_le_card small
    _ ≤ others.length := List.toFinset_card_le others

theorem validateStream_readable {configured : List GroupId} {before after : StreamValidation}
    {stream : ActiveStreamV1} (few : configured.length ≤ maxDataGroups)
    (checked : validateStream context configured.toFinset before stream = .ok after)
    (typed : TypedStream stream) : Readable stream := by
  simp only [validateStream, requireStrict, except_bind_ok, require_ok] at checked
  obtain ⟨_, _, _, _, _, _, _, active, _, _, _, _, _, _, partitions, _, _, ascending, _, inside, _, _,
    identities, bookmarks, _⟩ := checked
  refine ⟨typed, active, (length_le_of_ascending ascending inside).trans few, ?_⟩
  intro bookmark member
  simp only [validateStreamBookmarks, except_bind_ok] at bookmarks
  obtain ⟨_, ran, _⟩ := bookmarks
  obtain ⟨start, stop, step⟩ := foldlM_step ran member
  simp only [validateStreamBookmark, requireStrict, except_bind_ok, require_ok] at step
  obtain ⟨_, _, _, _, _, positions, _⟩ := step
  exact positions

structure Checked (context : ValidationContext) : Prop where
  requiredFeatures : context.requiredFeatures = requiredFeaturesV1
  exclusions : context.exclusions = exclusionsV1
  selected : context.selectedStreams.IsChain (· < ·)
  groups : context.control.configuredDataGroups = context.cut.data.toList.map Prod.fst
  fewGroups : context.control.configuredDataGroups.length ≤ maxDataGroups
  streams : ∀ stream ∈ context.control.streams, ∃ before after,
    validateStream context context.control.configuredDataGroups.toFinset before stream = .ok after

theorem validateControl_checked {catalog : CatalogValidation}
    (checked : validateControl context limits = .ok catalog) : Checked context := by
  simp only [validateControl, requireStrict, except_bind_ok, require_ok] at checked
  obtain ⟨_, features, _, exclusions, _, _, _, _, _, _, _, _, _, _, _, _, _, _, _, selected, _, _, _,
    groups, _, few, _, _, _, _, _, _, _, _, state, ran, _⟩ := checked
  refine ⟨features, exclusions, selected, groups, ?_, fun stream member => foldlM_step ran member⟩
  rw [groups]
  exact few.2

theorem Checked.readable (checked : Checked context) (typed : context.control.Typed) :
    ∀ stream ∈ context.control.streams, Readable stream := by
  intro stream member
  obtain ⟨before, after, step⟩ := checked.streams stream member
  exact validateStream_readable checked.fewGroups step (typed.streams stream member)

/-! ### Totals -/

def DataGroupV1.recordCount (data : DataGroupV1) : Nat :=
  (data.partitions.map fun part => part.records.length).sum

def PartitionV1.payloadBytes (part : PartitionV1) : Nat :=
  (part.records.map fun record => record.payload.length).sum

def DataGroupV1.payloadBytes (data : DataGroupV1) : Nat :=
  (data.partitions.map PartitionV1.payloadBytes).sum

def DataGroupV1.bookmarkCount (data : DataGroupV1) : Nat :=
  (data.partitions.map fun part => part.bookmarks.length).sum

def totalsOf (cut : QuiescentCut) (control : ControlSectionV1) (groups : List DataGroupV1) :
    ExportTotalsV1 where
  configuredDataGroups := cut.data.size
  streams := control.streams.length
  partitions := (groups.map fun data => data.partitions.length).sum
  records := (groups.map DataGroupV1.recordCount).sum
  payloadBytes := (groups.map DataGroupV1.payloadBytes).sum
  partitionBookmarks := (groups.map DataGroupV1.bookmarkCount).sum
  streamBookmarks := (control.streams.map fun stream => stream.bookmarks.length).sum

theorem validateRecords_total {records : List CommittedRecord} {start stop : Nat × Nat}
    (ran : records.foldlM validateRecord start = .ok stop) :
    stop.2 = start.2 + (records.map fun record => record.payload.length).sum ∧
      (start.2 ≤ u64Max → stop.2 ≤ u64Max) := by
  induction records generalizing start with
  | nil =>
      cases ran
      exact ⟨rfl, id⟩
  | cons record records ih =>
      rw [List.foldlM_cons] at ran
      obtain ⟨middle, step, rest⟩ := except_bind_ok.mp ran
      simp only [validateRecord, except_bind_ok, require_ok, added_ok, lengthU64_ok] at step
      obtain ⟨_, _, next, _, size, ⟨rfl, _⟩, total, ⟨rfl, small⟩, same⟩ := step
      cases same
      obtain ⟨counted, bounded⟩ := ih rest
      rw [List.map_cons, List.sum_cons]
      exact ⟨by omega, fun _ => bounded small⟩

def ExportTotalsV1.withPartition (totals : ExportTotalsV1) (part : PartitionV1) :
    ExportTotalsV1 where
  configuredDataGroups := totals.configuredDataGroups
  streams := totals.streams
  partitions := totals.partitions + 1
  records := totals.records + part.records.length
  payloadBytes := totals.payloadBytes + part.payloadBytes
  partitionBookmarks := totals.partitionBookmarks + part.bookmarks.length
  streamBookmarks := totals.streamBookmarks

theorem validatePartition_totals {group : GroupId} {catalog : CatalogValidation}
    {start stop : DataValidation × Finset BookmarkId} {part : PartitionV1}
    (step : validatePartition context group catalog start part = .ok stop) :
    stop.1.totals = start.1.totals.withPartition part := by
  simp only [validatePartition, except_bind_ok, require_ok, added_ok, lengthU64_ok] at step
  obtain ⟨_, _, _, _, _, _, _, _, count, ⟨counted, _⟩, _, expected, final, records, _, _, partitions,
    ⟨rfl, _⟩, recordTotal, ⟨rfl, _⟩, bookmarks, ⟨rfl, _⟩, bookmarkTotal, ⟨rfl, _⟩, same⟩ := step
  cases same
  have payload := (validateRecords_total records).1
  simp only [ExportTotalsV1.withPartition, PartitionV1.payloadBytes, payload, ← expected, counted]

def ExportTotalsV1.withGroup (totals : ExportTotalsV1) (data : DataGroupV1) : ExportTotalsV1 where
  configuredDataGroups := totals.configuredDataGroups
  streams := totals.streams
  partitions := totals.partitions + data.partitions.length
  records := totals.records + data.recordCount
  payloadBytes := totals.payloadBytes + data.payloadBytes
  partitionBookmarks := totals.partitionBookmarks + data.bookmarkCount
  streamBookmarks := totals.streamBookmarks

theorem validatePartitions_totals {group : GroupId} {catalog : CatalogValidation}
    {parts : List PartitionV1} {start stop : DataValidation × Finset BookmarkId}
    (ran : parts.foldlM (validatePartition context group catalog) start = .ok stop) :
    stop.1.totals = {
      configuredDataGroups := start.1.totals.configuredDataGroups
      streams := start.1.totals.streams
      partitions := start.1.totals.partitions + parts.length
      records := start.1.totals.records + (parts.map fun part => part.records.length).sum
      payloadBytes := start.1.totals.payloadBytes + (parts.map PartitionV1.payloadBytes).sum
      partitionBookmarks := start.1.totals.partitionBookmarks +
        (parts.map fun part => part.bookmarks.length).sum
      streamBookmarks := start.1.totals.streamBookmarks } := by
  induction parts generalizing start with
  | nil =>
      cases ran
      rfl
  | cons part parts ih =>
      rw [List.foldlM_cons] at ran
      obtain ⟨middle, step, rest⟩ := except_bind_ok.mp ran
      rw [ih rest, validatePartition_totals step]
      simp only [ExportTotalsV1.withPartition, List.length_cons, List.map_cons, List.sum_cons,
        ExportTotalsV1.mk.injEq, true_and, and_true]
      omega

structure TotalsWithin (limits : ExportLimits) (totals : ExportTotalsV1) : Prop where
  partitions : totals.partitions ≤ limits.maxPartitions
  records : totals.records ≤ limits.maxRecords
  payloadBytes : totals.payloadBytes ≤ limits.maxPayloadBytes

theorem validateDataGroup_totals {group : GroupId} {cut : GroupCut} {data : DataGroupV1}
    {catalog : CatalogValidation} {before after : DataValidation}
    (checked : validateDataGroup context group cut data catalog limits before = .ok after) :
    after.totals = before.totals.withGroup data ∧ TotalsWithin limits after.totals := by
  simp only [validateDataGroup, checkU64, except_bind_ok, require_ok] at checked
  obtain ⟨_, _, _, _, _, _, _, _, final, ran, _, partitions, _, records, _, payload, _, _, _, _,
    same⟩ := checked
  cases same
  exact ⟨validatePartitions_totals ran, partitions, records, payload⟩

theorem TotalsWithin.zero : TotalsWithin limits .zero := ⟨Nat.zero_le _, Nat.zero_le _, Nat.zero_le _⟩

theorem countStreamBookmarks_total {streams : List ActiveStreamV1} {start stop : Nat}
    (ran : streams.foldlM countStreamBookmarks start = .ok stop) :
    stop = start + (streams.map fun stream => stream.bookmarks.length).sum := by
  induction streams generalizing start with
  | nil =>
      cases ran
      rfl
  | cons stream streams ih =>
      rw [List.foldlM_cons] at ran
      obtain ⟨middle, step, rest⟩ := except_bind_ok.mp ran
      simp only [countStreamBookmarks, except_bind_ok, lengthU64_ok, added_ok] at step
      obtain ⟨_, ⟨rfl, _⟩, rfl, _⟩ := step
      rw [ih rest, List.map_cons, List.sum_cons]
      omega

theorem finishValidation_totals {catalog : CatalogValidation} {before after : DataValidation}
    (checked : finishValidation context catalog limits before = .ok after) :
    after.totals = { before.totals with
      configuredDataGroups := context.cut.data.size
      streams := context.control.streams.length
      streamBookmarks :=
        (context.control.streams.map fun stream => stream.bookmarks.length).sum } ∧
      after.totals.streams ≤ limits.maxStreams ∧
      after.totals.partitionBookmarks + after.totals.streamBookmarks ≤ limits.maxBookmarks ∧
      after.totals.configuredDataGroups ≤ u64Max ∧
      after.totals.partitionBookmarks + after.totals.streamBookmarks ≤ u64Max := by
  simp only [finishValidation, checkU64, except_bind_ok, require_ok, lengthU64_ok, added_ok] at checked
  obtain ⟨_, _, _, _, _, small, _, ⟨rfl, _⟩, bookmarks, counted, _, streams, total, ⟨rfl, word⟩, _,
    few, same⟩ := checked
  have count := countStreamBookmarks_total counted
  rw [Nat.zero_add] at count
  subst count
  cases same
  exact ⟨rfl, streams, few, small, word⟩

theorem foldl_withGroup (groups : List DataGroupV1) (start : ExportTotalsV1) :
    groups.foldl ExportTotalsV1.withGroup start = {
      configuredDataGroups := start.configuredDataGroups
      streams := start.streams
      partitions := start.partitions + (groups.map fun data => data.partitions.length).sum
      records := start.records + (groups.map DataGroupV1.recordCount).sum
      payloadBytes := start.payloadBytes + (groups.map DataGroupV1.payloadBytes).sum
      partitionBookmarks := start.partitionBookmarks + (groups.map DataGroupV1.bookmarkCount).sum
      streamBookmarks := start.streamBookmarks } := by
  induction groups generalizing start with
  | nil => rfl
  | cons data groups ih =>
      rw [List.foldl_cons, ih]
      simp only [ExportTotalsV1.withGroup, List.map_cons, List.sum_cons, ExportTotalsV1.mk.injEq,
        true_and, and_true]
      omega

end

end LightStream.Export
