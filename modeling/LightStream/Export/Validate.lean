import Mathlib.Data.Prod.Lex
import Mathlib.Data.Finset.Image
import LightStream.Export.Model

/-!
The checks of `light-stream-export` that a writer and a reader make of the same document.
-/

namespace LightStream.Export

open Kv (TreeMap)

inductive ModelError where
  | limit (limit : String)
  | nonCanonical (field : String)
  | inconsistent (field : String)
deriving DecidableEq

/-- A partition as the tuple the source orders it by. -/
abbrev PartitionIndex := StreamId ×ₗ Nat

def partitionIndex (stream : StreamId) (partition : Nat) : PartitionIndex :=
  toLex (stream, partition)

structure CatalogValidation where
  partitions : TreeMap PartitionIndex GroupId

structure DataValidation where
  seen : Finset PartitionIndex
  tails : TreeMap PartitionIndex Nat
  totals : ExportTotalsV1

def DataValidation.initial : DataValidation := ⟨∅, ∅, .zero⟩

structure ValidationContext where
  sourceCluster : ClusterId
  exportId : ExportIdV1
  selectedStreams : List StreamId
  cut : QuiescentCut
  control : ControlSectionV1
  requiredFeatures : Nat
  exclusions : Nat

def ValidationContext.fromDocument (document : ExportDocumentV1) : ValidationContext where
  sourceCluster := document.sourceCluster
  exportId := document.exportId
  selectedStreams := document.selectedStreams
  cut := document.cut
  control := document.control
  requiredFeatures := document.requiredFeatures
  exclusions := document.exclusions

def ValidationContext.fromManifest (manifest : ExportManifestV1) (control : ControlSectionV1) :
    ValidationContext where
  sourceCluster := manifest.sourceCluster
  exportId := manifest.exportId
  selectedStreams := manifest.selectedStreams
  cut := manifest.cut
  control := control
  requiredFeatures := manifest.requiredFeatures
  exclusions := manifest.exclusions

def require (holds : Prop) [Decidable holds] (error : ModelError) : Except ModelError Unit :=
  if holds then .ok () else .error error

def requireStrict {α : Type} [LinearOrder α] (values : List α) (field : String) :
    Except ModelError Unit :=
  require (values.IsChain (· < ·)) (.nonCanonical field)

def checkU64 (value limit : Nat) (name : String) : Except ModelError Unit :=
  require (value ≤ limit) (.limit name)

def checkCount (count limit : Nat) (name : String) : Except ModelError Unit := do
  require (count ≤ u64Max) (.limit name)
  checkU64 count limit name

def added (left right : Nat) (name : String) : Except ModelError Nat :=
  match checkedAdd left right with
  | none => .error (.limit name)
  | some total => .ok total

def lengthU64 {α : Type} (values : List α) (name : String) : Except ModelError Nat := do
  require (values.length ≤ u64Max) (.limit name)
  pure values.length

structure BookmarkValidation where
  identities : Finset BookmarkId
  expectedPublication : Nat
  activeNames : Finset BookmarkName

/-- The checks that stream and partition bookmarks have in common: `scope` names the kind. -/
def validateBookmark (scope : String) (id : BookmarkId) (name : BookmarkName) (publication : Nat)
    (lifecycle : BookmarkLifecycle) (state : BookmarkValidation) :
    Except ModelError BookmarkValidation := do
  require (id ∉ state.identities) (.nonCanonical (scope ++ " bookmark IDs"))
  require (publication = state.expectedPublication) (.nonCanonical (scope ++ " bookmarks"))
  let expectedPublication ← added state.expectedPublication 1 "bookmarks"
  require (lifecycle = .available → name ∉ state.activeNames)
    (.nonCanonical (scope ++ " bookmark names"))
  pure {
    identities := insert id state.identities
    expectedPublication
    activeNames := if lifecycle = .available then insert name state.activeNames
      else state.activeNames }

def validateStreamBookmark (context : ValidationContext) (stream : StreamId)
    (placements : List PartitionPlacement) (state : BookmarkValidation)
    (bookmark : CommittedStreamBookmark) : Except ModelError BookmarkValidation := do
  let state ← validateBookmark "stream" bookmark.id bookmark.name bookmark.publication
    bookmark.lifecycle state
  require (bookmark.vector.cluster = context.sourceCluster ∧ bookmark.vector.stream = stream)
    (.inconsistent "stream bookmark identity")
  let positions := bookmark.vector.positions
  let partitions := positions.map fun position => position.partition.partition
  requireStrict partitions "stream bookmark positions"
  require (partitions = placements.map PartitionPlacement.partition)
    (.inconsistent "stream bookmark partitions")
  require (∀ position ∈ positions,
      position.cluster = context.sourceCluster ∧ position.partition.stream = stream)
    (.inconsistent "stream bookmark position")
  pure state

def validateStreamBookmarks (context : ValidationContext) (stream : StreamId)
    (placements : List PartitionPlacement) (ceiling : Nat)
    (bookmarks : List CommittedStreamBookmark) (identities : Finset BookmarkId) :
    Except ModelError (Finset BookmarkId) := do
  let state ← bookmarks.foldlM (validateStreamBookmark context stream placements)
    ⟨identities, 1, ∅⟩
  require (ceiling = state.expectedPublication - 1)
    (.inconsistent "stream bookmark publication ceiling")
  pure state.identities

def validatePartitionBookmark (context : ValidationContext) (stream : StreamId) (partition : Nat)
    (tail : Nat) (state : BookmarkValidation) (bookmark : CommittedBookmark) :
    Except ModelError BookmarkValidation := do
  let state ← validateBookmark "partition" bookmark.id bookmark.name bookmark.publication
    bookmark.lifecycle state
  let cursor := bookmark.cursor
  require (cursor.cluster = context.sourceCluster ∧ cursor.partition.stream = stream ∧
      cursor.partition.partition = partition) (.inconsistent "partition bookmark identity")
  require (cursor.nextOffset ≤ tail) (.inconsistent "partition bookmark target")
  pure state

def validatePartitionBookmarks (context : ValidationContext) (stream : StreamId) (partition : Nat)
    (tail ceiling : Nat) (bookmarks : List CommittedBookmark) (identities : Finset BookmarkId) :
    Except ModelError (Finset BookmarkId) := do
  let state ← bookmarks.foldlM (validatePartitionBookmark context stream partition tail)
    ⟨identities, 1, ∅⟩
  require (ceiling = state.expectedPublication - 1)
    (.inconsistent "partition bookmark publication ceiling")
  pure state.identities

structure StreamValidation where
  partitions : TreeMap PartitionIndex GroupId
  bookmarkCount : Nat
  streamNames : Finset StreamName
  streamBookmarkIds : Finset BookmarkId

def validatePlacement (configured : Finset GroupId) (stream : StreamId)
    (partitions : TreeMap PartitionIndex GroupId) (placement : PartitionPlacement) :
    Except ModelError (TreeMap PartitionIndex GroupId) := do
  require (placement.group ∈ configured) (.inconsistent "placement data group")
  let index := partitionIndex stream placement.partition
  require (partitions[index]? = none) (.nonCanonical "placements")
  pure (partitions.insert index placement.group)

def validateStream (context : ValidationContext) (configured : Finset GroupId)
    (state : StreamValidation) (stream : ActiveStreamV1) : Except ModelError StreamValidation := do
  let descriptor := stream.descriptor
  let partitionCount ← lengthU64 descriptor.placements "partitions"
  require (partitionCount ≤ context.control.maxPartitionsPerStream)
    (.inconsistent "catalog max partitions per stream")
  require (descriptor.cluster = context.sourceCluster) (.inconsistent "stream source cluster")
  require (descriptor.lifecycle = .active) (.inconsistent "stream lifecycle")
  require (descriptor.name ∉ state.streamNames) (.nonCanonical "stream names")
  require (descriptor.placements ≠ []) (.inconsistent "stream placements")
  requireStrict (descriptor.placements.map PartitionPlacement.partition) "placements"
  let partitions ← descriptor.placements.foldlM (validatePlacement configured descriptor.stream)
    state.partitions
  requireStrict descriptor.readyGroups "ready groups"
  require (∀ group ∈ descriptor.readyGroups, group ∈ configured) (.inconsistent "ready data group")
  require ((descriptor.placements.map PartitionPlacement.group).toFinset =
      descriptor.readyGroups.toFinset) (.inconsistent "active stream ready groups")
  let streamBookmarkIds ← validateStreamBookmarks context descriptor.stream descriptor.placements
    stream.bookmarkPublicationCeiling stream.bookmarks state.streamBookmarkIds
  let bookmarkCount ← added state.bookmarkCount (← lengthU64 stream.bookmarks "bookmarks")
    "bookmarks"
  pure {
    partitions
    bookmarkCount
    streamNames := insert descriptor.name state.streamNames
    streamBookmarkIds }

def validateControl (context : ValidationContext) (limits : ExportLimits) :
    Except ModelError CatalogValidation := do
  let control := context.control
  require (context.requiredFeatures = requiredFeaturesV1) (.inconsistent "required feature bits")
  require (context.exclusions = exclusionsV1) (.inconsistent "fixed exclusions")
  require (control.sourceCluster = context.sourceCluster) (.inconsistent "control source cluster")
  require (control.exportId = context.exportId) (.inconsistent "control export ID")
  require (control.cut = context.cut.control) (.inconsistent "control cut")
  require (context.selectedStreams ≠ []) (.inconsistent "selected streams")
  let selectedStreamCount ← lengthU64 context.selectedStreams "streams"
  require (control.maxStreams ≠ 0 ∧ selectedStreamCount ≤ control.maxStreams)
    (.inconsistent "catalog max streams")
  require (control.maxPartitionsPerStream ≠ 0) (.inconsistent "catalog max partitions per stream")
  requireStrict context.selectedStreams "selected streams"
  checkCount context.selectedStreams.length limits.maxStreams "streams"
  let cutGroups := context.cut.data.toList.map Prod.fst
  require (control.configuredDataGroups = cutGroups) (.inconsistent "configured data groups")
  require (cutGroups ≠ [] ∧ cutGroups.length ≤ maxDataGroups)
    (.inconsistent "configured data groups")
  requireStrict control.configuredDataGroups "configured data groups"
  let controlStreams := control.streams.map fun stream => stream.descriptor.stream
  requireStrict controlStreams "streams"
  require (controlStreams = context.selectedStreams) (.inconsistent "selected streams")
  require (control.catalogRevision ≠ 0 ∧
      ∀ stream ∈ control.streams, stream.descriptor.revision ≤ control.catalogRevision)
    (.inconsistent "catalog revision")
  let state ← control.streams.foldlM
    (validateStream context control.configuredDataGroups.toFinset) ⟨∅, 0, ∅, ∅⟩
  checkU64 state.bookmarkCount limits.maxBookmarks "bookmarks"
  checkCount state.partitions.size limits.maxPartitions "partitions"
  pure ⟨state.partitions⟩

/-- The offset the next record must have and the payload bytes counted so far. -/
def validateRecord (state : Nat × Nat) (record : CommittedRecord) :
    Except ModelError (Nat × Nat) := do
  require (record.offset = state.1) (.nonCanonical "records")
  let expectedOffset ← added state.1 1 "records"
  let payloadBytes ← added state.2 (← lengthU64 record.payload "payload bytes") "payload bytes"
  pure (expectedOffset, payloadBytes)

def validatePartition (context : ValidationContext) (group : GroupId)
    (catalog : CatalogValidation) (state : DataValidation × Finset BookmarkId)
    (part : PartitionV1) : Except ModelError (DataValidation × Finset BookmarkId) := do
  let (validation, identities) := state
  let key := partitionIndex part.stream part.partition
  require (part.sourceCluster = context.sourceCluster) (.inconsistent "partition source cluster")
  require (catalog.partitions[key]? = some group) (.inconsistent "partition placement")
  require (key ∉ validation.seen) (.nonCanonical "partitions")
  require (part.retentionFloor ≤ part.tail) (.inconsistent "partition floor and tail")
  let expectedRecords := part.tail - part.retentionFloor
  let recordCount ← lengthU64 part.records "records"
  require (recordCount = expectedRecords) (.inconsistent "partition record range")
  let (_, payloadBytes) ← part.records.foldlM validateRecord
    (part.retentionFloor, validation.totals.payloadBytes)
  let identities ← validatePartitionBookmarks context part.stream part.partition part.tail
    part.bookmarkPublicationCeiling part.bookmarks identities
  let partitions ← added validation.totals.partitions 1 "partitions"
  let records ← added validation.totals.records expectedRecords "records"
  let partitionBookmarks ← added validation.totals.partitionBookmarks
    (← lengthU64 part.bookmarks "bookmarks") "bookmarks"
  pure ({
    seen := insert key validation.seen
    tails := validation.tails.insert key part.tail
    totals := { validation.totals with partitions, records, payloadBytes, partitionBookmarks } },
    identities)

def validateDataGroup (context : ValidationContext) (expectedGroup : GroupId)
    (expectedCut : GroupCut) (group : DataGroupV1) (catalog : CatalogValidation)
    (limits : ExportLimits) (state : DataValidation) : Except ModelError DataValidation := do
  require (group.sourceCluster = context.sourceCluster) (.inconsistent "data source cluster")
  require (group.exportId = context.exportId) (.inconsistent "data export ID")
  require (group.group = expectedGroup ∧ group.cut = expectedCut ∧ group.cut.group = group.group)
    (.inconsistent "data group cut")
  requireStrict (group.partitions.map fun part => partitionIndex part.stream part.partition)
    "partitions"
  let (state, _) ← group.partitions.foldlM (validatePartition context group.group catalog)
    (state, ∅)
  checkU64 state.totals.partitions limits.maxPartitions "partitions"
  checkU64 state.totals.records limits.maxRecords "records"
  checkU64 state.totals.payloadBytes limits.maxPayloadBytes "payload bytes"
  let bookmarks ← added state.totals.partitionBookmarks state.totals.streamBookmarks "bookmarks"
  checkU64 bookmarks limits.maxBookmarks "bookmarks"
  pure state

def validatePosition (stream : StreamId) (tails : TreeMap PartitionIndex Nat)
    (position : CommittedCursor) : Except ModelError Unit :=
  match tails[partitionIndex stream position.partition.partition]? with
  | none => .error (.inconsistent "stream bookmark partition")
  | some tail => require (position.nextOffset ≤ tail) (.inconsistent "stream bookmark target")

def countStreamBookmarks (total : Nat) (stream : ActiveStreamV1) : Except ModelError Nat := do
  added total (← lengthU64 stream.bookmarks "bookmarks") "bookmarks"

def finishValidation (context : ValidationContext) (catalog : CatalogValidation)
    (limits : ExportLimits) (state : DataValidation) : Except ModelError DataValidation := do
  require (state.seen.card = catalog.partitions.size ∧
      ∀ entry ∈ catalog.partitions.toList, entry.1 ∈ state.seen)
    (.inconsistent "descriptor partitions")
  context.control.streams.forM fun stream =>
    stream.bookmarks.forM fun bookmark =>
      bookmark.vector.positions.forM (validatePosition stream.descriptor.stream state.tails)
  require (context.cut.data.size ≤ u64Max) (.limit "data groups")
  let streams ← lengthU64 context.control.streams "streams"
  let streamBookmarks ← context.control.streams.foldlM countStreamBookmarks 0
  let totals := { state.totals with
    configuredDataGroups := context.cut.data.size, streams, streamBookmarks }
  checkU64 totals.streams limits.maxStreams "streams"
  let bookmarks ← added totals.partitionBookmarks totals.streamBookmarks "bookmarks"
  checkU64 bookmarks limits.maxBookmarks "bookmarks"
  pure { state with totals }

end LightStream.Export
