import LightStream.Codec.Binary
import LightStream.Core.Operations

/-!
The portable export format of `light-stream-export`: documents, sections, manifests, limits and
errors.  A field that is a machine integer, an identity or a name in the source has a range there;
`Typed` states it for every part of a document.
-/

namespace LightStream.Export

open Codec (Octets)
open Kv (TreeMap)

abbrev Digest := BitVec 256

def ascii (text : String) : Octets := text.toList.map fun char => UInt8.ofNat char.toNat

def magicV1 : Octets := ascii "LSEXPT01"
def trailerMagicV1 : Octets := ascii "LSEXEND1"
def formatVersionV1 : Nat := 1
def requiredFeaturesV1 : Nat := 0
def sectionKindControlV1 : Nat := 1
def sectionKindDataGroupV1 : Nat := 2
def controlSectionVersionV1 : Nat := 2
def dataSectionVersionV1 : Nat := 1
def streamLifecycleActiveV1 : Nat := 1
def bookmarkLifecycleActiveV1 : Nat := 1
def bookmarkLifecycleDeletedV1 : Nat := 2
def optionNoneV1 : Nat := 0
def optionSomeV1 : Nat := 1
def trailerBytesV1 : Nat := 56
def exclusionsV1 : Nat := 2 ^ 8 - 1

structure ExportIdV1 where
  uuid : Nat
deriving DecidableEq

structure ExportLimits where
  maxArtifactBytes : Nat
  maxManifestBytes : Nat
  maxSectionBytes : Nat
  maxStreams : Nat
  maxPartitions : Nat
  maxRecords : Nat
  maxBookmarks : Nat
  maxPayloadBytes : Nat
deriving DecidableEq

def ExportLimits.standard : ExportLimits where
  maxArtifactBytes := 100 * 1024 * 1024 * 1024
  maxManifestBytes := 16 * 1024 * 1024
  maxSectionBytes := 1024 * 1024 * 1024
  maxStreams := 1024
  maxPartitions := 131072
  maxRecords := 100000000
  maxBookmarks := 10000000
  maxPayloadBytes := 100 * 1024 * 1024 * 1024

structure ActiveStreamV1 where
  descriptor : StreamDescriptor
  bookmarkPublicationCeiling : Nat
  bookmarks : List CommittedStreamBookmark
deriving DecidableEq

structure ControlSectionV1 where
  sourceCluster : ClusterId
  exportId : ExportIdV1
  cut : GroupCut
  catalogRevision : Nat
  assignmentCursor : Nat
  maxStreams : Nat
  maxPartitionsPerStream : Nat
  configuredDataGroups : List GroupId
  streams : List ActiveStreamV1
deriving DecidableEq

structure ExportDocumentV1 where
  sourceCluster : ClusterId
  exportId : ExportIdV1
  selectedStreams : List StreamId
  cut : QuiescentCut
  control : ControlSectionV1
  requiredFeatures : Nat
  exclusions : Nat
deriving DecidableEq

structure PartitionV1 where
  sourceCluster : ClusterId
  stream : StreamId
  partition : Nat
  retentionFloor : Nat
  tail : Nat
  bookmarkPublicationCeiling : Nat
  records : List CommittedRecord
  bookmarks : List CommittedBookmark
deriving DecidableEq

structure DataGroupV1 where
  sourceCluster : ClusterId
  exportId : ExportIdV1
  group : GroupId
  cut : GroupCut
  partitions : List PartitionV1
deriving DecidableEq

/-- `DataGroupSourceV1`: a source with states `σ` that fails with `ε`. -/
abbrev DataGroupSourceV1 (σ ε : Type) :=
  σ → GroupId → GroupCut → Except ε (Option DataGroupV1 × σ)

inductive SectionKindV1 where
  | control
  | dataGroup
deriving DecidableEq

def SectionKindV1.number : SectionKindV1 → Nat
  | .control => sectionKindControlV1
  | .dataGroup => sectionKindDataGroupV1

def SectionKindV1.version : SectionKindV1 → Nat
  | .control => controlSectionVersionV1
  | .dataGroup => dataSectionVersionV1

structure SectionDescriptorV1 where
  ordinal : Nat
  kind : SectionKindV1
  sectionVersion : Nat
  group : Option GroupId
  fileOffset : Nat
  itemCount : Nat
  payloadLength : Nat
  payloadSha256 : Digest
deriving DecidableEq

structure ExportTotalsV1 where
  configuredDataGroups : Nat
  streams : Nat
  partitions : Nat
  records : Nat
  payloadBytes : Nat
  partitionBookmarks : Nat
  streamBookmarks : Nat
deriving DecidableEq

def ExportTotalsV1.zero : ExportTotalsV1 := ⟨0, 0, 0, 0, 0, 0, 0⟩

structure ExportManifestV1 where
  formatVersion : Nat
  requiredFeatures : Nat
  sourceCluster : ClusterId
  exportId : ExportIdV1
  selectedStreams : List StreamId
  cut : QuiescentCut
  sections : List SectionDescriptorV1
  totals : ExportTotalsV1
  exclusions : Nat
deriving DecidableEq

structure ArtifactDigestCoverage where
  start : Nat
  stop : Nat
deriving DecidableEq

structure ExportInspection where
  artifact : ArtifactIdentity
  manifest : ExportManifestV1
  sections : List SectionDescriptorV1
  artifactDigestCoverage : ArtifactDigestCoverage
deriving DecidableEq

inductive VerifiedSectionV1 where
  | control (section_ : ControlSectionV1)
  | dataGroup (group : DataGroupV1)
deriving DecidableEq

inductive ExportWriteError (ε : Type) where
  | source (error : ε)
  | limit (limit : String)
  | nonCanonical (field : String)
  | inconsistent (field : String)
deriving DecidableEq

inductive VerifyError where
  | io (reason : String)
  | truncated
  | trailingBytes
  | invalid (field : String)
  | unsupported (field : String)
  | limit (limit : String)
  | nonCanonical (field : String)
  | inconsistent (field : String)
  | digest (scope : String)
deriving DecidableEq

inductive VisitError (ε : Type) where
  | verify (error : VerifyError)
  | visitor (error : ε)
deriving DecidableEq

def maxNameBytes : Nat := 255

def isControl (char : Char) : Bool :=
  decide (char.toNat < 0x20) || (decide (0x7f ≤ char.toNat) && decide (char.toNat ≤ 0x9f))

def parseName (kind text : String) : Except DomainError String :=
  if text = "" then .error (.invalidName kind "value is empty")
  else if text.utf8ByteSize > maxNameBytes then
    .error (.invalidName kind "value exceeds 255 UTF-8 bytes")
  else if text.toList.any isControl then
    .error (.invalidName kind "control characters are not allowed")
  else .ok text

def streamNameParse (text : String) : Except DomainError StreamName :=
  (parseName "stream name" text).map StreamName.mk

def bookmarkNameParse (text : String) : Except DomainError BookmarkName :=
  (parseName "bookmark name" text).map BookmarkName.mk

/-! ### The ranges of the source's types -/

def u32Max : Nat := 2 ^ 32 - 1

def uuidBound : Nat := 2 ^ 128

def TypedBookmarkId : BookmarkId → Prop
  | .uuid value => value < uuidBound
  | .derived _ _ => False

structure TypedCut (cut : GroupCut) : Prop where
  group : cut.group.value ≤ u64Max
  term : cut.term ≤ u64Max
  leader : cut.leader.value ≤ u64Max
  appliedIndex : cut.appliedIndex ≤ u64Max

structure TypedPlacement (placement : PartitionPlacement) : Prop where
  partition : placement.partition ≤ u32Max
  group : placement.group.value ≤ u64Max

structure TypedDescriptor (descriptor : StreamDescriptor) : Prop where
  cluster : descriptor.cluster.uuid < uuidBound
  stream : descriptor.stream.uuid < uuidBound
  name : streamNameParse descriptor.name.text = .ok descriptor.name
  revision : descriptor.revision ≤ u64Max
  placements : ∀ placement ∈ descriptor.placements, TypedPlacement placement
  readyGroups : ∀ group ∈ descriptor.readyGroups, group.value ≤ u64Max

structure TypedCursor (cursor : CommittedCursor) : Prop where
  cluster : cursor.cluster.uuid < uuidBound
  stream : cursor.partition.stream.uuid < uuidBound
  partition : cursor.partition.partition ≤ u32Max
  nextOffset : cursor.nextOffset ≤ u64Max

structure TypedStreamBookmark (bookmark : CommittedStreamBookmark) : Prop where
  id : TypedBookmarkId bookmark.id
  name : bookmarkNameParse bookmark.name.text = .ok bookmark.name
  publication : bookmark.publication ≤ u64Max
  positions : ∀ position ∈ bookmark.vector.positions, TypedCursor position

structure TypedBookmark (bookmark : CommittedBookmark) : Prop where
  id : TypedBookmarkId bookmark.id
  name : bookmarkNameParse bookmark.name.text = .ok bookmark.name
  cursor : TypedCursor bookmark.cursor
  publication : bookmark.publication ≤ u64Max

structure TypedStream (stream : ActiveStreamV1) : Prop where
  descriptor : TypedDescriptor stream.descriptor
  ceiling : stream.bookmarkPublicationCeiling ≤ u64Max
  bookmarks : ∀ bookmark ∈ stream.bookmarks, TypedStreamBookmark bookmark

structure ControlSectionV1.Typed (control : ControlSectionV1) : Prop where
  sourceCluster : control.sourceCluster.uuid < uuidBound
  exportId : control.exportId.uuid < uuidBound
  cut : TypedCut control.cut
  catalogRevision : control.catalogRevision ≤ u64Max
  assignmentCursor : control.assignmentCursor ≤ u64Max
  maxStreams : control.maxStreams ≤ u32Max
  maxPartitionsPerStream : control.maxPartitionsPerStream ≤ u32Max
  configuredDataGroups : ∀ group ∈ control.configuredDataGroups, group.value ≤ u64Max
  streams : ∀ stream ∈ control.streams, TypedStream stream

structure TypedPartition (part : PartitionV1) : Prop where
  sourceCluster : part.sourceCluster.uuid < uuidBound
  stream : part.stream.uuid < uuidBound
  partition : part.partition ≤ u32Max
  retentionFloor : part.retentionFloor ≤ u64Max
  tail : part.tail ≤ u64Max
  ceiling : part.bookmarkPublicationCeiling ≤ u64Max
  records : ∀ record ∈ part.records, record.offset ≤ u64Max
  bookmarks : ∀ bookmark ∈ part.bookmarks, TypedBookmark bookmark

structure DataGroupV1.Typed (data : DataGroupV1) : Prop where
  sourceCluster : data.sourceCluster.uuid < uuidBound
  exportId : data.exportId.uuid < uuidBound
  group : data.group.value ≤ u64Max
  cut : TypedCut data.cut
  partitions : ∀ partition ∈ data.partitions, TypedPartition partition

structure ExportDocumentV1.Typed (document : ExportDocumentV1) : Prop where
  sourceCluster : document.sourceCluster.uuid < uuidBound
  exportId : document.exportId.uuid < uuidBound
  selectedStreams : ∀ stream ∈ document.selectedStreams, stream.uuid < uuidBound
  controlCut : TypedCut document.cut.control
  dataCuts : ∀ cut ∈ TreeMap.values document.cut.data, TypedCut cut
  control : document.control.Typed

structure ExportLimits.Typed (limits : ExportLimits) : Prop where
  maxArtifactBytes : limits.maxArtifactBytes ≤ u64Max
  maxManifestBytes : limits.maxManifestBytes ≤ u64Max
  maxSectionBytes : limits.maxSectionBytes ≤ u64Max
  maxStreams : limits.maxStreams ≤ u64Max
  maxPartitions : limits.maxPartitions ≤ u64Max
  maxRecords : limits.maxRecords ≤ u64Max
  maxBookmarks : limits.maxBookmarks ≤ u64Max
  maxPayloadBytes : limits.maxPayloadBytes ≤ u64Max

/-- Every value a source can return is of the source's types. -/
def TypedSource {σ ε : Type} (source : DataGroupSourceV1 σ ε) : Prop :=
  ∀ state group cut data next, source state group cut = .ok (some data, next) → data.Typed

end LightStream.Export
