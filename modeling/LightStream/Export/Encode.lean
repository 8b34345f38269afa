import LightStream.Export.Codec
import LightStream.Export.Validate

/-!
Writing an export: `encode.rs` of `light-stream-export`.  The writer is a byte buffer whose own
input and output never fail; SHA-256 is a parameter.
-/

namespace LightStream.Export

open Codec (Octets Encoder toOctets)
open Kv (TreeMap)

def lifecycleTag : BookmarkLifecycle → Nat
  | .available => bookmarkLifecycleActiveV1
  | .deleted => bookmarkLifecycleDeletedV1

def encodeCut (cut : GroupCut) : Encoder Unit := do
  putU64 cut.group.value
  putU64 cut.term
  putU64 cut.leader.value
  putU64 cut.appliedIndex

def encodePosition (position : CommittedCursor) : Encoder Unit := do
  putU32 position.partition.partition
  putU64 position.nextOffset

def encodeStreamBookmark (bookmark : CommittedStreamBookmark) : Encoder Unit := do
  putCluster bookmark.vector.cluster
  putStream bookmark.vector.stream
  putBookmark bookmark.id
  putString bookmark.name.text
  putU64 bookmark.publication
  putU8 (lifecycleTag bookmark.lifecycle)
  putLength bookmark.vector.positions
  bookmark.vector.positions.forM encodePosition

def encodePlacement (placement : PartitionPlacement) : Encoder Unit := do
  putU32 placement.partition
  putU64 placement.group.value

def encodeGroup (group : GroupId) : Encoder Unit := putU64 group.value

def encodeStream (stream : ActiveStreamV1) : Encoder Unit := do
  let descriptor := stream.descriptor
  putCluster descriptor.cluster
  putStream descriptor.stream
  putString descriptor.name.text
  putU8 streamLifecycleActiveV1
  putU64 descriptor.revision
  putLength descriptor.placements
  descriptor.placements.forM encodePlacement
  putLength descriptor.readyGroups
  descriptor.readyGroups.forM encodeGroup
  putU64 stream.bookmarkPublicationCeiling
  putLength stream.bookmarks
  stream.bookmarks.forM encodeStreamBookmark

def encodeControl (control : ControlSectionV1) : Encoder Unit := do
  putCluster control.sourceCluster
  putExport control.exportId
  encodeCut control.cut
  putU64 control.catalogRevision
  putU64 control.assignmentCursor
  putU32 control.maxStreams
  putU32 control.maxPartitionsPerStream
  putLength control.configuredDataGroups
  control.configuredDataGroups.forM encodeGroup
  putLength control.streams
  control.streams.forM encodeStream

def encodePartitionBookmark (bookmark : CommittedBookmark) : Encoder Unit := do
  let cursor := bookmark.cursor
  putCluster cursor.cluster
  putStream cursor.partition.stream
  putU32 cursor.partition.partition
  putBookmark bookmark.id
  putString bookmark.name.text
  putU64 cursor.nextOffset
  putU64 bookmark.publication
  putU8 (lifecycleTag bookmark.lifecycle)

def encodeRecord (record : CommittedRecord) : Encoder Unit := do
  putU64 record.offset
  putBytes record.payload

def encodePartition (part : PartitionV1) : Encoder Unit := do
  putCluster part.sourceCluster
  putStream part.stream
  putU32 part.partition
  putU64 part.retentionFloor
  putU64 part.tail
  putU64 part.bookmarkPublicationCeiling
  putLength part.records
  part.records.forM encodeRecord
  putLength part.bookmarks
  part.bookmarks.forM encodePartitionBookmark

def encodeDataGroup (data : DataGroupV1) : Encoder Unit := do
  putCluster data.sourceCluster
  putExport data.exportId
  putU64 data.group.value
  encodeCut data.cut
  putLength data.partitions
  data.partitions.forM encodePartition

def encodeSectionGroup : Option GroupId → Encoder Unit
  | none => putU8 optionNoneV1
  | some group => do
      putU8 optionSomeV1
      putU64 group.value

def encodeSectionDescriptor (descriptor : SectionDescriptorV1) : Encoder Unit := do
  putU64 descriptor.ordinal
  putU16 descriptor.kind.number
  putU16 descriptor.sectionVersion
  encodeSectionGroup descriptor.group
  putU64 descriptor.fileOffset
  putU64 descriptor.itemCount
  putU64 descriptor.payloadLength
  putDigest descriptor.payloadSha256

def encodeManifest (manifest : ExportManifestV1) : Encoder Unit := do
  putU32 manifest.formatVersion
  putU64 manifest.requiredFeatures
  putCluster manifest.sourceCluster
  putExport manifest.exportId
  putLength manifest.selectedStreams
  manifest.selectedStreams.forM putStream
  encodeCut manifest.cut.control
  putLength (TreeMap.values manifest.cut.data)
  (TreeMap.values manifest.cut.data).forM encodeCut
  putLength manifest.sections
  manifest.sections.forM encodeSectionDescriptor
  putU64 manifest.totals.configuredDataGroups
  putU64 manifest.totals.streams
  putU64 manifest.totals.partitions
  putU64 manifest.totals.records
  putU64 manifest.totals.payloadBytes
  putU64 manifest.totals.partitionBookmarks
  putU64 manifest.totals.streamBookmarks
  putU64 manifest.exclusions

structure Output where
  written : Octets
  digested : Octets
  max : Nat
deriving DecidableEq

def Output.new (max : Nat) : Output := ⟨[], [], max⟩

def Output.offset (output : Output) : Nat := output.written.length

section
variable {σ ε : Type}

def mapModel {α : Type} (result : Except ModelError α) : Except (ExportWriteError ε) α :=
  result.mapError fun
    | .limit limit => .limit limit
    | .nonCanonical field => .nonCanonical field
    | .inconsistent field => .inconsistent field

/-- `map_decode_budget`: a budget fails with a limit only. -/
def mapDecodeBudget {α : Type} (result : Except VerifyError α) : Except (ExportWriteError ε) α :=
  result.mapError fun
    | .limit limit => .limit limit
    | _ => .limit "decode budget"

def encoded (encoder : Encoder Unit) (max : Nat) (limit : String) :
    Except (ExportWriteError ε) Octets :=
  (encoder.toBytes max).mapError fun _ => .limit limit

def length {α : Type} (values : List α) (limit : String) : Except (ExportWriteError ε) Nat :=
  if values.length ≤ u64Max then .ok values.length else .error (.limit limit)

namespace Output

def plain (output : Output) (bytes : Octets) : Except (ExportWriteError ε) Output :=
  match checkedAdd output.offset bytes.length with
  | none => .error (.limit "artifact bytes")
  | some next =>
      if next > output.max then .error (.limit "artifact bytes")
      else .ok { output with written := output.written ++ bytes }

def hashed (output : Output) (bytes : Octets) : Except (ExportWriteError ε) Output := do
  let output ← output.plain bytes
  pure { output with digested := output.digested ++ bytes }

def section_ (sha256 : Octets → Digest) (output : Output) (ordinal : Nat) (kind : SectionKindV1)
    (group : Option GroupId) (itemCount : Nat) (payload : Octets) :
    Except (ExportWriteError ε) (Output × SectionDescriptorV1) := do
  let fileOffset := output.offset
  let payloadLength ← length payload "section bytes"
  let payloadSha256 := sha256 payload
  let sectionVersion := kind.version
  let output ← output.hashed (toOctets 2 kind.number)
  let output ← output.hashed (toOctets 2 sectionVersion)
  let output ← output.hashed (toOctets 8 itemCount)
  let output ← output.hashed (toOctets 8 payloadLength)
  let output ← output.hashed (toOctets 32 payloadSha256.toNat)
  let output ← output.hashed payload
  pure (output, {
    ordinal, kind, sectionVersion, group, fileOffset, itemCount, payloadLength, payloadSha256 })

end Output

structure WriteState (σ : Type) where
  source : σ
  validation : DataValidation
  budget : DecodeBudget
  output : Output
  sections : List SectionDescriptorV1

def writeDataGroup (sha256 : Octets → Digest) (context : ValidationContext)
    (catalog : CatalogValidation) (source : DataGroupSourceV1 σ ε) (limits : ExportLimits)
    (ordinal : Nat) (group : GroupId) (cut : GroupCut) (state : WriteState σ) :
    Except (ExportWriteError ε) (WriteState σ) := do
  let (found, sourceState) ← (source state.source group cut).mapError .source
  match found with
  | none => .error (.inconsistent "missing data group")
  | some data =>
      let validation ← mapModel
        (validateDataGroup context group cut data catalog limits state.validation)
      let budget ← mapDecodeBudget (state.budget.reserveDataGroupModel data)
      let payload ← encoded (encodeDataGroup data) limits.maxSectionBytes "section bytes"
      let itemCount ← length data.partitions "partitions"
      let (output, descriptor) ← state.output.section_ sha256 ordinal .dataGroup (some group)
        itemCount payload
      pure {
        source := sourceState
        validation, budget, output
        sections := state.sections ++ [descriptor] }

def writeDataGroups (sha256 : Octets → Digest) (context : ValidationContext)
    (catalog : CatalogValidation) (source : DataGroupSourceV1 σ ε) (limits : ExportLimits) :
    Nat → List (GroupId × GroupCut) → WriteState σ → Except (ExportWriteError ε) (WriteState σ)
  | _, [], state => .ok state
  | ordinal, (group, cut) :: rest, state => do
      let state ← writeDataGroup sha256 context catalog source limits ordinal group cut state
      writeDataGroups sha256 context catalog source limits (ordinal + 1) rest state

def prologueV1 (requiredFeatures : Nat) : List Octets :=
  [magicV1, toOctets 4 formatVersionV1, toOctets 8 requiredFeatures]

/-- `write_v1` on a writer that holds `existing`: the bytes it leaves there and the identity. -/
def writeV1 (sha256 : Octets → Digest) (existing : Octets) (document : ExportDocumentV1)
    (source : DataGroupSourceV1 σ ε) (initial : σ) (limits : ExportLimits) :
    Except (ExportWriteError ε) (Octets × ArtifactIdentity) := do
  let context := ValidationContext.fromDocument document
  let catalog ← mapModel (validateControl context limits)
  if existing ≠ [] then .error (.inconsistent "output must be empty")
  else do
    let budget ← mapDecodeBudget
      ((DecodeBudget.new limits).reserveManifestModel document.selectedStreams)
    let output ← (prologueV1 document.requiredFeatures).foldlM Output.hashed
      (Output.new limits.maxArtifactBytes)
    let budget ← mapDecodeBudget (budget.reserveControlModel document.control)
    let controlPayload ← encoded (encodeControl document.control) limits.maxSectionBytes
      "section bytes"
    let controlCount ← length document.control.streams "streams"
    let (output, controlSection) ← output.section_ sha256 0 .control none controlCount
      controlPayload
    let state ← writeDataGroups sha256 context catalog source limits 1 document.cut.data.toList {
      source := initial
      validation := .initial
      budget, output
      sections := [controlSection] }
    let validation ← mapModel (finishValidation context catalog limits state.validation)
    let manifest : ExportManifestV1 := {
      formatVersion := formatVersionV1
      requiredFeatures := document.requiredFeatures
      sourceCluster := document.sourceCluster
      exportId := document.exportId
      selectedStreams := document.selectedStreams
      cut := document.cut
      sections := state.sections
      totals := validation.totals
      exclusions := document.exclusions }
    let manifestBytes ← encoded (encodeManifest manifest) limits.maxManifestBytes "manifest bytes"
    let manifestOffset := state.output.offset
    let manifestLength ← length manifestBytes "manifest bytes"
    let output ← state.output.hashed (toOctets 8 manifestLength)
    let output ← output.hashed manifestBytes
    match checkedAdd output.offset trailerBytesV1 with
    | none => .error (.limit "artifact bytes")
    | some artifactLength =>
        if artifactLength > limits.maxArtifactBytes then .error (.limit "artifact bytes")
        else do
          let digest := sha256 output.digested
          let output ← output.plain (toOctets 8 manifestOffset)
          let output ← output.plain (toOctets 8 artifactLength)
          let output ← output.plain (toOctets 32 digest.toNat)
          let output ← output.plain trailerMagicV1
          if nonempty : artifactLength = 0 then .error (.inconsistent "artifact identity")
          else pure (output.written, ⟨artifactLength, digest.toNat, nonempty⟩)

end

end LightStream.Export
